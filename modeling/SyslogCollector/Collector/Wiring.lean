import SyslogCollector.Console
import SyslogCollector.Hub.Basic
import SyslogCollector.Listener.Basic
import SyslogCollector.Settings.Basic
import SyslogCollector.Store.Influx.Backend
import SyslogCollector.Store.Writer.Basic
import SyslogCollector.Tail.Basic
/-!
# What each component gets out of the settings
-/

namespace SyslogCollector.Settings

/-- How the listener is set up: an endpoint that is not enabled has no address. -/
def listenerOptions (s : Settings) : Listener.Options where
  tcp := if s.syslog.tcp.enabled then some s.syslog.tcp.bindAddress else none
  udp := if s.syslog.udp.enabled then some s.syslog.udp.bindAddress else none
  mode := s.syslog.format
  maxMessageSize := s.syslog.maxMessageSize
  idleTimeout := s.syslog.connectionTimeout

/-- How the console sink is set up. -/
def console (s : Settings) : Console.State := { colour := s.syslog.colour }

/-- The sizes of the hub: it takes as many subscribers as the live tail takes clients. -/
def hubLimits (s : Settings) : Hub.Limits :=
  (({} : Hub.Limits).withSubscriberBuffer s.tail.subscriberBuffer).withMaxSubscribers
    s.tail.maxConnections

/-- How the live tail is set up. -/
def tailOptions (s : Settings) : Tail.Options where
  address := s.tail.address
  maxConnections := s.tail.maxConnections

/-- How the writer is tuned. -/
def writerTuning (s : Settings) : Store.Writer.Tuning :=
  ({} : Store.Writer.Tuning).withWriteInterval s.datastore.writeInterval

/-- How InfluxDB is reached. Without a user name nobody is said to ask. -/
def influxOptions (s : Settings) : Store.Influx.Options where
  url := s.datastore.influxDb.url
  database := s.datastore.influxDb.database
  credentials :=
    if s.datastore.influxDb.username.isEmpty then none
    else some ⟨s.datastore.influxDb.username, some s.datastore.influxDb.password⟩
  insecureSkipVerify := s.datastore.influxDb.insecureSkipVerify
  timeout := s.datastore.influxDb.timeout

/-- The store: one in memory, or InfluxDB over a transport. -/
def store (s : Settings) (t : Store.Influx.Transport τ) : Store.Backend (MemoryStore × τ) :=
  match s.datastore.backend with
  | .memory => Store.Backend.memory.onFst
  | .influxDb => (Store.Influx.backend s.influxOptions t).onSnd

end SyslogCollector.Settings
