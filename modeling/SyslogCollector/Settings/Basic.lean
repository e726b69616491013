import SyslogCollector.Syslog.Mode
import SyslogCollector.Time.Duration
/-!
# Settings

What a configuration file may set, with a default for everything: a file only names what differs
from these.
-/

namespace SyslogCollector.Settings

/-- How much the collector tells about itself. -/
inductive LogLevel where
  | trace | debug | info | warn | error
  deriving DecidableEq, Repr, Inhabited

namespace LogLevel

/-- The name, in lower case. -/
def name : LogLevel → String
  | .trace => "trace"
  | .debug => "debug"
  | .info => "info"
  | .warn => "warn"
  | .error => "error"

/-- The level of exactly this name. -/
def ofName? (text : String) : Option LogLevel :=
  [.trace, .debug, .info, .warn, .error].find? (·.name == text)

/-- The parts of the program that the level is for. All others stay at `warn`. -/
def components : List String :=
  ["lumber", "lumber_config", "lumber_pipeline", "lumber_protocol", "lumber_sinks",
    "lumber_sources", "lumber_tap"]

/-- The filter that lets pass what the level asks for. -/
def filter (level : LogLevel) : String :=
  String.intercalate "," ("warn" :: components.map fun c => c ++ "=" ++ level.name)

end LogLevel

/-- The form of the collector's own log lines. -/
inductive LogFormat where
  | console | json
  deriving DecidableEq, Repr, Inhabited

namespace LogFormat

/-- The name, in lower case. -/
def name : LogFormat → String
  | .console => "console"
  | .json => "json"

/-- The format of exactly this name. -/
def ofName? (text : String) : Option LogFormat :=
  [.console, .json].find? (·.name == text)

end LogFormat

/-- Where the collector's own log lines go. -/
inductive LogOutput where
  | stderr
  | stdout
  | file (path : String)
  deriving DecidableEq, Repr, Inhabited

namespace LogOutput

/-- The output that a text names; all but the two streams is the path of a file. -/
def ofText (text : String) : LogOutput :=
  if text = "stderr" then .stderr
  else if text = "stdout" then .stdout
  else .file text

/-- Whether the lines would go between those of the console sink. -/
def isStdout (output : LogOutput) : Bool :=
  output == .stdout

end LogOutput

/-- The collector's own log. -/
structure LogSettings where
  level : LogLevel := .info
  format : LogFormat := .console
  output : LogOutput := .stderr
  deriving DecidableEq, Repr, Inhabited

/-- One endpoint for syslog messages. -/
structure EndpointSettings where
  enabled : Bool := true
  address : String := "0.0.0.0"
  port : Nat := 514
  deriving DecidableEq, Repr, Inhabited

/-- The address and the port to listen on. -/
def EndpointSettings.bindAddress (e : EndpointSettings) : String :=
  e.address ++ ":" ++ toString e.port

/-- The syslog listener. -/
structure SyslogSettings where
  tcp : EndpointSettings := {}
  udp : EndpointSettings := {}
  format : Syslog.Mode := .automatic
  maxMessageSize : Nat := 8192
  /-- Whether the console sink shows every message. -/
  logToStdout : Bool := false
  colour : Bool := true
  /-- How long a connection may be idle; 0 is for ever. -/
  connectionTimeout : Duration := .ofSeconds 300
  deriving DecidableEq, Repr, Inhabited

/-- The kinds of stores. -/
inductive Backend where
  | influxDb | memory
  deriving DecidableEq, Repr, Inhabited

namespace Backend

/-- The name, in lower case. -/
def name : Backend → String
  | .influxDb => "influxdb"
  | .memory => "memory"

/-- The kind of exactly this name. -/
def ofName? (text : String) : Option Backend :=
  [.influxDb, .memory].find? (·.name == text)

end Backend

/-- How to reach InfluxDB. -/
structure InfluxDbSettings where
  url : String := "http://localhost:8086"
  database : String := "lumber"
  username : String := ""
  password : String := ""
  insecureSkipVerify : Bool := false
  timeout : Duration := .ofSeconds 30
  deriving DecidableEq, Repr, Inhabited

/-- The store. -/
structure DatastoreSettings where
  backend : Backend := .influxDb
  writeInterval : Duration := .ofSeconds 1
  influxDb : InfluxDbSettings := {}
  deriving DecidableEq, Repr, Inhabited

/-- The live tail. -/
structure TailSettings where
  enabled : Bool := true
  address : String := "127.0.0.1:5515"
  subscriberBuffer : Nat := 256
  maxConnections : Nat := 100
  deriving DecidableEq, Repr, Inhabited

end SyslogCollector.Settings

namespace SyslogCollector

/-- All settings of the collector. -/
structure Settings where
  log : Settings.LogSettings := {}
  syslog : Settings.SyslogSettings := {}
  datastore : Settings.DatastoreSettings := {}
  tail : Settings.TailSettings := {}
  deriving DecidableEq, Repr, Inhabited

namespace Settings

/-- The names of the endpoints for syslog messages that are enabled. -/
def enabledListeners (s : Settings) : List String :=
  (if s.syslog.tcp.enabled then ["tcp"] else []) ++ (if s.syslog.udp.enabled then ["udp"] else [])

end Settings

end SyslogCollector
