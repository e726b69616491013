import SyslogCollector.Settings.Document
import SyslogCollector.Settings.Error
/-!
# Which settings can be used

A configuration is refused if its settings contradict each other or could not work. Sections are
checked in a fixed order, and the first complaint counts.
-/

namespace SyslogCollector.Settings

/-- The greatest limit on the size of a syslog message. -/
def greatestMessageSize : Nat := 65536

/-- Refuses unless the condition holds. -/
def require (condition : Bool) (complaint : SettingsError) : Except SettingsError Unit :=
  if condition then .ok () else .error complaint

/-- Checks the syslog listener: something listens, and messages may have a size. -/
def checkSyslog (s : Settings) : Except SettingsError Unit := do
  require (s.syslog.tcp.enabled || s.syslog.udp.enabled) .noListeners
  require (1 ≤ s.syslog.maxMessageSize && s.syslog.maxMessageSize ≤ greatestMessageSize)
    (.invalidValue "syslog" "max_message_size"
      ("must be between 1 and " ++ toString greatestMessageSize))

/-- Checks how to reach InfluxDB. -/
def checkInfluxDb (i : InfluxDbSettings) : Except SettingsError Unit := do
  require (!i.url.isEmpty) (.missingField "datastore.influxdb" "url")
  require (i.url.startsWith "http://" || i.url.startsWith "https://")
    (.invalidValue "datastore.influxdb" "url" "must start with http:// or https://")
  require (!i.database.isEmpty) (.missingField "datastore.influxdb" "database")
  require (i.username.isEmpty == i.password.isEmpty)
    (.invalidValue "datastore.influxdb" "username" "username and password must be set together")

/-- Checks the store. Settings of InfluxDB count only where it is the store. -/
def checkDatastore (s : Settings) : Except SettingsError Unit := do
  require (!s.datastore.writeInterval.isZero)
    (.invalidValue "datastore" "write_interval" "must be greater than 0")
  if s.datastore.backend = .influxDb then checkInfluxDb s.datastore.influxDb

/-- Checks the live tail. Its settings count only where it is enabled. -/
def checkTail (s : Settings) : Except SettingsError Unit := do
  if s.tail.enabled then
    require (s.tail.subscriberBuffer != 0)
      (.invalidValue "tail" "subscriber_buffer" "must be greater than 0")
    require (!(s.syslog.tcp.enabled && s.syslog.tcp.bindAddress == s.tail.address))
      (.duplicateAddress s.tail.address "syslog.tcp" "tail")

/-- Checks the collector's own log: it may not go between the lines of the console sink. -/
def checkLog (s : Settings) : Except SettingsError Unit :=
  require (!(s.syslog.logToStdout && s.log.output.isStdout))
    (.invalidValue "log" "output" "cannot be stdout while syslog.log_to_stdout is enabled")

/-- Checks all settings. -/
def check (s : Settings) : Except SettingsError Unit := do
  checkSyslog s
  checkDatastore s
  checkTail s
  checkLog s

/-- The settings of a configuration text. -/
def ofText (text : String) : Except SettingsError Settings := do
  match (Toml.parse? text).bind ofDocument? with
  | none => .error .malformed
  | some s =>
    check s
    return s

end SyslogCollector.Settings
