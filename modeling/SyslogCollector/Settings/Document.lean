import SyslogCollector.Settings.Basic
import SyslogCollector.Toml.Reader
/-!
# Settings in a TOML document

Every table is a record whose fields may be missing. Other entries count for nothing, so a file
may hold what a later version understands.
-/

namespace SyslogCollector.Toml.Value

/-- The text of a string. -/
def text? : Value → Option String
  | .string text => some text
  | _ => none

/-- A truth value. -/
def bool? : Value → Option Bool
  | .bool value => some value
  | _ => none

/-- An integer from 0 up to a greatest one. -/
def natUpTo? (greatest : Nat) : Value → Option Nat
  | .integer n => if 0 ≤ n ∧ n ≤ greatest then some n.toNat else none
  | _ => none

/-- Whether the value is an array or a table without anything in it. -/
def isVoid : Value → Bool
  | .array items => items.isEmpty
  | .table _ entries => entries.isEmpty
  | .tables items => items.isEmpty
  | _ => false

/-- The name of an alternative: a string, or a table whose only entry has that key and nothing in
it. -/
def alternative? : Value → Option String
  | .string text => some text
  | .table _ [(key, v)] => if v.isVoid then some key else none
  | _ => none

/-- The fields of a record, in the order of their names, each with its value if it is there. A
record is a table, or an array of the values in order. A date is a record without any of the
fields. -/
def fields? (names : List String) : Value → Option (List (Option Value))
  | .table _ entries => some (names.map fun name => entries.lookup name)
  | .array items => some (names.zipIdx.map fun (_, i) => items[i]?)
  | .tables items =>
    some (names.zipIdx.map fun (_, i) => (items[i]?).map (.table .header))
  | .dateTime => some (names.map fun _ => none)
  | _ => none

end SyslogCollector.Toml.Value

namespace SyslogCollector.Settings

open Toml (Value)

/-- A field that may be missing: then it has its default. -/
def field? (default : α) (read : Value → Option α) : Option Value → Option α
  | none => some default
  | some v => read v

/-- A duration, written as text. -/
def duration? (v : Value) : Option Duration := do
  Duration.parse? (← v.text?)

/-- The greatest port. -/
def greatestPort : Nat := 0xFFFF

/-- The greatest size. -/
def greatestSize : Nat := 0xFFFFFFFFFFFFFFFF

/-- The section on the collector's own log. -/
def LogSettings.ofDocument? (v : Value) : Option LogSettings := do
  match ← v.fields? ["level", "format", "output"] with
  | [level, format, output] =>
    some {
      level := ← field? .info (fun v => do LogLevel.ofName? (← v.alternative?)) level
      format := ← field? .console (fun v => do LogFormat.ofName? (← v.alternative?)) format
      output := ← field? .stderr (fun v => v.text?.map LogOutput.ofText) output }
  | _ => none

/-- The section on one endpoint. -/
def EndpointSettings.ofDocument? (v : Value) : Option EndpointSettings := do
  let d : EndpointSettings := {}
  match ← v.fields? ["enabled", "address", "port"] with
  | [enabled, address, port] =>
    some {
      enabled := ← field? d.enabled Value.bool? enabled
      address := ← field? d.address Value.text? address
      port := ← field? d.port (Value.natUpTo? greatestPort) port }
  | _ => none

/-- The section on the syslog listener. -/
def SyslogSettings.ofDocument? (v : Value) : Option SyslogSettings := do
  let d : SyslogSettings := {}
  match ← v.fields? ["tcp", "udp", "format", "max_message_size", "log_to_stdout", "color",
      "connection_timeout"] with
  | [tcp, udp, format, maxMessageSize, logToStdout, colour, connectionTimeout] =>
    some {
      tcp := ← field? d.tcp EndpointSettings.ofDocument? tcp
      udp := ← field? d.udp EndpointSettings.ofDocument? udp
      format := ← field? d.format (fun v => do Syslog.Mode.ofName? (← v.alternative?)) format
      maxMessageSize := ← field? d.maxMessageSize (Value.natUpTo? greatestSize) maxMessageSize
      logToStdout := ← field? d.logToStdout Value.bool? logToStdout
      colour := ← field? d.colour Value.bool? colour
      connectionTimeout := ← field? d.connectionTimeout duration? connectionTimeout }
  | _ => none

/-- The section on InfluxDB. -/
def InfluxDbSettings.ofDocument? (v : Value) : Option InfluxDbSettings := do
  let d : InfluxDbSettings := {}
  match ← v.fields? ["url", "database", "username", "password", "insecure_skip_verify",
      "timeout"] with
  | [url, database, username, password, insecureSkipVerify, timeout] =>
    some {
      url := ← field? d.url Value.text? url
      database := ← field? d.database Value.text? database
      username := ← field? d.username Value.text? username
      password := ← field? d.password Value.text? password
      insecureSkipVerify := ← field? d.insecureSkipVerify Value.bool? insecureSkipVerify
      timeout := ← field? d.timeout duration? timeout }
  | _ => none

/-- The section on the store. -/
def DatastoreSettings.ofDocument? (v : Value) : Option DatastoreSettings := do
  let d : DatastoreSettings := {}
  match ← v.fields? ["backend", "write_interval", "influxdb"] with
  | [backend, writeInterval, influxDb] =>
    some {
      backend := ← field? d.backend (fun v => do Backend.ofName? (← v.alternative?)) backend
      writeInterval := ← field? d.writeInterval duration? writeInterval
      influxDb := ← field? d.influxDb InfluxDbSettings.ofDocument? influxDb }
  | _ => none

/-- The section on the live tail. -/
def TailSettings.ofDocument? (v : Value) : Option TailSettings := do
  let d : TailSettings := {}
  match ← v.fields? ["enabled", "address", "subscriber_buffer", "max_connections"] with
  | [enabled, address, subscriberBuffer, maxConnections] =>
    some {
      enabled := ← field? d.enabled Value.bool? enabled
      address := ← field? d.address Value.text? address
      subscriberBuffer := ← field? d.subscriberBuffer (Value.natUpTo? greatestSize) subscriberBuffer
      maxConnections := ← field? d.maxConnections (Value.natUpTo? greatestSize) maxConnections }
  | _ => none

/-- All settings. -/
def ofDocument? (v : Value) : Option Settings := do
  match ← v.fields? ["log", "syslog", "datastore", "tail"] with
  | [log, syslog, datastore, tail] =>
    some {
      log := ← field? {} LogSettings.ofDocument? log
      syslog := ← field? {} SyslogSettings.ofDocument? syslog
      datastore := ← field? {} DatastoreSettings.ofDocument? datastore
      tail := ← field? {} TailSettings.ofDocument? tail }
  | _ => none

end SyslogCollector.Settings
