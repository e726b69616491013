import SyslogCollector.Json.Reader
import SyslogCollector.Json.Writer
import SyslogCollector.Syslog.Mode
import SyslogCollector.Time.Rfc3339
/-!
# Messages and queries as JSON documents

Each kind of data has a name for every alternative, records are objects or arrays, and times are
RFC 3339 timestamps, read with the relaxed reader.
-/

namespace SyslogCollector

open Json

/-- A time in a document. -/
def Instant.ofDocument? (v : Value) : Option Instant := do
  Rfc3339.parse? (← v.text?).toList

/-- A time as a document writes it. -/
def Instant.toDocument (t : Instant) : String :=
  quote (Rfc3339.render .fewest t)

/-- A severity in a document. -/
def Severity.ofDocument? (v : Value) : Option Severity := do
  Severity.ofName? (← v.alternative?)

/-- A facility in a document. -/
def Facility.ofDocument? (v : Value) : Option Facility := do
  Facility.ofDocumentName? (← v.alternative?)

/-- A dialect in a document. -/
def Dialect.ofDocument? (v : Value) : Option Dialect := do
  Dialect.ofName? (← v.alternative?)

/-- A mode in a document. -/
def Syslog.Mode.ofDocument? (v : Value) : Option Syslog.Mode := do
  Syslog.Mode.ofName? (← v.alternative?)

namespace Message

/-- The fields of a message in a document, in order. -/
def fieldNames : List String :=
  ["timestamp", "hostname", "severity", "facility", "binary_name", "message", "format"]

/-- A message in a document. Every field has to be there. -/
def ofDocument? (v : Value) : Option Message := do
  match ← v.fields? fieldNames with
  | [some timestamp, some hostname, some severity, some facility, some appName, some body,
      some dialect] =>
    some {
      timestamp := ← Instant.ofDocument? timestamp
      hostname := ← hostname.text?
      severity := ← Severity.ofDocument? severity
      facility := ← Facility.ofDocument? facility
      appName := ← appName.text?
      body := ← body.text?
      dialect := ← Dialect.ofDocument? dialect }
  | _ => none

/-- The document of a message. -/
def toDocument (m : Message) : String :=
  writeObject (fieldNames.zip
    [m.timestamp.toDocument, quote m.hostname, quote m.severity.name,
      quote m.facility.documentName, quote m.appName, quote m.body, quote m.dialect.name])

end Message

namespace QueryParams

/-- The fields of a query in a document, in order. -/
def fieldNames : List String :=
  ["binary_name", "hostname", "start_date", "end_date", "severity"]

/-- A field that may be missing: then it has its default. -/
def optional? (default : α) (read : Value → Option α) : Option Value → Option α
  | none => some default
  | some v => read v

/-- A query in a document. Every field may be missing. -/
def ofDocument? (v : Value) : Option QueryParams := do
  match ← v.fields? fieldNames with
  | [appName, hostname, start, stop, severity] =>
    some {
      appName := ← optional? "" Value.text? appName
      hostname := ← optional? none (Value.nullable? Value.text?) hostname
      start := ← optional? none (Value.nullable? Instant.ofDocument?) start
      stop := ← optional? none (Value.nullable? Instant.ofDocument?) stop
      severity := ← optional? none (Value.nullable? Severity.ofDocument?) severity }
  | _ => none

/-- The document of a query. -/
def toDocument (p : QueryParams) : String :=
  writeObject (fieldNames.zip
    [quote p.appName, quoteOrNull p.hostname,
      quoteOrNull (p.start.map (Rfc3339.render .fewest)),
      quoteOrNull (p.stop.map (Rfc3339.render .fewest)),
      quoteOrNull (p.severity.map Severity.name)])

end QueryParams

end SyslogCollector
