import SyslogCollector.Time.Instant
import SyslogCollector.Message.Severity
import SyslogCollector.Message.Facility
/-!
# Log messages

A log message is what a parsed syslog frame becomes and what every sink takes.
-/

namespace SyslogCollector

/-- The two dialects of syslog. -/
inductive Dialect where
  /-- BSD syslog. -/
  | rfc3164
  /-- IETF syslog. -/
  | rfc5424
  deriving DecidableEq, Repr, Inhabited

namespace Dialect

/-- The name, in lower case. -/
def name : Dialect → String
  | .rfc3164 => "rfc3164"
  | .rfc5424 => "rfc5424"

/-- The dialect of exactly this name. -/
def ofName? (text : String) : Option Dialect :=
  [.rfc3164, .rfc5424].find? (·.name == text)

end Dialect

/-- One log record. -/
structure Message where
  /-- When the sender says it happened; for BSD syslog, when it was received. -/
  timestamp : Instant
  /-- The host it comes from; empty if unknown. -/
  hostname : String
  /-- How severe it is. -/
  severity : Severity
  /-- Which part of the system it comes from. -/
  facility : Facility
  /-- The application that wrote it; empty if unknown. It is the key that messages are stored and
  found under. -/
  appName : String
  /-- The text. -/
  body : String
  /-- The dialect it was read in. -/
  dialect : Dialect
  deriving DecidableEq, Repr, Inhabited

namespace Message

/-- The timestamp to store a message under. A BSD stamp has neither year nor zone, so such a
message counts from when it was received. -/
def storageTime (m : Message) (received : Instant) : Instant :=
  match m.dialect with
  | .rfc3164 => received
  | .rfc5424 => m.timestamp

/-- Whether the message names its application. -/
def hasAppName (m : Message) : Bool :=
  !m.appName.isEmpty

end Message

/-- What a reader of stored messages asks for. -/
structure QueryParams where
  /-- The application whose messages are wanted; required. -/
  appName : String := ""
  /-- Only messages of this host. -/
  hostname : Option String := none
  /-- Only messages from this instant on. -/
  start : Option Instant := none
  /-- Only messages up to this instant. -/
  stop : Option Instant := none
  /-- Accepted in documents, and not applied by any store. -/
  severity : Option Severity := none
  deriving DecidableEq, Repr, Inhabited

namespace QueryParams

/-- The host to filter by: an empty name is no filter. -/
def hostFilter (p : QueryParams) : Option String :=
  p.hostname.filter (!·.isEmpty)

end QueryParams

end SyslogCollector
