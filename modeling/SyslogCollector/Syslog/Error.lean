/-!
# Why a frame is not a message
-/

namespace SyslogCollector.Syslog

/-- The reasons for which a frame cannot be read as a message. -/
inductive ParseError where
  /-- Nothing is left once the line ending is taken off. -/
  | empty
  /-- The priority header is missing, unterminated or no number. -/
  | invalidPriority
  /-- The priority is a number above 191. -/
  | priorityOutOfRange (value : Nat)
  /-- The version is not 1. -/
  | unsupportedVersion (version : String)
  /-- The timestamp is no RFC 3339 timestamp. -/
  | invalidTimestamp (text : String)
  /-- The text ends before the named field. -/
  | missingField (field : String)
  /-- The structured data is not closed, or something is glued to it. -/
  | invalidStructuredData
  /-- No severity has this name. -/
  | unknownSeverity (name : String)
  deriving DecidableEq, Repr

/-- The text shown to people. -/
def ParseError.message : ParseError → String
  | .empty => "empty message"
  | .invalidPriority => "missing or malformed PRI header"
  | .priorityOutOfRange value => "PRI value " ++ toString value ++ " out of range"
  | .unsupportedVersion version => "unsupported syslog version: " ++ version
  | .invalidTimestamp text => "invalid timestamp: " ++ text
  | .missingField field => "missing required field: " ++ field
  | .invalidStructuredData => "malformed structured data"
  | .unknownSeverity name => "unknown severity: " ++ name

end SyslogCollector.Syslog
