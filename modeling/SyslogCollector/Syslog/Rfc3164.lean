import SyslogCollector.Syslog.Header
import SyslogCollector.Time.BsdStamp
/-!
# BSD syslog

`<PRI>Mmm dd hh:mm:ss HOST TAG[PID]: MSG`. Senders vary a lot, so stamp and tag are optional, and
what does not look like a tag is part of the text.
-/

namespace SyslogCollector.Syslog.Rfc3164

open Text

/-- The characters of a tag. -/
def isTagChar (c : Char) : Bool :=
  c.isAlphanum || c == '-' || c == '_' || c == '.' || c == '/'

/-- The longest tag. -/
def maxTagLength : Nat := 32

/-- What stands after the tag: a process id in square brackets, if there is one. Without brackets
a colon has to follow. -/
def afterProcessId? : List Char → Option (List Char)
  | '[' :: s => (splitAt? (· = ']') s).map (·.2)
  | ':' :: s => some (':' :: s)
  | _ => none

/-- The text after an optional character. -/
def dropOptional (c : Char) (s : List Char) : List Char :=
  (afterChar? c s).getD s

/-- Splits `TAG[PID]: MSG` into tag and text. The tag is empty, and the text is everything, where
the front does not have that shape. -/
def splitTag (text : List Char) : List Char × List Char :=
  let tag := text.takeWhile isTagChar
  if tag.isEmpty || maxTagLength < tag.length then ([], text)
  else match afterProcessId? (text.drop tag.length) with
    | some rest => (tag, dropOptional ' ' (dropOptional ':' rest))
    | none => ([], text)

/-- The hostname after a stamp, and the rest. Without a stamp there is no hostname. -/
def splitHost (text : List Char) : Except ParseError (List Char × List Char) :=
  match BsdStamp.after? text with
  | some rest => word "hostname" (rest.dropWhile (· = ' '))
  | none => .ok ([], text)

/-- Reads a message of the BSD dialect. Its time is when it was received. -/
def parse (text : List Char) (received : Instant) : Except ParseError Message := do
  let (facility, severity, rest) ← splitPriority text
  let (host, rest) ← splitHost rest
  let (tag, body) := splitTag rest
  return {
    timestamp := received
    hostname := String.ofList host
    severity
    facility
    appName := String.ofList tag
    body := String.ofList body
    dialect := .rfc3164 }

end SyslogCollector.Syslog.Rfc3164
