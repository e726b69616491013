import SyslogCollector.Message.Basic
import SyslogCollector.Syslog.Error
import SyslogCollector.Text.Blank
import SyslogCollector.Text.Decimal
/-!
# The parts that both dialects share

A message starts with its priority in angle brackets, and header fields are words that single
spaces separate.
-/

namespace SyslogCollector.Syslog

open Text

/-- The greatest priority: facility 23, severity 7. -/
def maxPriority : Nat := 191

/-- Splits the priority header off a message: facility, severity and the text after it. -/
def splitPriority (text : List Char) : Except ParseError (Facility × Severity × List Char) :=
  match afterChar? '<' text with
  | none => .error .invalidPriority
  | some rest =>
    match splitAt? (· = '>') rest with
    | none => .error .invalidPriority
    | some (digits, rest) =>
      if digits.isEmpty || 3 < digits.length || !digits.all Char.isDigit then
        .error .invalidPriority
      else
        let value := Decimal.value digits
        if maxPriority < value then .error (.priorityOutOfRange value)
        else match Facility.ofCode? (value / 8), Severity.ofCode? (value % 8) with
          | some facility, some severity => .ok (facility, severity, rest)
          | _, _ => .error (.priorityOutOfRange value)

/-- The next word of a header and the text after the space that ends it. At the end of the text
there is none. -/
def nextWord? (text : List Char) : Option (List Char × List Char) :=
  if text.isEmpty then none
  else some ((splitAt? (· = ' ') text).getD (text, []))

/-- The next word of a header, or the complaint that the named field is missing. -/
def word (field : String) (text : List Char) : Except ParseError (List Char × List Char) :=
  match nextWord? text with
  | some cut => .ok cut
  | none => .error (.missingField field)

end SyslogCollector.Syslog
