import SyslogCollector.Time.Calendar
import SyslogCollector.Text.Blank
import SyslogCollector.Text.Decimal
/-!
# BSD timestamps

The stamp `Mmm dd hh:mm:ss` of BSD syslog names neither year nor zone, so it is never used as a
time. It only has to be recognised, because the hostname follows it.
-/

namespace SyslogCollector.BsdStamp

open Text Decimal

/-- The months by their three letters. -/
def months : List (List Char) :=
  ["jan", "feb", "mar", "apr", "may", "jun", "jul", "aug", "sep", "oct", "nov", "dec"].map
    String.toList

/-- The number of bytes of a stamp. -/
def size : Nat := 15

/-- A month by its three letters, in any case. -/
def month? (s : List Char) : Option (Nat × List Char) :=
  let name := (s.take 3).map Char.toLower
  (months.findIdx? (· == name)).map fun i => (i + 1, s.drop 3)

/-- Whether the text is a stamp. Blanks may stand in front of every field, and the day has to be
one of a leap year, since a stamp of 29 February is good in some year. -/
def isStamp (s : List Char) : Bool :=
  let read : Option (Date × Nat × Nat × Nat × List Char) := do
    let (month, s) ← month? (skipBlank s)
    let (day, s) ← number? 1 2 (skipBlank s)
    let (hour, s) ← number? 1 2 (skipBlank s)
    let s ← afterChar? ':' s
    let (minute, s) ← number? 1 2 (skipBlank s)
    let s ← afterChar? ':' s
    let (second, s) ← number? 1 2 (skipBlank s)
    some (⟨2000, month, day⟩, hour, minute, second, s)
  match read with
  | some (date, hour, minute, second, rest) =>
    date.isValid && hour < 24 && minute < 60 && second ≤ 60 && rest.isEmpty
  | none => false

/-- The front of the text that fills `bytes` bytes exactly, and the rest. There is none if the
text is shorter or a character lies across the cut. -/
def cutBytes? : Nat → List Char → Option (List Char × List Char)
  | 0, s => some ([], s)
  | _ + 1, [] => none
  | n + 1, c :: s =>
    if c.utf8Size ≤ n + 1 then
      (cutBytes? (n + 1 - c.utf8Size) s).map fun (front, rest) => (c :: front, rest)
    else none
  termination_by _ s => s.length

/-- The text after a stamp in front of it. -/
def after? (s : List Char) : Option (List Char) :=
  match cutBytes? size s with
  | some (front, rest) => if isStamp front then some rest else none
  | none => none

end SyslogCollector.BsdStamp
