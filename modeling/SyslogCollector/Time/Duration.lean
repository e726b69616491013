import SyslogCollector.Text.Blank
import SyslogCollector.Text.Decimal
/-!
# Durations

Spans of time with nanosecond grain. Configuration files write them as numbers with units
(`1h 30m`, `250ms`, `1.5s`); error texts show them as one decimal number in the largest unit that
leaves a whole part.
-/

namespace SyslogCollector

/-- A span of time, in nanoseconds. -/
structure Duration where
  /-- The whole span. -/
  nanos : Nat
  deriving DecidableEq, Repr, Inhabited

namespace Duration

/-- Nanoseconds in a second. -/
def second : Nat := 1000000000

/-- A span of whole seconds. -/
def ofSeconds (n : Nat) : Duration := ⟨n * second⟩

/-- A span of whole milliseconds. -/
def ofMillis (n : Nat) : Duration := ⟨n * 1000000⟩

/-- The whole seconds of the span. -/
def seconds (d : Duration) : Nat := d.nanos / second

/-- The nanoseconds beyond the whole seconds. -/
def subsecond (d : Duration) : Nat := d.nanos % second

/-- The longest span: its whole seconds fill 64 bits. -/
def longest : Duration := ⟨0x10000000000000000 * second - 1⟩

/-- Whether the span is empty. -/
def isZero (d : Duration) : Bool := d.nanos == 0

/-! ## Reading -/

/-- The units of written durations. -/
inductive TimeUnit where
  | nanosecond | microsecond | millisecond | second | minute | hour | day | week | month | year
  deriving DecidableEq, Repr

namespace TimeUnit

/-- A unit by one of its spellings. -/
def ofName? (name : String) : Option TimeUnit :=
  if name ∈ ["nanos", "nsec", "ns"] then some .nanosecond
  else if name ∈ ["usec", "us", "µs"] then some .microsecond
  else if name ∈ ["millis", "msec", "ms"] then some .millisecond
  else if name ∈ ["seconds", "second", "secs", "sec", "s"] then some .second
  else if name ∈ ["minutes", "minute", "mins", "min", "m"] then some .minute
  else if name ∈ ["hours", "hour", "hrs", "hr", "h"] then some .hour
  else if name ∈ ["days", "day", "d"] then some .day
  else if name ∈ ["weeks", "week", "wks", "wk", "w"] then some .week
  else if name ∈ ["months", "month", "M"] then some .month
  else if name ∈ ["years", "year", "yrs", "yr", "y"] then some .year
  else none

/-- How many nanoseconds or seconds one unit has: nanoseconds below the second, seconds from there
on. A month is 30.44 days and a year 365.25. -/
def size : TimeUnit → Nat
  | .nanosecond => 1
  | .microsecond => 1000
  | .millisecond => 1000000
  | .second => 1
  | .minute => 60
  | .hour => 3600
  | .day => 86400
  | .week => 604800
  | .month => 2630016
  | .year => 31557600

/-- The span of a number of whole units, as seconds and nanoseconds. -/
def whole (unit : TimeUnit) (count : Nat) : Nat × Nat :=
  match unit with
  | .nanosecond | .microsecond | .millisecond => (0, count * unit.size)
  | _ => (count * unit.size, 0)

/-- The number of nanoseconds or seconds of which a fraction of the unit is taken: nanoseconds up to
the minute, seconds from the hour on. A nanosecond has no fractions. -/
def fractionSize? : TimeUnit → Option (Nat × Nat)
  | .nanosecond => none
  | .microsecond => some (0, 1000)
  | .millisecond => some (0, 1000000)
  | .second => some (0, 1000000000)
  | .minute => some (0, 60000000000)
  | unit => some (unit.size, 0)

end TimeUnit

/-- A number that fits 64 bits. -/
def fitting? (n : Nat) : Option Nat :=
  if n < 0x10000000000000000 then some n else none

/-- Whether a character may be part of a unit's name. -/
def isUnitChar (c : Char) : Bool :=
  c.isAlpha || c == 'µ'

/-- A run of digits with blanks anywhere in it, and the rest. -/
def spacedDigits : List Char → List Char × List Char
  | [] => ([], [])
  | c :: s =>
    if c.isDigit then
      let (digits, rest) := spacedDigits s
      (c :: digits, rest)
    else if Text.isBlank c then spacedDigits s
    else ([], c :: s)

/-- The part of a number behind its point. Numerator and denominator have to fit 64 bits, and at
least one digit has to be there. -/
def fractionPart? (digits : List Char) : Option (Nat × Nat) := do
  let denominator ← fitting? (Nat.pow 10 digits.length)
  if digits.isEmpty then none else some (Decimal.value digits, denominator)

/-- A span made longer by seconds and nanoseconds. Both counts and the nanoseconds beyond the whole
seconds have to fit 64 bits, and the sum may not exceed the longest span. -/
def plus? (d : Duration) (seconds nanos : Nat) : Option Duration := do
  let _ ← fitting? seconds
  let _ ← fitting? nanos
  let _ ← fitting? (d.subsecond + nanos)
  let total := d.nanos + seconds * second + nanos
  if longest.nanos < total then none else some ⟨total⟩

/-- The fraction of a number of parts, which has to come out as a whole number of them. The product
on the way to it has to fit 64 bits. -/
def fractionOf? (parts numerator denominator : Nat) : Option Nat := do
  let product ← fitting? (numerator * parts)
  if product % denominator = 0 then some (product / denominator) else none

/-- A span made longer by an amount of a unit: whole units and, if there is one, a fraction of a
unit, given as numerator and denominator. -/
def plusAmount? (d : Duration) (unit : TimeUnit) (count : Nat) (fraction : Option (Nat × Nat)) :
    Option Duration := do
  let (seconds, nanos) := unit.whole count
  let d ← d.plus? seconds nanos
  match fraction with
  | none => some d
  | some (numerator, denominator) =>
    let (seconds, nanos) ← unit.fractionSize?
    let seconds ← fractionOf? seconds numerator denominator
    let nanos ← fractionOf? nanos numerator denominator
    d.plus? seconds nanos

/-- Reads one amount, with the blanks in front of it, and adds it to a span: a number, perhaps with
a fraction, and a unit. The unit ends at a blank, at the next digit or at the end of the text. -/
def readAmount? (d : Duration) (s : List Char) : Option (Duration × List Char) := do
  let s := Text.skipBlank s
  if !(s.head?.any Char.isDigit) then none
  let (digits, s) := spacedDigits s
  let count ← fitting? (Decimal.value digits)
  let (fraction, s) ← match s with
    | '.' :: s =>
      let (digits, s) := spacedDigits s
      (fractionPart? digits).map fun part => (some part, s)
    | s => some (none, s)
  let name := s.takeWhile isUnitChar
  let s := s.drop name.length
  let unit ← TimeUnit.ofName? (String.ofList name)
  let d ← d.plusAmount? unit count fraction
  if s.head?.all fun c => c.isDigit || Text.isBlank c then some (d, s) else none

/-- Reads amounts up to the end of the text and adds them to a span. -/
def readAmounts? (d : Duration) (s : List Char) : Option Duration :=
  if (Text.skipBlank s).isEmpty then some d
  else match readAmount? d s with
    | none => none
    | some (d, rest) => if rest.length < s.length then readAmounts? d rest else none
  termination_by s.length

/-- Reads a written duration: one amount or more, such as `1h 30m` or `1.5s`. A lone zero needs no
unit. -/
def parse? (text : String) : Option Duration :=
  let s := text.toList
  if text = "0" then some ⟨0⟩
  else if (Text.skipBlank s).isEmpty then none
  else readAmounts? ⟨0⟩ s

/-! ## Writing -/

/-- A whole part with a fraction of `width` digits, without the zeros at its end. -/
def renderDecimal (whole fraction width : Nat) : String :=
  let digits := Text.trimEnd (· == '0') (Decimal.padded width fraction).toList
  if fraction = 0 then toString whole else toString whole ++ "." ++ String.ofList digits

/-- The span as a decimal number in seconds, milliseconds, microseconds or nanoseconds, whichever
is the largest that is not above it. -/
def render (d : Duration) : String :=
  if second ≤ d.nanos then renderDecimal d.seconds d.subsecond 9 ++ "s"
  else if 1000000 ≤ d.nanos then renderDecimal (d.nanos / 1000000) (d.nanos % 1000000) 6 ++ "ms"
  else if 1000 ≤ d.nanos then renderDecimal (d.nanos / 1000) (d.nanos % 1000) 3 ++ "µs"
  else toString d.nanos ++ "ns"

end Duration

end SyslogCollector
