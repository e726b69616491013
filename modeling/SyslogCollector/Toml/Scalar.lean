import SyslogCollector.Text.Blank
import SyslogCollector.Text.Decimal
import SyslogCollector.Text.DoubleRange
import SyslogCollector.Text.Hexadecimal
import SyslogCollector.Time.Calendar
import SyslogCollector.Toml.Value
/-!
# Numbers, dates and times of TOML

What starts with a digit or a sign is a date, a float or an integer, in this order.
-/

namespace SyslogCollector.Toml

open Text Decimal

/-- A run of digits; single underscores may stand between them. -/
def groupedDigits? (isDigit : Char → Bool) : List Char → Option (List Char × List Char)
  | [] => none
  | c :: s =>
    if isDigit c then
      match s with
      | '_' :: rest =>
        (groupedDigits? isDigit rest).map fun (digits, rest) => (c :: digits, rest)
      | d :: rest =>
        if isDigit d then
          (groupedDigits? isDigit (d :: rest)).map fun (digits, rest) => (c :: digits, rest)
        else some ([c], d :: rest)
      | [] => some ([c], [])
    else none

/-- The digits of a whole number: a zero, or digits that do not start with one. -/
def wholeDigits? : List Char → Option (List Char × List Char)
  | '0' :: rest => some (['0'], rest)
  | s => groupedDigits? Char.isDigit s

/-- A sign, if there is one, and whether it is a minus. -/
def sign : List Char → Bool × List Char
  | '-' :: rest => (true, rest)
  | '+' :: rest => (false, rest)
  | s => (false, s)

/-- An integer, if it fits 64 bits. -/
def integer? (value : Int) : Option Value :=
  if -0x8000000000000000 ≤ value ∧ value < 0x8000000000000000 then some (.integer value) else none

/-- The value of digits in a base. -/
def valueInBase? (base : Nat) (digits : List Char) : Option Nat :=
  digits.foldl (fun n c => do some ((← n) * base + (← Hexadecimal.digitValue? c))) (some 0)

/-- An integer in another base, behind its mark. -/
def integerInBase? (base : Nat) (s : List Char) : Option (Value × List Char) := do
  let isDigit c := (Hexadecimal.digitValue? c).any (· < base)
  let (digits, rest) ← groupedDigits? isDigit s
  let n ← valueInBase? base digits
  some (← integer? n, rest)

/-- The exponent of a float, behind its letter. -/
def exponent? (s : List Char) : Option (Int × List Char) := do
  let (negative, s) := sign s
  let (digits, rest) ← groupedDigits? Char.isDigit s
  let n : Int := Decimal.value digits
  some (if negative then -n else n, rest)

/-- The exponent of a float, if there is one. -/
def optionalExponent? : List Char → Option (Int × List Char)
  | c :: s => if c = 'e' ∨ c = 'E' then exponent? s else some (0, c :: s)
  | [] => some (0, [])

/-- A float of these digits. One above the range of double precision is refused. -/
def float? (negative : Bool) (digits : List Char) (exponent : Int) : Option Value :=
  if !negative && DoubleRange.exceeds (Decimal.value digits) exponent then none else some .float

/-- A decimal number: an integer, or a float if a point or an exponent follows the whole digits. -/
def decimal? (s : List Char) : Option (Value × List Char) := do
  let (negative, s) := sign s
  if (afterPrefix? ['i', 'n', 'f'] s).isSome || (afterPrefix? ['n', 'a', 'n'] s).isSome then
    some (.float, s.drop 3)
  else
    let (whole, s) ← wholeDigits? s
    match s with
    | '.' :: s =>
      let (fraction, s) ← groupedDigits? Char.isDigit s
      let (exponent, rest) ← optionalExponent? s
      some (← float? negative (whole ++ fraction) (exponent - fraction.length), rest)
    | 'e' :: s | 'E' :: s =>
      let (exponent, rest) ← exponent? s
      some (← float? negative whole exponent, rest)
    | s =>
      let n : Int := Decimal.value whole
      some (← integer? (if negative then -n else n), s)

/-- A date, behind its year. -/
def dateAfterYear? (year : Nat) (s : List Char) : Option (List Char) := do
  let s ← afterChar? '-' s
  let (month, s) ← number? 2 2 s
  let s ← afterChar? '-' s
  let (day, rest) ← number? 2 2 s
  if (Date.mk year month day).isValid then some rest else none

/-- A fraction of a second, if there is one. -/
def skipFraction (s : List Char) : List Char :=
  match s with
  | '.' :: c :: rest => if c.isDigit then rest.dropWhile Char.isDigit else s
  | _ => s

/-- A time of day. -/
def time? (s : List Char) : Option (List Char) := do
  let (hour, s) ← number? 2 2 s
  let s ← afterChar? ':' s
  let (minute, s) ← number? 2 2 s
  let s ← afterChar? ':' s
  let (second, rest) ← number? 2 2 s
  if hour < 24 ∧ minute < 60 ∧ second ≤ 60 then some (skipFraction rest) else none

/-- An offset from UTC. -/
def offset? : List Char → Option (List Char)
  | c :: s =>
    if c = 'Z' ∨ c = 'z' then some s
    else if c = '+' ∨ c = '-' then do
      let (hours, s) ← number? 2 2 s
      let s ← afterChar? ':' s
      let (minutes, rest) ← number? 2 2 s
      if hours < 24 ∧ minutes < 60 then some rest else none
    else none
  | [] => none

/-- A time of day and an offset behind a date, where they are there. -/
def skipTime (s : List Char) : List Char :=
  match s with
  | c :: rest =>
    if c = 'T' ∨ c = 't' ∨ c = ' ' then
      match time? rest with
      | some rest => (offset? rest).getD rest
      | none => s
    else s
  | [] => s

/-- A date with or without a time, or a time of day. -/
def dateTime? (s : List Char) : Option (List Char) :=
  match number? 4 4 s with
  | some (year, rest) => (dateAfterYear? year rest).map skipTime
  | none => time? s

/-- What starts with a digit or a sign. -/
def numeric? (s : List Char) : Option (Value × List Char) :=
  match dateTime? s with
  | some rest => some (.dateTime, rest)
  | none =>
    match s with
    | '0' :: 'x' :: rest => integerInBase? 16 rest
    | '0' :: 'o' :: rest => integerInBase? 8 rest
    | '0' :: 'b' :: rest => integerInBase? 2 rest
    | s => decimal? s

end SyslogCollector.Toml
