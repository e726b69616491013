import SyslogCollector.Time.Instant
import SyslogCollector.Text.Blank
/-!
# RFC 3339 timestamps

Two readers and one writer. The strict reader is the grammar of syslog headers; the relaxed one is
for JSON documents and command lines, where blanks, one-digit fields, signed years and the word
`UTC` are understood as well. Both read a second 60 as a leap second.
-/

namespace SyslogCollector.Rfc3339

open Text Decimal Instant

/-- A fraction of a second, after its point: the first nine digits count, the others are left
out. -/
def fraction? (s : List Char) : Option (Nat × List Char) := do
  let (n, count, rest) ← take? 1 9 s
  some (n * Nat.pow 10 (9 - count), rest.dropWhile Char.isDigit)

/-- An optional fraction of a second with its point. -/
def optionalFraction? : List Char → Option (Nat × List Char)
  | '.' :: rest => fraction? rest
  | s => some (0, s)

/-- An offset from UTC in seconds: `Z`, or a sign, two digits, a separator and two digits below
60. A minus may also be written U+2212. Offsets of a day and more are refused. -/
def offset? (separator : List Char → Option (List Char)) :
    List Char → Option (Int × List Char)
  | [] => none
  | c :: s =>
    if c = 'Z' ∨ c = 'z' then some (0, s)
    else do
      let negative ←
        if c = '+' then some false
        else if c = '-' ∨ c = Char.ofNat 0x2212 then some true
        else none
      let (hours, s) ← number? 2 2 s
      let s ← separator s
      let (minutes, s) ← number? 2 2 s
      if minutes < 60 ∧ hours < 24 then
        let seconds : Int := hours * 3600 + minutes * 60
        some (if negative then -seconds else seconds, s)
      else none

/-- The letter or space between date and time. -/
def dateEnd? : List Char → Option (List Char)
  | c :: rest => if c = 'T' ∨ c = 't' ∨ c = ' ' then some rest else none
  | [] => none

/-- The strict reader: all fields of fixed width and nothing around them. -/
def parseStrict? (s : List Char) : Option Instant := do
  let (year, s) ← number? 4 4 s
  let s ← afterChar? '-' s
  let (month, s) ← number? 2 2 s
  let s ← afterChar? '-' s
  let (day, s) ← number? 2 2 s
  let s ← dateEnd? s
  let (hour, s) ← number? 2 2 s
  let s ← afterChar? ':' s
  let (minute, s) ← number? 2 2 s
  let s ← afterChar? ':' s
  let (second, s) ← number? 2 2 s
  let (nanos, s) ← optionalFraction? s
  let (offset, s) ← offset? (afterChar? ':') s
  if s.isEmpty then
    ofClock? ⟨⟨year, month, day⟩, hour, minute, second, nanos⟩ offset
  else none

/-- A year of the relaxed reader: any number of digits after a sign, else at most four. -/
def year? (s : List Char) : Option (Int × List Char) :=
  match skipBlank s with
  | '-' :: rest => (number? 1 rest.length rest).map fun (n, rest) => (-(n : Int), rest)
  | '+' :: rest => (number? 1 rest.length rest).map fun (n, rest) => ((n : Int), rest)
  | s => (number? 1 4 s).map fun (n, rest) => ((n : Int), rest)

/-- A field of the relaxed reader: blanks, then one or two digits. -/
def field? (s : List Char) : Option (Nat × List Char) :=
  number? 1 2 (skipBlank s)

/-- A mark of the relaxed reader: blanks, then the character. -/
def mark? (c : Char) (s : List Char) : Option (List Char) :=
  afterChar? c (skipBlank s)

/-- The offset of the relaxed reader: the word `UTC` in any case, or an offset whose separator is
any run of colons and blanks. -/
def relaxedOffset? (s : List Char) : Option (Int × List Char) :=
  let s := skipBlank s
  match afterPrefix? ['u', 't', 'c'] ((s.take 3).map Char.toLower) with
  | some [] => some (0, s.drop 3)
  | _ => offset? (fun s => some (s.dropWhile fun c => c = ':' || isBlank c)) s

/-- The relaxed reader. -/
def parse? (s : List Char) : Option Instant := do
  let (year, s) ← year? s
  let s ← mark? '-' s
  let (month, s) ← field? s
  let s ← mark? '-' s
  let (day, s) ← field? s
  let s ← dateEnd? s
  let (hour, s) ← field? s
  let s ← mark? ':' s
  let (minute, s) ← field? s
  let s ← mark? ':' s
  let (second, s) ← field? s
  let (nanos, s) ← optionalFraction? s
  let (offset, s) ← relaxedOffset? s
  if (skipBlank s).isEmpty then
    ofClock? ⟨⟨year, month, day⟩, hour, minute, second, nanos⟩ offset
  else none

/-- How many digits of a fraction are written. -/
inductive Precision where
  /-- Always three. -/
  | millis
  /-- None, three, six or nine: the fewest that lose nothing. -/
  | fewest
  deriving DecidableEq, Repr

/-- The fraction of a second with its point. -/
def renderFraction (precision : Precision) (nanos : Nat) : String :=
  match precision with
  | .millis => "." ++ padded 3 (nanos / 1000000)
  | .fewest =>
    if nanos = 0 then ""
    else if nanos % 1000000 = 0 then "." ++ padded 3 (nanos / 1000000)
    else if nanos % 1000 = 0 then "." ++ padded 6 (nanos / 1000)
    else "." ++ padded 9 nanos

/-- A year: four digits, and a sign in front if those do not hold it. -/
def renderYear (year : Int) : String :=
  if 0 ≤ year ∧ year ≤ 9999 then padded 4 year.toNat
  else (if year < 0 then "-" else "+") ++ padded 4 year.natAbs

/-- The instant in UTC, with `Z` for the offset. -/
def render (precision : Precision) (t : Instant) : String :=
  let c := t.toClock
  renderYear c.date.year ++ "-" ++ padded 2 c.date.month ++ "-" ++ padded 2 c.date.day ++ "T" ++
    padded 2 c.hour ++ ":" ++ padded 2 c.minute ++ ":" ++ padded 2 c.second ++
    renderFraction precision c.nanos ++ "Z"

end SyslogCollector.Rfc3339
