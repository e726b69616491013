import SyslogCollector.Json.Value
import SyslogCollector.Text.Blank
import SyslogCollector.Text.Decimal
import SyslogCollector.Text.Hexadecimal
/-!
# Reading JSON

A reader for the JSON grammar. Every function takes text off the front and returns what is left.
-/

namespace SyslogCollector.Json

open Text

/-- Leaves out white space. -/
def skipSpace (s : List Char) : List Char :=
  s.dropWhile fun c => c = ' ' || c = '\n' || c = '\t' || c = '\r'

/-- A piece of a string: a character, or a surrogate that an escape names. -/
inductive StringPiece where
  | char (c : Char)
  | surrogate (code : Nat)
  deriving DecidableEq, Repr

/-- The piece that a code unit stands for. -/
def StringPiece.ofUnit (code : Nat) : StringPiece :=
  if 0xD800 ≤ code ∧ code < 0xE000 then .surrogate code else .char (Char.ofNat code)

/-- The character of an escape of one letter. -/
def escape? : Char → Option Char
  | '"' => some '"'
  | '\\' => some '\\'
  | '/' => some '/'
  | 'b' => some (Char.ofNat 8)
  | 'f' => some (Char.ofNat 12)
  | 'n' => some '\n'
  | 'r' => some '\r'
  | 't' => some '\t'
  | _ => none

/-- The pieces of a string up to its closing quote, and the rest. -/
def stringPieces? : List Char → Option (List StringPiece × List Char)
  | [] => none
  | '"' :: rest => some ([], rest)
  | '\\' :: 'u' :: a :: b :: c :: d :: rest => do
    let code ← Hexadecimal.value? [a, b, c, d]
    let (pieces, rest) ← stringPieces? rest
    some (.ofUnit code :: pieces, rest)
  | '\\' :: e :: rest => do
    let c ← escape? e
    let (pieces, rest) ← stringPieces? rest
    some (.char c :: pieces, rest)
  | c :: rest =>
    if c = '\\' ∨ c < ' ' then none
    else do
      let (pieces, rest) ← stringPieces? rest
      some (.char c :: pieces, rest)

/-- The text of pieces: a high and a low surrogate make one character, and no surrogate may stand
alone. -/
def textOfPieces? : List StringPiece → Option (List Char)
  | [] => some []
  | .char c :: rest => (textOfPieces? rest).map (c :: ·)
  | .surrogate high :: .surrogate low :: rest =>
    if high < 0xDC00 ∧ 0xDC00 ≤ low then
      (textOfPieces? rest).map
        (Char.ofNat (0x10000 + (high - 0xD800) * 0x400 + (low - 0xDC00)) :: ·)
    else none
  | .surrogate _ :: _ => none

/-- A string whose opening quote has been read: its text, if it has one, and the rest. -/
def stringBody? (s : List Char) : Option (Option String × List Char) :=
  (stringPieces? s).map fun (pieces, rest) => ((textOfPieces? pieces).map String.ofList, rest)

/-- The whole digits of a number: a zero, or digits that do not start with one. -/
def wholeDigits? (s : List Char) : Option (List Char × List Char) :=
  let digits := s.takeWhile Char.isDigit
  if digits.isEmpty || (digits.head? == some '0' && 1 < digits.length) then none
  else some (digits, s.drop digits.length)

/-- A run of at least one digit. -/
def someDigits? (s : List Char) : Option (List Char × List Char) :=
  let digits := s.takeWhile Char.isDigit
  if digits.isEmpty then none else some (digits, s.drop digits.length)

/-- The digits behind the point, if there is one. -/
def fractionDigits? : List Char → Option (List Char × List Char)
  | '.' :: s => someDigits? s
  | s => some ([], s)

/-- The exponent, if there is one. -/
def exponent? : List Char → Option (Option Int × List Char)
  | c :: s =>
    if c = 'e' ∨ c = 'E' then
      let (negative, s) := match s with
        | '-' :: s => (true, s)
        | '+' :: s => (false, s)
        | s => (false, s)
      (someDigits? s).map fun (digits, rest) =>
        let value : Int := Decimal.value digits
        (some (if negative then -value else value), rest)
    else some (none, c :: s)
  | [] => some (none, [])

/-- A number. -/
def number? (s : List Char) : Option (Number × List Char) := do
  let (negative, s) := match s with
    | '-' :: s => (true, s)
    | s => (false, s)
  let (whole, s) ← wholeDigits? s
  let (fraction, afterFraction) ← fractionDigits? s
  let (exponent, rest) ← exponent? afterFraction
  some ({
    negative
    mantissa := Decimal.value (whole ++ fraction)
    exponent := exponent.getD 0 - fraction.length
    isInteger := fraction.isEmpty && exponent.isNone }, rest)

mutual

/-- A value, with the white space in front of it. Each level of nesting and each item uses up one
unit of fuel. -/
def value? : Nat → List Char → Option (Value × List Char)
  | 0, _ => none
  | fuel + 1, s =>
    match skipSpace s with
    | [] => none
    | '"' :: s => (stringBody? s).map fun (text, rest) => (.string text, rest)
    | '[' :: s =>
      match skipSpace s with
      | ']' :: rest => some (.array [], rest)
      | s => (items? fuel s).map fun (items, rest) => (.array items, rest)
    | '{' :: s =>
      match skipSpace s with
      | '}' :: rest => some (.object [], rest)
      | s => (members? fuel s).map fun (members, rest) => (.object members, rest)
    | 'n' :: s => (afterPrefix? ['u', 'l', 'l'] s).map fun rest => (.null, rest)
    | 't' :: s => (afterPrefix? ['r', 'u', 'e'] s).map fun rest => (.bool true, rest)
    | 'f' :: s => (afterPrefix? ['a', 'l', 's', 'e'] s).map fun rest => (.bool false, rest)
    | s => (number? s).map fun (n, rest) => (.number n, rest)

/-- The items of an array from the next one on, and what follows the closing bracket. -/
def items? : Nat → List Char → Option (List Value × List Char)
  | 0, _ => none
  | fuel + 1, s => do
    let (v, s) ← value? fuel s
    match skipSpace s with
    | ',' :: s => (items? fuel s).map fun (items, rest) => (v :: items, rest)
    | ']' :: rest => some ([v], rest)
    | _ => none

/-- The members of an object from the next one on, and what follows the closing brace. -/
def members? : Nat → List Char → Option (List (Option String × Value) × List Char)
  | 0, _ => none
  | fuel + 1, s => do
    let s ← afterChar? '"' (skipSpace s)
    let (key, s) ← stringBody? s
    let s ← afterChar? ':' (skipSpace s)
    let (v, s) ← value? fuel s
    match skipSpace s with
    | ',' :: s => (members? fuel s).map fun (members, rest) => ((key, v) :: members, rest)
    | '}' :: rest => some ([(key, v)], rest)
    | _ => none

end

/-- Reads a document: one value with nothing but white space around it. Every unit of fuel stands
for a character that is read, so the length of the text is enough. -/
def parse? (s : List Char) : Option Value :=
  match value? (s.length + 1) s with
  | some (v, rest) => if (skipSpace rest).isEmpty then some v else none
  | none => none

end SyslogCollector.Json
