/-!
# Decimal digits

Reading a run of ASCII digits of bounded length, and writing a number with leading zeros.
-/

namespace SyslogCollector.Decimal

/-- The value of an ASCII digit. -/
def digitValue (c : Char) : Nat :=
  c.toNat - '0'.toNat

/-- The number that a run of digits denotes. -/
def value (digits : List Char) : Nat :=
  digits.foldl (fun n c => n * 10 + digitValue c) 0

/-- Takes a run of at least `least` and at most `most` ASCII digits off the front: its value, how
many digits it had, and the rest. -/
def take? (least most : Nat) (s : List Char) : Option (Nat × Nat × List Char) :=
  let digits := (s.take most).takeWhile Char.isDigit
  if digits.length < least then none
  else some (value digits, digits.length, s.drop digits.length)

/-- Takes a run of digits and keeps only its value. -/
def number? (least most : Nat) (s : List Char) : Option (Nat × List Char) :=
  (take? least most s).map fun (n, _, rest) => (n, rest)

/-- The number that a text denotes, if it is one or more digits and nothing else. -/
def ofText? (text : List Char) : Option Nat :=
  if text.isEmpty || !text.all Char.isDigit then none else some (value text)

/-- The number written with at least `width` digits. -/
def padded (width n : Nat) : String :=
  let digits := toString n
  String.ofList (List.replicate (width - digits.length) '0') ++ digits

end SyslogCollector.Decimal
