/-!
# Hexadecimal digits
-/

namespace SyslogCollector.Hexadecimal

/-- The value of a hexadecimal digit of either case. -/
def digitValue? (c : Char) : Option Nat :=
  if c.isDigit then some (c.toNat - '0'.toNat)
  else if 'a' ≤ c ∧ c ≤ 'f' then some (c.toNat - 'a'.toNat + 10)
  else if 'A' ≤ c ∧ c ≤ 'F' then some (c.toNat - 'A'.toNat + 10)
  else none

/-- The number that a run of hexadecimal digits denotes. -/
def value? (digits : List Char) : Option Nat :=
  digits.foldl (fun n c => do some ((← n) * 16 + (← digitValue? c))) (some 0)

end SyslogCollector.Hexadecimal
