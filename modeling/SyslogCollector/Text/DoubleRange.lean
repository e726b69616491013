/-!
# The range of double precision

Documents may write decimal numbers of any size. Where a format demands a double-precision number,
one that would round to infinity is refused.
-/

namespace SyslogCollector.DoubleRange

/-- Half a unit above the greatest finite double: the numbers from here on round to infinity. -/
def bound : Nat := Nat.pow 2 1024 - Nat.pow 2 970

/-- Whether `mantissa * 10 ^ exponent` rounds to infinity. The number of digits decides all cases
far from the bound, so that no huge power is ever computed. -/
def exceeds (mantissa : Nat) (exponent : Int) : Bool :=
  let size : Int := (toString mantissa).length + exponent
  if mantissa = 0 || size < 300 then false
  else if 320 < size then true
  else if 0 ≤ exponent then bound ≤ mantissa * Nat.pow 10 exponent.toNat
  else bound * Nat.pow 10 exponent.natAbs ≤ mantissa

end SyslogCollector.DoubleRange
