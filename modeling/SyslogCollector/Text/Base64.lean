/-!
# Base64

Bytes as text of 64 characters: three bytes are four characters, and equals signs fill up the
last four.
-/

namespace SyslogCollector.Base64

/-- The character for a number below 64. -/
def digit (n : Nat) : Char :=
  if n < 26 then Char.ofNat ('A'.toNat + n)
  else if n < 52 then Char.ofNat ('a'.toNat + (n - 26))
  else if n < 62 then Char.ofNat ('0'.toNat + (n - 52))
  else if n = 62 then '+'
  else '/'

/-- The characters for some bytes. -/
def encode : List UInt8 → List Char
  | [] => []
  | [a] =>
    let n := a.toNat * 0x10
    [digit (n / 0x40), digit (n % 0x40), '=', '=']
  | [a, b] =>
    let n := (a.toNat * 0x100 + b.toNat) * 4
    [digit (n / 0x1000), digit (n / 0x40 % 0x40), digit (n % 0x40), '=']
  | a :: b :: c :: rest =>
    let n := a.toNat * 0x10000 + b.toNat * 0x100 + c.toNat
    digit (n / 0x40000) :: digit (n / 0x1000 % 0x40) :: digit (n / 0x40 % 0x40) ::
      digit (n % 0x40) :: encode rest

end SyslogCollector.Base64
