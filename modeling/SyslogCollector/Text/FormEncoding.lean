import SyslogCollector.Text.Utf8
/-!
# Form encoding

Names and values as they stand in the query of a URL: letters, digits and four marks stand for
themselves, a space is a plus, and every other byte is a percent sign and two hexadecimal digits.
-/

namespace SyslogCollector.FormEncoding

/-- Whether a byte stands for itself. -/
def isPlain (b : UInt8) : Bool :=
  let c := Char.ofNat b.toNat
  b < 128 && (c.isAlphanum || c == '*' || c == '-' || c == '.' || c == '_')

/-- A hexadecimal digit, in upper case. -/
def digit (n : Nat) : Char := (Nat.digitChar n).toUpper

/-- The characters for a byte. -/
def encodeByte (b : UInt8) : List Char :=
  if isPlain b then [Char.ofNat b.toNat]
  else if b = 32 then ['+']
  else ['%', digit (b.toNat / 16), digit (b.toNat % 16)]

/-- A name or a value. -/
def encodeText (text : String) : String :=
  String.ofList ((Utf8.encode text).flatMap encodeByte)

/-- Names with their values. -/
def encode (fields : List (String × String)) : String :=
  String.intercalate "&" (fields.map fun (name, value) => encodeText name ++ "=" ++ encodeText value)

end SyslogCollector.FormEncoding
