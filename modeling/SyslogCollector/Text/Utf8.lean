/-!
# UTF-8 that never fails to read

Frames come off the network as bytes and need not be well-formed UTF-8. Reading replaces every
maximal ill-formed piece by one U+FFFD, so each byte string has exactly one reading.

The reader is an octet machine: `step` takes one byte and yields the characters that this byte
completes. A byte that cannot continue the open sequence closes it with a replacement character
and is then read as the start of the next one.
-/

namespace SyslogCollector.Utf8

/-- Where the octet machine stands between two bytes. -/
inductive State where
  /-- Between characters. -/
  | start
  /-- Inside a sequence: `missing` continuation bytes are still to come, the next of them lies
  between `low` and `high`, and `code` holds the bits read so far. -/
  | within (missing : Nat) (low high : UInt8) (code : Nat)
  deriving DecidableEq, Repr

/-- The character that stands for an ill-formed piece. -/
def replacement : Char := Char.ofNat 0xFFFD

/-- Reads a byte between characters: an ASCII byte is a character, a lead byte opens a sequence
whose second byte is bounded so that no surrogate, overlong form or value above U+10FFFF can
arise, and any other byte is ill-formed on its own. -/
def begin (b : UInt8) : List Char × State :=
  if b < 0x80 then ([Char.ofNat b.toNat], .start)
  else if b < 0xC2 then ([replacement], .start)
  else if b < 0xE0 then ([], .within 1 0x80 0xBF (b.toNat % 0x20))
  else if b = 0xE0 then ([], .within 2 0xA0 0xBF 0)
  else if b = 0xED then ([], .within 2 0x80 0x9F 0x0D)
  else if b < 0xF0 then ([], .within 2 0x80 0xBF (b.toNat % 0x10))
  else if b = 0xF0 then ([], .within 3 0x90 0xBF 0)
  else if b < 0xF4 then ([], .within 3 0x80 0xBF (b.toNat % 0x08))
  else if b = 0xF4 then ([], .within 3 0x80 0x8F 0x04)
  else ([replacement], .start)

/-- Reads one byte: the characters it completes and where the machine stands afterwards. -/
def step : State → UInt8 → List Char × State
  | .start, b => begin b
  | .within missing low high code, b =>
    if low ≤ b ∧ b ≤ high then
      let code := code * 0x40 + b.toNat % 0x40
      if missing ≤ 1 then ([Char.ofNat code], .start)
      else ([], .within (missing - 1) 0x80 0xBF code)
    else
      let (out, next) := begin b
      (replacement :: out, next)

/-- What the end of the bytes yields: an unfinished sequence is one ill-formed piece. -/
def finish : State → List Char
  | .start => []
  | .within .. => [replacement]

/-- Runs the machine over the bytes from a given state. -/
def run : State → List UInt8 → List Char
  | s, [] => finish s
  | s, b :: rest =>
    let (out, next) := step s b
    out ++ run next rest

/-- The text of some bytes, with U+FFFD for each maximal ill-formed piece. -/
def decodeLossy (bytes : List UInt8) : List Char :=
  run .start bytes

/-- The text of well-formed bytes. -/
def decode? (bytes : List UInt8) : Option String :=
  String.fromUTF8? ⟨bytes.toArray⟩

/-- The bytes of a text. -/
def encode (text : String) : List UInt8 :=
  text.toUTF8.toList

end SyslogCollector.Utf8
