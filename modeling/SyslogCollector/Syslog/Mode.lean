import SyslogCollector.Syslog.Rfc3164
import SyslogCollector.Syslog.Rfc5424
import SyslogCollector.Text.Utf8
/-!
# Reading a frame

A listener accepts one dialect or tells them apart by what follows the priority header.
-/

namespace SyslogCollector.Syslog

open Text

/-- Which dialects a listener accepts. -/
inductive Mode where
  /-- Either, told apart message by message. -/
  | automatic
  /-- Only the BSD dialect. -/
  | rfc3164
  /-- Only the IETF dialect. -/
  | rfc5424
  deriving DecidableEq, Repr, Inhabited

namespace Mode

/-- The name, in lower case. -/
def name : Mode → String
  | .automatic => "automatic"
  | .rfc3164 => "rfc3164"
  | .rfc5424 => "rfc5424"

/-- The mode of exactly this name; `auto` is short for `automatic`. -/
def ofName? (text : String) : Option Mode :=
  if text = "auto" then some .automatic
  else [.automatic, .rfc3164, .rfc5424].find? (·.name == text)

/-- The mode that someone typed, in any case of ASCII letters, or the complaint about it. -/
def ofTyped (text : String) : Except String Mode :=
  match ofName? (text.map Char.toLower) with
  | some mode => .ok mode
  | none => .error ("unknown syslog format: " ++ text)

end Mode

/-- Whether a version number follows the first `>`: one or two digits, the first not 0, and a
space. -/
def looksLikeRfc5424 (text : List Char) : Bool :=
  match splitAt? (· = '>') text with
  | none => false
  | some (_, after) =>
    let digits := after.takeWhile Char.isDigit
    1 ≤ digits.length && digits.length ≤ 2 && digits.head? != some '0' &&
      (after.drop digits.length).head? == some ' '

/-- The characters that may end a frame without being part of the message. -/
def isTerminator (c : Char) : Bool :=
  c == '\r' || c == '\n' || c == Char.ofNat 0

/-- Reads the text of a frame, without its terminators, in the given mode. -/
def parseText (text : List Char) (mode : Mode) (received : Instant) : Except ParseError Message :=
  if text.isEmpty then .error .empty
  else match mode with
    | .rfc3164 => Rfc3164.parse text received
    | .rfc5424 => Rfc5424.parse text received
    | .automatic =>
      if looksLikeRfc5424 text then Rfc5424.parse text received
      else Rfc3164.parse text received

/-- Reads one frame. -/
def parse (frame : List UInt8) (mode : Mode) (received : Instant) : Except ParseError Message :=
  parseText (trimEnd isTerminator (Utf8.decodeLossy frame)) mode received

end SyslogCollector.Syslog
