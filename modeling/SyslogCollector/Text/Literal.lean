import SyslogCollector.Text.ExtendingMark
import SyslogCollector.Text.Invisible
import SyslogCollector.Text.Unassigned
/-!
# Text as a literal

A text between double quotes, with an escape for every character that would not show as itself.
-/

namespace SyslogCollector.Literal

/-- Whether a character would not show as itself: it shows nothing, joins the character before it,
or is not assigned. -/
def isHidden (c : Char) : Bool :=
  Text.isInvisible c || Text.isExtendingMark c || Text.isUnassigned c

/-- A character by its code. -/
def codeEscape (c : Char) : List Char :=
  "\\u\x7b".toList ++ Nat.toDigits 16 c.toNat ++ ['}']

/-- A character within quotes. -/
def escape (c : Char) : List Char :=
  if c = '"' ∨ c = '\\' then ['\\', c]
  else if c = '\n' then ['\\', 'n']
  else if c = '\r' then ['\\', 'r']
  else if c = '\t' then ['\\', 't']
  else if c = Char.ofNat 0 then ['\\', '0']
  else if isHidden c then codeEscape c
  else [c]

/-- A text with its quotes. -/
def quote (text : String) : String :=
  "\"" ++ String.ofList (text.toList.flatMap escape) ++ "\""

/-- A list of texts. -/
def quoteAll (texts : List String) : String :=
  "[" ++ String.intercalate ", " (texts.map quote) ++ "]"

end SyslogCollector.Literal
