/-!
# Writing JSON

The compact form of flat objects: no white space, and only those characters escaped that have to
be.
-/

namespace SyslogCollector.Json

/-- A control character as `\u` and four digits. -/
def unicodeEscape (c : Char) : List Char :=
  ['\\', 'u', '0', '0', Nat.digitChar (c.toNat / 16), Nat.digitChar (c.toNat % 16)]

/-- One character of a string. -/
def quoteChar (c : Char) : List Char :=
  if c = '"' ∨ c = '\\' then ['\\', c]
  else if c = '\n' then ['\\', 'n']
  else if c = '\r' then ['\\', 'r']
  else if c = '\t' then ['\\', 't']
  else if c = Char.ofNat 8 then ['\\', 'b']
  else if c = Char.ofNat 12 then ['\\', 'f']
  else if c < ' ' then unicodeEscape c
  else [c]

/-- A string with its quotes. -/
def quote (text : String) : String :=
  "\"" ++ String.ofList (text.toList.flatMap quoteChar) ++ "\""

/-- A string, or null. -/
def quoteOrNull : Option String → String
  | some text => quote text
  | none => "null"

/-- An object of written values, in the order given. -/
def writeObject (members : List (String × String)) : String :=
  "\x7b" ++ String.intercalate "," (members.map fun (key, value) => quote key ++ ":" ++ value) ++
    "\x7d"

end SyslogCollector.Json
