import SyslogCollector.Text.Hexadecimal
/-!
# The characters of TOML

White space, line ends, comments and the four kinds of strings. Every reader takes its piece off
the front and returns what is left.
-/

namespace SyslogCollector.Toml

/-- The white space within a line. -/
def isSpace (c : Char) : Bool :=
  c = ' ' || c = '\t'

/-- The characters that may stand in comments and strings: all but the control characters, of which
only the tab is one of them. -/
def isPrintable (c : Char) : Bool :=
  c = '\t' || (' ' ≤ c && c.toNat != 0x7F)

/-- Leaves out white space within the line. -/
def skipSpace (s : List Char) : List Char :=
  s.dropWhile isSpace

/-- The text after the line end in front. -/
def afterNewline? : List Char → Option (List Char)
  | '\n' :: rest => some rest
  | '\r' :: '\n' :: rest => some rest
  | _ => none

/-- Leaves out a comment, if there is one. -/
def skipComment : List Char → List Char
  | '#' :: rest => rest.dropWhile isPrintable
  | s => s

/-- The text after the end of this line: nothing but white space and a comment may be left on
it. -/
def afterLine? (s : List Char) : Option (List Char) :=
  match skipComment (skipSpace s) with
  | [] => some []
  | s => afterNewline? s

/-- The character of a hexadecimal code. -/
def codePoint? (digits : List Char) : Option Char := do
  let n ← Hexadecimal.value? digits
  if n.isValidChar then some (Char.ofNat n) else none

/-- The character of an escape of one letter. -/
def escape? : Char → Option Char
  | '"' => some '"'
  | '\\' => some '\\'
  | 'b' => some (Char.ofNat 8)
  | 'f' => some (Char.ofNat 12)
  | 'n' => some '\n'
  | 'r' => some '\r'
  | 't' => some '\t'
  | _ => none

/-- Puts a character in front of a text that was read. -/
def cons? (c : Option Char) (read : Option (List Char × List Char)) :
    Option (List Char × List Char) := do
  let (text, rest) ← read
  some ((← c) :: text, rest)

/-- A string in double quotes, behind the opening one. -/
def basic? : List Char → Option (List Char × List Char)
  | [] => none
  | '"' :: rest => some ([], rest)
  | '\\' :: 'u' :: a :: b :: c :: d :: rest => cons? (codePoint? [a, b, c, d]) (basic? rest)
  | '\\' :: 'U' :: a :: b :: c :: d :: e :: f :: g :: h :: rest =>
    cons? (codePoint? [a, b, c, d, e, f, g, h]) (basic? rest)
  | '\\' :: c :: rest => cons? (escape? c) (basic? rest)
  | c :: rest => if isPrintable c then cons? (some c) (basic? rest) else none

/-- A string in single quotes, behind the opening one: no escapes. -/
def literal? : List Char → Option (List Char × List Char)
  | [] => none
  | '\'' :: rest => some ([], rest)
  | c :: rest => if isPrintable c then cons? (some c) (literal? rest) else none

/-- What three closing quotes leave: up to two further quotes belong to the string. -/
def closing (quote : Char) (s : List Char) : List Char × List Char :=
  let extra := ((s.take 2).takeWhile (· = quote)).length
  (List.replicate extra quote, s.drop extra)

/-- Whether a backslash in front of this text continues the line. -/
def continuesLine (s : List Char) : Bool :=
  (afterNewline? (skipSpace s)).isSome

/-- A string in three double quotes, behind the opening ones. While `skipping`, after a backslash
at the end of a line, white space and line ends are left out. -/
def multilineBasic? (skipping : Bool) : List Char → Option (List Char × List Char)
  | [] => none
  | '"' :: '"' :: '"' :: rest => some (closing '"' rest)
  | '\\' :: 'u' :: a :: b :: c :: d :: rest =>
    cons? (codePoint? [a, b, c, d]) (multilineBasic? false rest)
  | '\\' :: 'U' :: a :: b :: c :: d :: e :: f :: g :: h :: rest =>
    cons? (codePoint? [a, b, c, d, e, f, g, h]) (multilineBasic? false rest)
  | '\r' :: '\n' :: rest =>
    if skipping then multilineBasic? true rest else cons? (some '\n') (multilineBasic? false rest)
  | '\\' :: c :: rest =>
    if continuesLine (c :: rest) then multilineBasic? true (c :: rest)
    else cons? (escape? c) (multilineBasic? false rest)
  | c :: rest =>
    if skipping && (isSpace c || c = '\n') then multilineBasic? true rest
    else if isPrintable c || c = '\n' then cons? (some c) (multilineBasic? false rest)
    else none

/-- A string in three single quotes, behind the opening ones. -/
def multilineLiteral? : List Char → Option (List Char × List Char)
  | [] => none
  | '\'' :: '\'' :: '\'' :: rest => some (closing '\'' rest)
  | '\r' :: '\n' :: rest => cons? (some '\n') (multilineLiteral? rest)
  | c :: rest =>
    if isPrintable c || c = '\n' then cons? (some c) (multilineLiteral? rest) else none

/-- Leaves out a line end right behind the opening quotes. -/
def skipNewline (s : List Char) : List Char :=
  (afterNewline? s).getD s

/-- A string, if a quote is in front. -/
def string? : List Char → Option (List Char × List Char)
  | '"' :: '"' :: '"' :: rest => multilineBasic? false (skipNewline rest)
  | '\'' :: '\'' :: '\'' :: rest => multilineLiteral? (skipNewline rest)
  | '"' :: rest => basic? rest
  | '\'' :: rest => literal? rest
  | _ => none

/-- Whether a character may be part of a key without quotes. -/
def isBareKeyChar (c : Char) : Bool :=
  c.isAlphanum || c = '_' || c = '-'

/-- One part of a key: bare, or a string on one line. -/
def keyPart? : List Char → Option (String × List Char)
  | '"' :: rest => (basic? rest).map fun (text, rest) => (String.ofList text, rest)
  | '\'' :: rest => (literal? rest).map fun (text, rest) => (String.ofList text, rest)
  | s =>
    let text := s.takeWhile isBareKeyChar
    if text.isEmpty then none else some (String.ofList text, s.drop text.length)

end SyslogCollector.Toml
