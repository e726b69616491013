import SyslogCollector.Toml.Scalar
import SyslogCollector.Toml.Table
import SyslogCollector.Toml.Text
/-!
# Reading TOML

A reader for TOML 1.0. A document is read into its lines first: entries and headers. The tree of
tables is then built out of these.
-/

namespace SyslogCollector.Toml

open Text

/-- How deep arrays and tables in braces may be nested. -/
def deepestNesting : Nat := 79

/-- How many parts a key may have. -/
def longestKey : Nat := 79

/-- The parts of a key, with white space around each of them. -/
def keyParts? : Nat → List Char → Option (List String × List Char)
  | 0, _ => none
  | fuel + 1, s => do
    let (part, s) ← keyPart? (skipSpace s)
    match skipSpace s with
    | '.' :: s => (keyParts? fuel s).map fun (parts, rest) => (part :: parts, rest)
    | rest => some ([part], rest)

/-- A key: the parts before the last one, the last one, and the rest. -/
def key? (s : List Char) : Option (List String × String × List Char) := do
  let (parts, rest) ← keyParts? longestKey s
  some (parts.dropLast, ← parts.getLast?, rest)

/-- The text behind a comment and the line end that has to follow it. -/
def afterComment? (s : List Char) : Option (List Char) :=
  afterNewline? (s.dropWhile isPrintable)

/-- Leaves out white space, line ends and comments. There is no text behind a comment that no line
end follows. -/
def skipLines? : Nat → List Char → Option (List Char)
  | 0, s => some s
  | fuel + 1, s =>
    match skipSpace s with
    | '#' :: rest => (afterComment? rest).bind (skipLines? fuel)
    | '\n' :: rest => skipLines? fuel rest
    | '\r' :: '\n' :: rest => skipLines? fuel rest
    | s => some s

/-- Leaves out white space, line ends and comments within an array. -/
def skipBetween? (s : List Char) : Option (List Char) :=
  skipLines? s.length s

mutual

/-- A value. `depth` is how many brackets and braces may still be opened; every item uses up one
unit of fuel. -/
def value? : (fuel depth : Nat) → List Char → Option (Value × List Char)
  | 0, _, _ => none
  | fuel + 1, depth, s =>
    match s with
    | '"' :: _ | '\'' :: _ => (string? s).map fun (text, rest) => (.string (String.ofList text), rest)
    | '[' :: s =>
      if depth = 0 then none
      else (items? fuel (depth - 1) s).map fun (items, rest) => (.array items, rest)
    | '{' :: s => do
      if depth = 0 then none
      let (entries, rest) ←
        match skipSpace s with
        | '}' :: rest => some ([], rest)
        | s => entries? fuel (depth - 1) s
      some (.table .braces (← addAll? [] entries), rest)
    | 't' :: s => (afterPrefix? ['r', 'u', 'e'] s).map fun rest => (.bool true, rest)
    | 'f' :: s => (afterPrefix? ['a', 'l', 's', 'e'] s).map fun rest => (.bool false, rest)
    | 'i' :: s => (afterPrefix? ['n', 'f'] s).map fun rest => (.float, rest)
    | 'n' :: s => (afterPrefix? ['a', 'n'] s).map fun rest => (.float, rest)
    | s => numeric? s

/-- The items of an array from the next one on, and what follows the closing bracket. -/
def items? : (fuel depth : Nat) → List Char → Option (List Value × List Char)
  | 0, _, _ => none
  | fuel + 1, depth, s => do
    match ← skipBetween? s with
    | ']' :: rest => some ([], rest)
    | s =>
      let (v, s) ← value? fuel depth s
      match ← skipBetween? s with
      | ',' :: s => (items? fuel depth s).map fun (items, rest) => (v :: items, rest)
      | ']' :: rest => some ([v], rest)
      | _ => none

/-- The entries of a table in braces from the next one on, and what follows the closing brace. -/
def entries? : (fuel depth : Nat) → List Char → Option (List Entry × List Char)
  | 0, _, _ => none
  | fuel + 1, depth, s => do
    let (path, key, s) ← key? s
    let s ← afterChar? '=' s
    let (v, s) ← value? fuel depth (skipSpace s)
    match skipSpace s with
    | ',' :: s => (entries? fuel depth s).map fun (entries, rest) => (⟨path, key, v⟩ :: entries, rest)
    | '}' :: rest => some ([⟨path, key, v⟩], rest)
    | _ => none

end

/-- What a line states. -/
inductive Line where
  | entry (e : Entry)
  | header (doubled : Bool) (path : List String) (key : String)
  deriving Repr

/-- A line with an entry, and what follows the line. -/
def entryLine? (s : List Char) : Option (Line × List Char) := do
  let (path, key, s) ← key? s
  let s ← afterChar? '=' s
  let s := skipSpace s
  let (v, s) ← value? (s.length + 1) deepestNesting s
  some (.entry ⟨path, key, v⟩, ← afterLine? s)

/-- A line with a header whose opening brackets have been read, and what follows the line. -/
def headerLine? (doubled : Bool) (s : List Char) : Option (Line × List Char) := do
  let (path, key, s) ← key? s
  let s ← afterPrefix? (if doubled then [']', ']'] else [']']) s
  some (.header doubled path key, ← afterLine? s)

/-- A line that states something. -/
def line? : List Char → Option (Line × List Char)
  | '[' :: '[' :: s => headerLine? true s
  | '[' :: s => headerLine? false s
  | s => entryLine? s

/-- The lines of a document. Every unit of fuel stands for a line end or a character. -/
def lines? : Nat → List Char → Option (List Line)
  | 0, _ => none
  | fuel + 1, s =>
    match skipSpace s with
    | [] => some []
    | '#' :: s => (afterLine? ('#' :: s)).bind (lines? fuel)
    | '\n' :: s => lines? fuel s
    | '\r' :: '\n' :: s => lines? fuel s
    | s => do
      let (line, s) ← line? s
      (lines? fuel s).map (line :: ·)

/-- The entries above the first header, and the parts of the document. -/
def group : List Line → List Entry × List Section
  | [] => ([], [])
  | .entry e :: rest =>
    let (top, sections) := group rest
    (e :: top, sections)
  | .header doubled path key :: rest =>
    let (entries, sections) := group rest
    ([], ⟨doubled, path, key, entries⟩ :: sections)

/-- Leaves out a byte order mark. -/
def skipMark : List Char → List Char
  | c :: rest => if c = Char.ofNat 0xFEFF then rest else c :: rest
  | [] => []

/-- Reads a document: a table. -/
def parse? (text : String) : Option Value := do
  let s := skipMark text.toList
  let (top, sections) := group (← lines? (s.length + 1) s)
  build? top sections

end SyslogCollector.Toml
