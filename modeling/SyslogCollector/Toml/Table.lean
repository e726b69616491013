import SyslogCollector.Toml.Value
/-!
# Building tables

Lines add to a tree of tables. `edit?` follows a path to the table that a line is about and edits
that one. Headers may go through every table that is no value; dotted keys only through tables
that headers or other dotted keys imply.
-/

namespace SyslogCollector.Toml

/-- Replaces the value of a key by what `edit` makes of it; a new key comes last. -/
def editKey? (key : String) (edit : Option Value → Option Value) : Entries → Option Entries
  | [] => (edit none).map fun v => [(key, v)]
  | (name, v) :: rest =>
    if name = key then (edit (some v)).map fun v => (name, v) :: rest
    else (editKey? key edit rest).map ((name, v) :: ·)

/-- The way in which a line walks through tables. -/
inductive Walk where
  /-- It is a header. -/
  | header
  /-- It is a dotted key. -/
  | dottedKey
  deriving DecidableEq, Repr

namespace Walk

/-- How the tables come to be that the walk adds. -/
def origin : Walk → Origin
  | .header => .implied
  | .dottedKey => .dotted

/-- Whether the walk may go through a table of this origin. -/
def passes : Walk → Origin → Bool
  | _, .braces => false
  | .header, _ => true
  | .dottedKey, origin => origin != .header

end Walk

/-- Follows a path from a table and edits the entries of the table at its end. Tables that are not
there are added; of a header in double brackets the last table counts. -/
def edit? (walk : Walk) (edit : Origin → Entries → Option Entries) :
    List String → Origin → Entries → Option Entries
  | [], origin, entries => edit origin entries
  | key :: path, _, entries =>
    editKey? key (fun
      | none => (edit? walk edit path walk.origin []).map (.table walk.origin)
      | some (.table origin inner) =>
        if walk.passes origin then (edit? walk edit path origin inner).map (.table origin)
        else none
      | some (.tables items) =>
        match items.reverse with
        | [] => none
        | last :: before =>
          (edit? walk edit path .header last).map fun last => .tables (before.reverse ++ [last])
      | some _ => none) entries

/-- Adds an entry with a new key. -/
def addEntry? (key : String) (v : Value) : Entries → Option Entries :=
  editKey? key fun
    | none => some v
    | some _ => none

/-- Adds the entry of a dotted key. A key with a path adds to a table of dotted keys only. -/
def addDotted? (path : List String) (key : String) (v : Value) (entries : Entries) :
    Option Entries :=
  edit? .dottedKey (fun origin inner =>
    if !path.isEmpty && origin != .dotted then none else addEntry? key v inner)
    path .header entries

/-- An entry as a line or a pair of braces states it. -/
structure Entry where
  /-- The parts of the key before the last one. -/
  path : List String
  /-- The last part of the key. -/
  key : String
  /-- The value. -/
  value : Value
  deriving Repr

/-- Adds entries in order. -/
def addAll? (entries : Entries) (new : List Entry) : Option Entries :=
  new.foldlM (fun entries e => addDotted? e.path e.key e.value entries) entries

/-- A part of a document: a header and the entries below it. -/
structure Section where
  /-- Whether the header stands in double brackets. -/
  doubled : Bool
  /-- The parts of the header before the last one. -/
  path : List String
  /-- The last part of the header. -/
  key : String
  /-- The entries below the header. -/
  entries : List Entry
  deriving Repr

/-- The value that a header opens, given what its key has so far. A table may be opened once, and
only if at most longer headers implied it. -/
def openSection? (s : Section) : Option Value → Option Value
  | none =>
    (addAll? [] s.entries).map fun new => if s.doubled then .tables [new] else .table .header new
  | some (.table .implied inner) =>
    if s.doubled then none else (addAll? inner s.entries).map (.table .header)
  | some (.tables items) =>
    if s.doubled then (addAll? [] s.entries).map fun new => .tables (items ++ [new]) else none
  | some _ => none

/-- Adds a part of a document. -/
def addSection? (document : Entries) (s : Section) : Option Entries :=
  edit? .header (fun _ inner => editKey? s.key (openSection? s) inner) s.path .header document

/-- The document of the entries above all headers and the parts below them. -/
def build? (top : List Entry) (sections : List Section) : Option Value := do
  let document ← addAll? [] top
  let document ← sections.foldlM addSection? document
  some (.table .header document)

end SyslogCollector.Toml
