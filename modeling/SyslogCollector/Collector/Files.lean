/-!
# Files

The files and directories that the collector may come across, by the place where they lie. The text
of a path says how to walk there: from the root or from the directory that the collector runs in,
name by name. Each step starts at a directory, so a path that goes through a file, or through
nothing, leads nowhere, even if it comes back from there.
-/

namespace SyslogCollector.Collector

/-- The names that lead from the root to a place. -/
abbrev Place := List String

/-- Text files with their texts, and directories. The directories that files lie in are there
without being named. -/
structure Files where
  /-- The directory that the collector runs in. -/
  here : Place := []
  /-- The files. -/
  entries : List (Place × String) := []
  /-- Other directories. -/
  directories : List Place := []
  deriving Repr

/-- What lies at a place. -/
inductive Entry where
  | file (text : String)
  | directory
  deriving DecidableEq, Repr

/-- What the system says where there is nothing. -/
def noSuchFile : String := "No such file or directory (os error 2)"

/-- What the system says where there is no file but a directory. -/
def isADirectory : String := "Is a directory (os error 21)"

namespace Place

/-- Goes to a name: a dot stays, two dots go back, and the root has nothing above it. -/
def goTo (place : Place) (name : String) : Place :=
  if name.isEmpty || name == "." then place
  else if name == ".." then place.dropLast
  else place ++ [name]

/-- The place that a text means, seen from a directory, if every step on the way can be made. -/
def ofText (here : Place) (text : String) : Place :=
  (text.splitOn "/").foldl goTo (if text.startsWith "/" then [] else here)

end Place

namespace Files

/-- Whether files, directories or the collector itself lie at a place or below it. -/
def reaches (f : Files) (place : Place) : Bool :=
  (f.here :: f.directories ++ f.entries.map (·.1)).any (place.isPrefixOf ·)

/-- What lies at a place. -/
def find? (f : Files) (place : Place) : Option Entry :=
  match f.entries.lookup place with
  | some text => some (.file text)
  | none => if f.reaches place then some .directory else none

/-- The longest name of a file, in bytes. -/
def longestName : Nat := 255

/-- The longest path, in bytes. -/
def longestPath : Nat := 4095

/-- Goes from a directory to a name. -/
def step? (f : Files) (place : Place) (name : String) : Option Place :=
  if f.find? place = some .directory ∧ name.utf8ByteSize ≤ longestName then
    some (place.goTo name)
  else none

/-- The place that a text leads to. Something may lie there or not, but the way exists. -/
def place? (f : Files) (text : String) : Option Place :=
  if text.isEmpty || longestPath < text.utf8ByteSize || text.contains (Char.ofNat 0) then none
  else (text.splitOn "/").foldlM f.step? (if text.startsWith "/" then [] else f.here)

/-- What the path that a text means leads to. -/
def entry? (f : Files) (text : String) : Option Entry :=
  (f.place? text).bind f.find?

/-- Whether a path leads to anything. -/
def contains (f : Files) (text : String) : Bool := (f.entry? text).isSome

/-- The text of a file, or why there is none. -/
def read (f : Files) (text : String) : Except String String :=
  match f.entry? text with
  | some (.file contents) => .ok contents
  | some .directory => .error isADirectory
  | none => .error noSuchFile

/-- The files when one has been opened to write at its end: it is there, if the way to it exists. -/
def openAtEnd (f : Files) (text : String) : Except String Files :=
  match f.place? text with
  | none => .error noSuchFile
  | some place =>
    match f.find? place with
    | some (.file _) => .ok f
    | some .directory => .error isADirectory
    | none => .ok { f with entries := f.entries ++ [(place, "")] }

/-- Some files and directories by their paths, seen from a directory. -/
def ofLists (here : Place) (files : List (String × String)) (directories : List String) : Files where
  here
  entries := files.map fun (text, contents) => (Place.ofText here text, contents)
  directories := directories.map (Place.ofText here)

end Files

end SyslogCollector.Collector
