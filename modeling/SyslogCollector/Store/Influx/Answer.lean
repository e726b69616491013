import SyslogCollector.Json.Reader
import SyslogCollector.Store.Error
import SyslogCollector.Store.Point
import SyslogCollector.Text.Lines
import SyslogCollector.Text.Utf8
/-!
# InfluxDB: answers

The body of an answer is a sequence of JSON documents, one a line. It arrives in pieces that have
nothing to do with the lines. A document holds rows of values or reports an error:

    {"results": [{"series": [{"values": [[TIME, SEVERITY, MESSAGE], ...]}], "error": ...}],
     "error": ...}
-/

namespace SyslogCollector.Store.Influx

open Json

/-! ## One document -/

/-- The rows of values in a document. -/
abbrev Rows := List (List Value)

/-- How deep a value in a row may be nested. A document may be nested 127 deep, and seven of these
are around the values. -/
def deepestValue : Nat := 120

/-- A list, each of whose items can be read. -/
def listOf? (read : Value → Option α) : Value → Option (List α)
  | .array items => items.mapM read
  | _ => none

/-- A list that may be missing: then it is empty. -/
def optionalList? (read : Value → Option α) : Option Value → Option (List α)
  | none => some []
  | some v => listOf? read v

/-- The text of an error. It may be null; in an object it may be missing too. -/
def errorText? (record : Value) : Option Value → Option (Option String)
  | some v => v.nullable? Value.text?
  | none =>
    match record with
    | .object _ => some none
    | _ => none

/-- A value of a row. -/
def cell? (v : Value) : Option Value :=
  if v.isPlain && v.depth ≤ deepestValue then some v else none

/-- The rows of a series. -/
def series? (v : Value) : Option Rows := do
  match ← v.fields? ["values"] with
  | [values] => optionalList? (listOf? cell?) values
  | _ => none

/-- The rows of a result, and the error that it reports. -/
def result? (v : Value) : Option (Rows × Option String) := do
  match ← v.fields? ["series", "error"] with
  | [series, error] => some ((← optionalList? series? series).flatten, ← errorText? v error)
  | _ => none

/-- The rows of some results up to the first that reports an error. -/
def rowsOf : List (Rows × Option String) → Except QueryError Rows
  | [] => .ok []
  | (_, some error) :: _ => .error (.execution error)
  | (rows, none) :: rest => (rowsOf rest).map (rows ++ ·)

/-- The results of a document, and the error that it reports itself. -/
def document? (v : Value) : Option (List (Rows × Option String) × Option String) := do
  match ← v.fields? ["results", "error"] with
  | [results, error] => some (← optionalList? result? results, ← errorText? v error)
  | _ => none

/-- The rows of a document, or why there are none. -/
def decode (bytes : List UInt8) : Except QueryError Rows :=
  match (Utf8.decode? bytes).bind fun text => (parse? text.toList).bind document? with
  | none => .error (.decode "invalid document")
  | some (_, some error) => .error (.execution error)
  | some (results, none) => rowsOf results

/-- The text of a value, nothing for one that is no string. -/
def textOf (v : Option Value) : String :=
  (v.bind Value.text?).getD ""

/-- The time that a value gives, 0 if it gives none. -/
def timeOf : Option Value → Int
  | some (.number n) => n.toInt64?.getD 0
  | _ => 0

/-- The row that values in order mean: a time, a severity and a message. Whatever is missing or of
another type is 0 or nothing. -/
def rowOf (values : List Value) : Row where
  nanos := timeOf values[0]?
  severity := textOf values[1]?
  body := textOf values[2]?

/-- The applications in some rows: the first value of each row that is a string. -/
def namesOf (rows : Rows) : List String :=
  rows.filterMap fun values => values.head?.bind Value.text?

/-! ## The sequence of documents -/

/-- Whether a byte is white space. -/
def isSpace (b : UInt8) : Bool :=
  b == 9 || b == 10 || b == 12 || b == 13 || b == 32

/-- The body of an answer, as far as it is not read. -/
structure Body where
  /-- What has arrived and is not read. -/
  buffer : List UInt8 := []
  /-- The pieces that are still to arrive. -/
  pieces : List (List UInt8) := []
  /-- Why it breaks off after these, if it does. -/
  fault : Option String := none
  deriving Repr

/-- What reading on in a body comes to. -/
inductive Delivery where
  /-- A document. -/
  | document (bytes : List UInt8)
  /-- There is no more. -/
  | atEnd
  /-- The body broke off. -/
  | broken (reason : String)
  deriving DecidableEq, Repr

namespace Body

/-- How much there is in some pieces: their bytes, and one for each piece. -/
def weight : List (List UInt8) → Nat
  | [] => 0
  | piece :: rest => piece.length + 1 + weight rest

/-- How much is left to read. -/
def size (b : Body) : Nat :=
  b.buffer.length + weight b.pieces

/-- Reads the next document. Blank lines are left out, and a last line needs no line feed. -/
def next (b : Body) : Delivery × Body :=
  match _h : Lines.cut? b.buffer with
  | some (line, after) =>
    if line.all isSpace then next { b with buffer := after }
    else (.document line, { b with buffer := after })
  | none =>
    match _hp : b.pieces with
    | piece :: rest => next { b with buffer := b.buffer ++ piece, pieces := rest }
    | [] =>
      match b.fault with
      | some reason => (.broken reason, b)
      | none =>
        if b.buffer.all isSpace then (.atEnd, b)
        else (.document b.buffer, { b with buffer := [] })
  termination_by b.size
  decreasing_by
    · have := Lines.length_after_lt _h
      simp only [size]; omega
    · simp only [size, _hp, List.length_append, weight]; omega

/-- What reading to the end gives: the rows of each document, or why there are none. After a break
there is nothing more. Every document takes at least one byte. -/
def results (b : Body) : List (Except QueryError Rows) :=
  go (b.size + 1) b
where
  /-- Reads at most so many documents. -/
  go : Nat → Body → List (Except QueryError Rows)
    | 0, _ => []
    | fuel + 1, b =>
      match b.next with
      | (.document bytes, b) => decode bytes :: go fuel b
      | (.atEnd, _) => []
      | (.broken reason, _) => [.error (.connection ("reading results: " ++ reason))]

/-- All of a body as text; nothing if it breaks off. -/
def text (b : Body) : String :=
  if b.fault.isSome then ""
  else String.ofList (Utf8.decodeLossy (b.buffer ++ b.pieces.flatten))

end Body

end SyslogCollector.Store.Influx
