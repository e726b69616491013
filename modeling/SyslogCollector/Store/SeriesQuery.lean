import SyslogCollector.Store.Error
import SyslogCollector.Store.Point
/-!
# Queries on a time-series store

A query names one application and may bound the time on one side and fix the host. Its statement
in InfluxQL is

    select time,severity,message from APP [where TIME-BOUND [and hostname='HOST']]
-/

namespace SyslogCollector

/-- A bound on the time, in nanoseconds since the epoch. -/
inductive TimeBound where
  /-- Not before this time. -/
  | atLeast (nanos : Int)
  /-- Not after this time. -/
  | atMost (nanos : Int)
  deriving DecidableEq, Repr

/-- Whether a time lies within the bound. -/
def TimeBound.contains : TimeBound → Int → Bool
  | .atLeast bound, nanos => bound ≤ nanos
  | .atMost bound, nanos => nanos ≤ bound

/-- What a store is asked for. -/
structure SeriesQuery where
  /-- The application. -/
  measurement : String
  /-- The bound on the time, if there is one. -/
  time : Option TimeBound
  /-- The host, if only one counts. -/
  hostname : Option String
  deriving DecidableEq, Repr

namespace SeriesQuery

/-- The query of a request. Only one bound is applied: the start if there is one, else the end. -/
def ofParams (p : QueryParams) : Except QueryError SeriesQuery :=
  if p.appName.isEmpty then .error .missingAppName
  else .ok {
    measurement := p.appName
    time := match p.start, p.stop with
      | some start, _ => some (.atLeast start.toNanos)
      | none, some stop => some (.atMost stop.toNanos)
      | none, none => none
    hostname := p.hostFilter }

/-- Whether a point is asked for, its application aside. -/
def admits (q : SeriesQuery) (p : Point) : Bool :=
  q.time.all (·.contains p.nanos) && q.hostname.all (· == p.hostname)

/-! ## The statement -/

/-- Puts a backslash in front of every backslash and every quote. -/
def escape (quote : Char) (text : List Char) : List Char :=
  text.flatMap fun c => if c = quote ∨ c = '\\' then ['\\', c] else [c]

/-- A text between quotes. -/
def quoted (quote : Char) (text : String) : List Char :=
  quote :: escape quote text.toList ++ [quote]

/-- Whether a name needs no quotes: a letter or an underscore, then letters, digits and
underscores, all of them ASCII. -/
def isPlainWord (name : List Char) : Bool :=
  name.head?.any (fun c => c.isAlpha || c == '_') &&
    name.all fun c => c.isAlphanum || c == '_'

/-- A name, in quotes unless it needs none. -/
def identifier (name : String) : List Char :=
  if isPlainWord name.toList then name.toList else quoted '"' name

/-- The condition of a time bound. -/
def timeCondition : TimeBound → List Char
  | .atLeast nanos => "time >= ".toList ++ (toString nanos).toList
  | .atMost nanos => "time <= ".toList ++ (toString nanos).toList

/-- The conditions of a query, in the order in which they are written. -/
def conditions (q : SeriesQuery) : List (List Char) :=
  (q.time.map timeCondition).toList ++
    (q.hostname.map fun host => "hostname=".toList ++ quoted '\'' host).toList

/-- The conditions after `where`, joined with `and`; nothing if there are none. -/
def whereClause : List (List Char) → List Char
  | [] => []
  | c :: rest => " where ".toList ++ c ++ rest.flatMap fun d => " and ".toList ++ d

/-- The statement of a query. -/
def statement (q : SeriesQuery) : String :=
  String.ofList ("select time,severity,message from ".toList ++ identifier q.measurement ++
    whereClause q.conditions)

end SeriesQuery

end SyslogCollector
