import SyslogCollector.Store.SeriesQuery
/-!
# The in-memory store

Keeps points by application and answers queries on them. Applications are kept in the order of
their names, the points of each in the order of their arrival.
-/

namespace SyslogCollector

/-- Cuts a list into pieces of a given size (at least 1); the last one may be shorter. -/
def chunksOf (size : Nat) (items : List α) : List (List α) :=
  match items with
  | [] => []
  | a :: rest => (a :: rest.take (size - 1)) :: chunksOf size (rest.drop (size - 1))
  termination_by items.length
  decreasing_by simp only [List.length_drop, List.length_cons]; omega

/-- A store in memory. -/
structure MemoryStore where
  /-- The points of each application, by name. -/
  series : List (String × Array Point) := []
  /-- How many batches with at least one point were written. -/
  batchesWritten : Nat := 0
  /-- How many rows a chunk of an answer may hold. -/
  chunkSize : Nat := 20000
  deriving Repr, Inhabited

namespace MemoryStore

/-- A store without points, with at least one row to a chunk. -/
def withChunkSize (size : Nat) : MemoryStore :=
  { chunkSize := max size 1 }

/-- Files a point under its application. -/
def file (p : Point) : List (String × Array Point) → List (String × Array Point)
  | [] => [(p.measurement, #[p])]
  | (name, points) :: rest =>
    if name = p.measurement then (name, points.push p) :: rest
    else if p.measurement < name then (p.measurement, #[p]) :: (name, points) :: rest
    else (name, points) :: file p rest

/-- Stores a batch of points, in order. An empty batch changes nothing. -/
def write (s : MemoryStore) (batch : List Point) : MemoryStore :=
  if batch.isEmpty then s
  else { s with
    series := batch.foldl (fun series p => file p series) s.series
    batchesWritten := s.batchesWritten + 1 }

/-- The points of an application, in the order of their arrival. -/
def points (s : MemoryStore) (measurement : String) : List Point :=
  ((s.series.lookup measurement).getD #[]).toList

/-- How many points are stored. -/
def size (s : MemoryStore) : Nat :=
  s.series.foldr (fun (_, points) n => points.size + n) 0

/-- The applications that have points, in the order of their names. -/
def measurements (s : MemoryStore) : List String :=
  (s.series.filter (!·.2.isEmpty)).map (·.1)

/-- The rows that a query asks for, in the order of their times; rows of one time stay in the order
of their arrival. -/
def rows (s : MemoryStore) (q : SeriesQuery) : List Row :=
  (((s.points q.measurement).filter q.admits).map Point.row).mergeSort
    fun a b => a.nanos ≤ b.nanos

/-- The answer to a query: its rows, cut into chunks. -/
def query (s : MemoryStore) (q : SeriesQuery) : List (List Row) :=
  chunksOf s.chunkSize (s.rows q)

/-- The name of the store. -/
def name : String := "memory"

end MemoryStore

end SyslogCollector
