import SyslogCollector.Store.Memory
/-!
# Stores

What the writer and the readers need of a store: it takes batches of points, answers queries in
chunks and lists its applications. `Backend` is that interface over an arbitrary state, so that a
law about all stores quantifies over it. A `PlannedStore` keeps points in memory and refuses, or
never answers, as a plan says.
-/

namespace SyslogCollector.Store

/-- What becomes of a batch that was handed to a store. -/
inductive Answer where
  /-- The store took it. -/
  | taken
  /-- The store refused it. -/
  | refused (error : SinkError)
  /-- The store never answers. -/
  | never
  deriving DecidableEq, Repr

/-- The result that an answer brings, if it ever comes. -/
def Answer.result? : Answer → Option (Except SinkError Unit)
  | .taken => some (.ok ())
  | .refused error => some (.error error)
  | .never => none

/-- Every answer brings a result, but the one that never comes. -/
theorem Answer.exists_result?_iff {answer : Answer} :
    (∃ result, answer.result? = some result) ↔ answer ≠ .never := by
  cases answer <;> simp [Answer.result?]

/-- The answer to a query as it comes in: chunks of rows, and in place of one the failure to get
it. -/
abbrev Chunks := List (Except QueryError (List Row))

/-- A store over states of a type. -/
structure Backend (σ : Type) where
  /-- The name of the store. -/
  name : String
  /-- Hands over a batch. -/
  submit : σ → List Point → Answer × σ
  /-- Starts a query. -/
  query : σ → SeriesQuery → Except QueryError Chunks × σ
  /-- Lists the applications. -/
  measurements : σ → Except QueryError (List String) × σ

/-- The store in memory: it takes everything and never fails. -/
def Backend.memory : Backend MemoryStore where
  name := MemoryStore.name
  submit s batch := (.taken, s.write batch)
  query s q := (.ok ((s.query q).map .ok), s)
  measurements s := (.ok s.measurements, s)

/-- A store that only looks at the first half of its state. -/
def Backend.onFst (B : Backend σ) : Backend (σ × τ) where
  name := B.name
  submit s batch :=
    let (answer, a) := B.submit s.1 batch
    (answer, (a, s.2))
  query s q :=
    let (answer, a) := B.query s.1 q
    (answer, (a, s.2))
  measurements s :=
    let (names, a) := B.measurements s.1
    (names, (a, s.2))

/-- A store that only looks at the second half of its state. -/
def Backend.onSnd (B : Backend τ) : Backend (σ × τ) where
  name := B.name
  submit s batch :=
    let (answer, b) := B.submit s.2 batch
    (answer, (s.1, b))
  query s q :=
    let (answer, b) := B.query s.2 q
    (answer, (s.1, b))
  measurements s :=
    let (names, b) := B.measurements s.2
    (names, (s.1, b))

/-- How a query on a planned store goes. -/
inductive QueryPlan where
  /-- It is answered. -/
  | answered
  /-- It does not start. -/
  | refused (error : QueryError)
  /-- So many results are read, the end of the answer being one of them, and then it fails. -/
  | breaksAfter (results : Nat) (error : QueryError)
  deriving DecidableEq, Repr

/-- The chunks that a plan lets through. -/
def QueryPlan.apply (chunks : List (List Row)) : QueryPlan → Except QueryError Chunks
  | .answered => .ok (chunks.map .ok)
  | .refused error => .error error
  | .breaksAfter results error =>
    if results ≤ chunks.length then .ok ((chunks.take results).map .ok ++ [.error error])
    else .ok (chunks.map .ok)

/-- A store in memory that goes wrong as a plan says. -/
structure PlannedStore where
  /-- The points it has. -/
  memory : MemoryStore := {}
  /-- The answers to the next batches; after these it takes everything. -/
  answers : List Answer := []
  /-- How the next queries go; after these all are answered. -/
  queries : List QueryPlan := []
  /-- Why it does not list its applications, if it does not. -/
  listFault : Option QueryError := none
  deriving Repr

namespace PlannedStore

/-- Hands over a batch. Only a batch that is taken is stored. -/
def submit (s : PlannedStore) (batch : List Point) : Answer × PlannedStore :=
  let answer := s.answers.head?.getD .taken
  let memory := if answer = .taken then s.memory.write batch else s.memory
  (answer, { s with memory, answers := s.answers.tail })

/-- Starts a query. -/
def query (s : PlannedStore) (q : SeriesQuery) : Except QueryError Chunks × PlannedStore :=
  let plan := s.queries.head?.getD .answered
  (plan.apply (s.memory.query q), { s with queries := s.queries.tail })

/-- A planned store as a store. -/
def backend : Backend PlannedStore where
  name := MemoryStore.name
  submit := submit
  query := query
  measurements s :=
    (match s.listFault with
      | some error => .error error
      | none => .ok s.memory.measurements, s)

end PlannedStore

end SyslogCollector.Store
