import SyslogCollector.Counter
import SyslogCollector.Numbered
import SyslogCollector.Store.Reader
/-!
# The batched writer: its state

Producers put points into a buffer that one party at a time may use. A flush takes all points of
the buffer and hands them to the store as one batch, holding the buffer until the store answers.
The flush task flushes once every interval, on request, and when it is stopped. A producer whose
point fills the buffer up to the high-water mark requests a flush and waits for it, but only for a
limited time.

Everybody who uses the writer is a caller with a number of its own. A caller makes one call and goes
through its phases; the task goes through its own. `Store/Writer/Step.lean` says how.
-/

namespace SyslogCollector.Store.Writer

/-- A moment, in nanoseconds since the writer was made. -/
abbrev Moment := Nat

/-- How a writer is tuned. -/
structure Tuning where
  /-- The time from one periodic flush to the next. -/
  writeInterval : Duration := .ofSeconds 1
  /-- So many points in the buffer force a flush. -/
  highWaterMark : Nat := 20000
  /-- How long a producer waits for a forced flush. -/
  flushTimeout : Duration := .ofSeconds 60
  deriving DecidableEq, Repr

/-- The tuning with another interval; no time at all stands for the default. -/
def Tuning.withWriteInterval (t : Tuning) (interval : Duration) : Tuning :=
  { t with writeInterval := if interval.isZero then ({} : Tuning).writeInterval else interval }

/-- How many requests for a flush may wait. -/
def requestLimit : Nat := 10

/-- A tick that is later than this counts as missed: the next one comes a whole interval after
it. -/
def tickTolerance : Nat := 5000000

/-- What a writer counts. -/
structure Metrics where
  /-- Points put into the buffer. -/
  buffered : Nat := 0
  /-- Points that the store took. -/
  written : Nat := 0
  /-- Points that the store refused. -/
  dropped : Nat := 0
  /-- Batches that the store answered. -/
  flushes : Nat := 0
  /-- Batches that the store refused. -/
  flushErrors : Nat := 0
  /-- Flushes forced by the high-water mark. -/
  forcedFlushes : Nat := 0
  /-- Forced flushes that took too long. -/
  flushTimeouts : Nat := 0
  /-- Messages that name no application. -/
  rejected : Nat := 0
  deriving DecidableEq, Repr, Inhabited

namespace Metrics

/-- Counts the answer to a batch of some points. -/
def countBatch (m : Metrics) (points : Nat) : Except SinkError Unit → Metrics
  | .ok _ => { m with flushes := m.flushes + 1, written := m.written + points }
  | .error _ =>
    { m with
      flushes := m.flushes + 1
      flushErrors := m.flushErrors + 1
      dropped := m.dropped + points }

/-- The counters as they are shown, with their names. -/
def shown (m : Metrics) : List (String × Nat) :=
  [("points_buffered", shownCount m.buffered), ("points_written", shownCount m.written),
    ("points_dropped", shownCount m.dropped), ("flushes", shownCount m.flushes),
    ("flush_errors", shownCount m.flushErrors), ("forced_flushes", shownCount m.forcedFlushes),
    ("flush_timeouts", shownCount m.flushTimeouts), ("rejected", shownCount m.rejected)]

end Metrics

/-- Who may hold the buffer. -/
inductive Party where
  /-- The flush task. -/
  | task
  /-- A caller. -/
  | caller (id : Nat)
  deriving DecidableEq, Repr

/-- A batch that was handed to the store and is not answered yet. Its party holds the buffer. -/
structure Flight where
  holder : Party
  batch : List Point
  answer : Answer
  deriving Repr

/-- What a caller may ask of a writer. -/
inductive Call where
  /-- Store a message received at this time. -/
  | write (m : Message) (received : Instant)
  /-- Flush the buffer. -/
  | flush
  /-- Count the points in the buffer. -/
  | count
  /-- Use a reader. -/
  | read (reader : Nat)
  /-- Wait for the end of the flush task, if there is one. -/
  | wait
  deriving Repr

/-- What a call comes to. -/
inductive Outcome where
  /-- The result of a write, a flush or a wait. -/
  | done (result : Except SinkError Unit)
  /-- How many points are in the buffer. -/
  | size (points : Nat)
  /-- What a reader gives. -/
  | reading (r : Reading)
  deriving Repr

/-- What a caller is after when it flushes. -/
inductive Purpose where
  /-- The result of the flush. -/
  | result
  /-- The answer to a query, whatever becomes of the flush. -/
  | query (reader : Nat)
  deriving DecidableEq, Repr

/-- Where a caller stands. -/
inductive Phase where
  /-- Waits for the buffer, to put a point into it. -/
  | pushing (p : Point)
  /-- Has put its point into the buffer, which then had this many. -/
  | pushed (size : Nat)
  /-- Waits for room among the requests. -/
  | requesting (deadline : Moment)
  /-- Has got room among the requests. -/
  | admitted (deadline : Moment)
  /-- Waits for the answer to its request. -/
  | awaiting (deadline : Moment)
  /-- Waits for the buffer, to flush it, or for the store. -/
  | flushing (deadline : Option Moment) (purpose : Purpose)
  /-- Is about to send the query of a reader. -/
  | querying (reader : Nat)
  /-- Waits for the buffer, to count its points. -/
  | counting
  /-- Waits for the end of the flush task. -/
  | waiting
  /-- Its call has come to an end. -/
  | returned (outcome : Outcome)
  deriving Repr

/-- The moment at which a caller gives up, if it will. -/
def Phase.deadline? : Phase → Option Moment
  | .requesting deadline | .admitted deadline | .awaiting deadline => some deadline
  | .flushing deadline _ => deadline
  | _ => none

/-- Why the flush task flushes. -/
inductive Cause where
  /-- The interval is over. -/
  | tick
  /-- A caller requested it. -/
  | request (id : Nat)
  /-- A caller requested it before the task was stopped. -/
  | leftover (id : Nat)
  /-- The task comes to its end. -/
  | final
  deriving DecidableEq, Repr

/-- Where the flush task stands. -/
inductive Task where
  /-- It was never started. -/
  | absent
  /-- It waits for something to do. -/
  | idle
  /-- It waits for the buffer, to flush it, or for the store. -/
  | flushing (cause : Cause)
  /-- It was stopped and serves the requests that are left. -/
  | closing
  /-- It has come to its end. -/
  | ended
  deriving DecidableEq, Repr

/-- A writer and all who use it. -/
structure State (σ : Type) where
  /-- The store. -/
  store : σ
  /-- The points that wait for the next flush. -/
  buffer : Array Point := #[]
  /-- The batch that the store has not answered yet; while there is one, the buffer is held. -/
  flight : Option Flight := none
  /-- The callers whose requests wait, the oldest first. -/
  requests : List Nat := []
  /-- Whether requests are still taken. -/
  accepting : Bool := true
  /-- Whether producers rely on the flush task. -/
  running : Bool := false
  /-- Whether the flush task is asked to stop. -/
  stopping : Bool := false
  /-- The flush task. -/
  task : Task := .absent
  /-- When the next periodic flush is due. -/
  nextTick : Moment := 0
  /-- The callers, each with its number. -/
  callers : List (Nat × Phase) := []
  /-- The readers, each with its number. -/
  readers : List (Nat × Reader) := []
  /-- The counters. -/
  metrics : Metrics := {}
  /-- The time. -/
  now : Moment := 0

namespace State

variable {σ : Type}

/-- Whether nobody holds the buffer. -/
def isFree (s : State σ) : Bool := s.flight.isNone

/-- Where a caller stands. -/
def phase? (s : State σ) (id : Nat) : Option Phase := s.callers.lookup id

/-- Moves a caller. -/
def move (s : State σ) (id : Nat) (phase : Phase) : State σ :=
  { s with callers := Numbered.assign id phase s.callers }

/-- Ends the call of a caller. -/
def finish (s : State σ) (id : Nat) (outcome : Outcome) : State σ :=
  s.move id (.returned outcome)

/-- Lets the buffer go if this caller holds it. What it took out of the buffer is gone. -/
def release (s : State σ) (id : Nat) : State σ :=
  match s.flight with
  | some f => if f.holder = .caller id then { s with flight := none } else s
  | none => s

/-- How many requests wait or have room. -/
def requestCount (s : State σ) : Nat :=
  s.requests.length + s.callers.countP fun c => c.2 matches .admitted _

end State

end SyslogCollector.Store.Writer
