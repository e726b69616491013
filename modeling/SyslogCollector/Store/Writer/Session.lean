import SyslogCollector.Store.Writer.Step
/-!
# The batched writer: sessions

A session makes one call after the other. Between two calls the flush task works until it has
nothing more to do. Time stands still while anybody can go on; otherwise it jumps to the next
moment at which somebody can. Where several things can be done at one moment, the caller goes first
and the task prefers its periodic flush. A call that does not come to an end in a given time is
abandoned.
-/

namespace SyslogCollector.Store.Writer

/-- A writer that is used by one call after the other. -/
structure Session (σ : Type) where
  /-- The store. -/
  backend : Backend σ
  /-- The tuning. -/
  tuning : Tuning
  /-- The writer. -/
  state : State σ
  /-- How many calls were made; the next one has this number. -/
  calls : Nat := 0

namespace Session

variable {σ : Type}

/-- How long a call may take. -/
def patience : Nat := 600 * Duration.second

/-- What the flush task does next, if it can do anything. -/
def taskAction? (s : State σ) : Option Action :=
  [.leave, .tick, .serve, .work].find? s.enabled

/-- What a caller does next, if it can do anything. -/
def callerAction? (s : State σ) (id : Nat) : Option Action :=
  [.proceed id, .expire id].find? s.enabled

/-- How many steps of the flush task a span of time holds, at most, with nobody else there. -/
def stepsWithin (t : Tuning) (nanos : Nat) : Nat :=
  4 * (nanos / t.writeInterval.nanos + requestLimit + 8)

/-- Lets the flush task work until it has nothing more to do. -/
def settleState (B : Backend σ) (t : Tuning) : Nat → State σ → State σ
  | 0, s => s
  | fuel + 1, s =>
    match taskAction? s with
    | none => s
    | some a => settleState B t fuel (s.next B t a)

/-- Lets the flush task work until it has nothing more to do. -/
def settle (s : Session σ) : Session σ :=
  { s with
    state := settleState s.backend s.tuning (stepsWithin s.tuning tickTolerance) s.state }

/-- The next moment at which somebody may go on, with a call that is abandoned at `limit`. -/
def nextMoment (s : State σ) (id : Nat) (limit : Moment) : Moment :=
  let tick := if s.task = .idle then min s.nextTick limit else limit
  match (s.phase? id).bind Phase.deadline? with
  | some deadline => min deadline tick
  | none => tick

/-- Goes on until a call comes to an end or is abandoned. -/
def runCall (B : Backend σ) (t : Tuning) (id : Nat) (limit : Moment) :
    Nat → State σ → Option Outcome × State σ
  | 0, s => (none, s.abandon id)
  | fuel + 1, s =>
    match s.phase? id with
    | some (.returned outcome) => (some outcome, s.abandon id)
    | _ =>
      match callerAction? s id with
      | some a => runCall B t id limit fuel (s.next B t a)
      | none =>
        if limit ≤ s.now then (none, s.abandon id)
        else match taskAction? s with
          | some a => runCall B t id limit fuel (s.next B t a)
          | none => runCall B t id limit fuel (s.next B t (.pass (nextMoment s id limit - s.now)))

/-- Makes a call and waits for its end, at most up to a given moment. There is no outcome if the
call had to be abandoned. -/
def callBy (s : Session σ) (limit : Moment) (c : Call) : Option Outcome × Session σ :=
  let B := s.backend
  let t := s.tuning
  let id := s.calls
  let fuel := stepsWithin t (limit - s.state.now)
  let (outcome, state) := runCall B t id limit fuel (s.state.next B t (.call id c))
  (outcome, { s with state, calls := id + 1 }.settle)

/-- Makes a call and waits for its end. -/
def call (s : Session σ) (c : Call) : Option Outcome × Session σ :=
  s.callBy (s.state.now + patience) c

/-- Lets time pass up to a moment while nobody makes a call. What is due at that moment is still to
come. -/
def followState (B : Backend σ) (t : Tuning) (moment : Moment) : Nat → State σ → State σ
  | 0, s => s
  | fuel + 1, s =>
    if moment ≤ s.now then s
    else match taskAction? s with
      | some a => followState B t moment fuel (s.next B t a)
      | none =>
        let target := if s.task = .idle then min s.nextTick moment else moment
        followState B t moment fuel (s.next B t (.pass (target - s.now)))

/-- Lets time pass up to a moment while nobody makes a call. -/
def follow (s : Session σ) (moment : Moment) : Session σ :=
  let fuel := stepsWithin s.tuning (moment - s.state.now)
  { s with state := followState s.backend s.tuning moment fuel s.state }

/-- Starts the flush task. -/
def start (s : Session σ) : Except SinkError Unit × Session σ :=
  if s.state.enabled .start then
    (.ok (), { s with state := s.state.next s.backend s.tuning .start }.settle)
  else (.error (.alreadyStarted s.backend.name), s)

/-- Asks the flush task to stop, without waiting for its end. -/
def cancel (s : Session σ) : Session σ :=
  { s with state := s.state.next s.backend s.tuning .stop }.settle

/-- Lets time pass at once. -/
def advance (s : Session σ) (nanos : Nat) : Session σ :=
  { s with state := s.state.next s.backend s.tuning (.pass nanos) }.settle

/-- Makes a reader. -/
def openReader (s : Session σ) (reader : Nat) (params : QueryParams) : Session σ :=
  { s with state := s.state.next s.backend s.tuning (.openReader reader params) }

/-- The applications that have points. -/
def list (s : Session σ) : Except QueryError (List String) × Session σ :=
  let (names, store) := s.backend.measurements s.state.store
  (names, { s with state := { s.state with store } })

end Session

end SyslogCollector.Store.Writer
