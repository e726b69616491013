import SyslogCollector.Store.Writer.Basic
/-!
# The batched writer: its steps

A run of a writer is a sequence of actions. `enabled` says which actions are possible in a state,
`next` what they do. Whoever waits for the buffer may take it when it is free, in any order; time
passes by an action of its own. So the runs are all interleavings of the callers, the flush task
and the clock, with a store that answers as it likes.
-/

namespace SyslogCollector.Store.Writer

/-- Something that happens to a writer. -/
inductive Action where
  /-- A new caller makes a call. -/
  | call (id : Nat) (c : Call)
  /-- A caller goes on to its next phase. -/
  | proceed (id : Nat)
  /-- A caller gives up at its deadline. -/
  | expire (id : Nat)
  /-- A caller is gone before its call comes to an end. -/
  | abandon (id : Nat)
  /-- A reader is made. -/
  | openReader (reader : Nat) (params : QueryParams)
  /-- The flush task is started. -/
  | start
  /-- The flush task is asked to stop. -/
  | stop
  /-- The idle flush task sees that it shall stop. -/
  | leave
  /-- The idle flush task takes the oldest request. -/
  | serve
  /-- The periodic flush is due for the idle flush task. -/
  | tick
  /-- The flush task goes on with what it does. -/
  | work
  /-- Time passes. -/
  | pass (nanos : Nat)
  deriving Repr

namespace State

variable {σ : Type}

/-- The reader of a number. -/
def reader? (s : State σ) (reader : Nat) : Option Reader := s.readers.lookup reader

/-! ## Flushing -/

/-- Hands all points of the buffer to the store. The party holds the buffer until the answer. -/
def submit (B : Backend σ) (s : State σ) (party : Party) : State σ :=
  let batch := s.buffer.toList
  let (answer, store) := B.submit s.store batch
  { s with store, buffer := #[], flight := some ⟨party, batch, answer⟩ }

/-- Whether the flush of a party can go on: the buffer is free, or it is its own and the store has
answered. -/
def canFlush (s : State σ) (party : Party) : Bool :=
  match s.flight with
  | none => true
  | some f => f.holder = party && f.answer != .never

/-- One step of the flush of a party: its result once there is one. Nothing is handed over if the
buffer is empty. -/
def flushStep (B : Backend σ) (s : State σ) (party : Party) :
    Option (Except SinkError Unit) × State σ :=
  match s.flight with
  | none => if s.buffer.isEmpty then (some (.ok ()), s) else (none, s.submit B party)
  | some f =>
    match f.answer.result? with
    | none => (none, s)
    | some result =>
      (some result,
        { s with flight := none, metrics := s.metrics.countBatch f.batch.length result })

/-! ## Callers -/

/-- A new call. -/
def begin (s : State σ) (id : Nat) : Call → State σ
  | .write m received =>
    if m.hasAppName then s.move id (.pushing (Point.ofMessage m received))
    else { s with metrics := { s.metrics with rejected := s.metrics.rejected + 1 } }.finish id
      (.done (.error .missingAppName))
  | .flush => s.move id (.flushing none .result)
  | .count => s.move id .counting
  | .read reader =>
    match s.reader? reader with
    | some (.pending params) =>
      match SeriesQuery.ofParams params with
      | .error error =>
        { s with readers := Numbered.assign reader .finished s.readers }.finish id (.reading (.failed error))
      | .ok _ => s.move id (.flushing none (.query reader))
    | some (.streaming rest) =>
      let (reading, r) := nextLines rest
      { s with readers := Numbered.assign reader r s.readers }.finish id (.reading reading)
    | _ => s.finish id (.reading .atEnd)
  | .wait => if s.task = .absent then s.finish id (.done (.ok ())) else s.move id .waiting

/-- A producer has put its point into the buffer. Below the high-water mark that is all; at it, a
flush is forced: by a request if the flush task runs, else by the producer itself. -/
def afterPush (t : Tuning) (s : State σ) (id size : Nat) : State σ :=
  let s := { s with metrics := { s.metrics with buffered := s.metrics.buffered + 1 } }
  if size < t.highWaterMark then s.finish id (.done (.ok ()))
  else
    let s := { s with metrics := { s.metrics with forcedFlushes := s.metrics.forcedFlushes + 1 } }
    if s.running then s.move id (.requesting (s.now + t.flushTimeout.nanos))
    else s.move id (.flushing none .result)

/-- Sends the query of a reader. -/
def sendQuery (B : Backend σ) (s : State σ) (id reader : Nat) (params : QueryParams) : State σ :=
  match SeriesQuery.ofParams params with
  | .error error =>
    { s with readers := Numbered.assign reader .finished s.readers }.finish id (.reading (.failed error))
  | .ok q =>
    let (chunks, store) := B.query s.store q
    let (reading, r) := firstLines chunks
    { s with store, readers := Numbered.assign reader r s.readers }.finish id (.reading reading)

/-- Whether a caller in a phase can go on. -/
def canProceed (s : State σ) (id : Nat) : Phase → Bool
  | .pushing _ | .counting => s.isFree
  | .pushed _ | .admitted _ | .querying _ => true
  | .requesting _ => !s.accepting || s.requestCount < requestLimit
  | .flushing .. => s.canFlush (.caller id)
  | .waiting => s.task == .ended
  | .awaiting _ | .returned _ => false

/-- A caller goes on from a phase. -/
def proceed (B : Backend σ) (t : Tuning) (s : State σ) (id : Nat) : Phase → State σ
  | .pushing p =>
    let size := s.buffer.size + 1
    { s with buffer := s.buffer.push p }.move id (.pushed size)
  | .pushed size => s.afterPush t id size
  | .requesting deadline =>
    s.move id (if s.accepting then .admitted deadline else .flushing (some deadline) .result)
  | .admitted deadline => { s with requests := s.requests ++ [id] }.move id (.awaiting deadline)
  | .flushing _ purpose =>
    let (result, s) := s.flushStep B (.caller id)
    match result, purpose with
    | none, _ => s
    | some result, .result => s.finish id (.done result)
    | some _, .query reader => s.move id (.querying reader)
  | .querying reader =>
    match s.reader? reader with
    | some (.pending params) => s.sendQuery B id reader params
    | _ => s.finish id (.reading .atEnd)
  | .counting => s.finish id (.size s.buffer.size)
  | .waiting => s.finish id (.done (.ok ()))
  | .awaiting _ | .returned _ => s

/-- A caller gives up waiting for a forced flush. -/
def expire (t : Tuning) (s : State σ) (id : Nat) : State σ :=
  let s := s.release id
  { s with metrics := { s.metrics with flushTimeouts := s.metrics.flushTimeouts + 1 } }.finish id
    (.done (.error (.flushTimeout t.flushTimeout)))

/-- A caller is gone. -/
def abandon (s : State σ) (id : Nat) : State σ :=
  let s := s.release id
  { s with callers := Numbered.erase id s.callers }

/-! ## The flush task -/

/-- Answers the request of a caller, if it still waits for it. -/
def acknowledge (s : State σ) (id : Nat) (result : Except SinkError Unit) : State σ :=
  match s.phase? id with
  | some (.awaiting _) => s.finish id (.done result)
  | _ => s

/-- The end of the flush task. Whoever still waits for an answer flushes the buffer itself. -/
def endTask (s : State σ) : State σ :=
  { s with
    task := .ended
    requests := []
    callers := s.callers.map fun (id, phase) =>
      match phase with
      | .awaiting deadline =>
        (id, if id ∈ s.requests then .flushing (some deadline) .result else phase)
      | _ => (id, phase) }

/-- What the flush task does after a flush. -/
def afterTaskFlush (s : State σ) (result : Except SinkError Unit) : Cause → State σ
  | .tick => { s with task := .idle }
  | .request id => { s with task := .idle }.acknowledge id result
  | .leftover id => { s with task := .closing }.acknowledge id result
  | .final => s.endTask

/-- When the next periodic flush is due after one that happens now. One that comes late puts off
all later ones. -/
def followingTick (t : Tuning) (s : State σ) : Moment :=
  (if s.nextTick + tickTolerance < s.now then s.now else s.nextTick) + t.writeInterval.nanos

/-- Whether the flush task can go on with what it does. -/
def canWork (s : State σ) : Bool :=
  match s.task with
  | .flushing _ => s.canFlush .task
  | .closing => true
  | _ => false

/-- The flush task goes on with what it does. -/
def work (B : Backend σ) (s : State σ) : State σ :=
  match s.task with
  | .flushing cause =>
    match s.flushStep B .task with
    | (none, s) => s
    | (some result, s) => s.afterTaskFlush result cause
  | .closing =>
    match s.requests with
    | id :: rest => { s with requests := rest, task := .flushing (.leftover id) }
    | [] => { s with running := false, task := .flushing .final }
  | _ => s

/-! ## Actions -/

/-- Whether an action is possible. -/
def enabled (s : State σ) : Action → Bool
  | .call id c =>
    (s.phase? id).isNone &&
      (match c with
        | .read reader => (s.reader? reader).isSome
        | _ => true)
  | .proceed id => (s.phase? id).any (s.canProceed id)
  | .expire id => ((s.phase? id).bind Phase.deadline?).any (· ≤ s.now)
  | .abandon id => (s.phase? id).isSome
  | .openReader reader _ => (s.reader? reader).isNone
  | .start => s.task == .absent
  | .leave => s.task == .idle && s.stopping
  | .serve => s.task == .idle && !s.requests.isEmpty
  | .tick => s.task == .idle && s.nextTick ≤ s.now
  | .work => s.canWork
  | .stop | .pass _ => true

/-- What an action does. -/
def next (B : Backend σ) (t : Tuning) (s : State σ) : Action → State σ
  | .call id c => s.begin id c
  | .proceed id =>
    match s.phase? id with
    | some phase => s.proceed B t id phase
    | none => s
  | .expire id => s.expire t id
  | .abandon id => s.abandon id
  | .openReader reader params =>
    { s with readers := Numbered.assign reader (.pending params) s.readers }
  | .start =>
    { s with running := true, task := .idle, nextTick := s.now + t.writeInterval.nanos }
  | .stop => { s with stopping := true }
  | .leave => { s with accepting := false, task := .closing }
  | .serve =>
    match s.requests with
    | id :: rest => { s with requests := rest, task := .flushing (.request id) }
    | [] => s
  | .tick => { s with nextTick := s.followingTick t, task := .flushing .tick }
  | .work => s.work B
  | .pass nanos => { s with now := s.now + nanos }

/-- One step of a run. -/
def Step (B : Backend σ) (t : Tuning) (s : State σ) (a : Action) (s' : State σ) : Prop :=
  s.enabled a = true ∧ s' = s.next B t a

/-- The states that a run leads to. -/
inductive Reachable (B : Backend σ) (t : Tuning) (start : State σ) : State σ → Prop
  /-- A run of no steps. -/
  | refl : Reachable B t start start
  /-- One step more. -/
  | step {s s' : State σ} {a : Action} :
    Reachable B t start s → Step B t s a s' → Reachable B t start s'

end State

end SyslogCollector.Store.Writer
