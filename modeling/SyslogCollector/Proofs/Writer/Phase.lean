import SyslogCollector.Store.Writer.Step
/-!
# The phases of the callers of a writer

A caller moves by its own actions. Of the others only the flush task can move it, and only while
it waits for the answer to its request: the task answers, or it comes to its end and the caller
flushes the buffer itself (`phase?_next_of_ne`).
-/

namespace SyslogCollector.Store.Writer

/-- The caller whose action this is. -/
def Action.caller? : Action → Option Nat
  | .call id _ | .proceed id | .expire id | .abandon id => some id
  | _ => none

/-- Whether an action leaves the time alone, and with it the next periodic flush and whether the
writer takes requests and is asked to stop. -/
def Action.keepsClock : Action → Bool
  | .start | .stop | .leave | .tick | .pass _ => false
  | _ => true

/-- Where a caller can be moved to by others: it stays where it is, its request is answered, or it
is told to flush the buffer itself. -/
inductive Phase.Released : Phase → Phase → Prop
  | kept (phase : Phase) : Released phase phase
  | answered (deadline : Moment) (result : Except SinkError Unit) :
      Released (.awaiting deadline) (.returned (.done result))
  | dismissed (deadline : Moment) :
      Released (.awaiting deadline) (.flushing (some deadline) .result)

/-- Where a caller can stand when it has made its call. -/
inductive Phase.First : Call → Phase → Prop
  | pushing {m : Message} (received : Instant) (h : m.hasAppName = true) :
      First (.write m received) (.pushing (Point.ofMessage m received))
  | rejected {m : Message} (received : Instant) (h : m.hasAppName = false) :
      First (.write m received) (.returned (.done (.error .missingAppName)))
  | flushing : First .flush (.flushing none .result)
  | counting : First .count .counting
  | querying (reader : Nat) : First (.read reader) (.flushing none (.query reader))
  | read (reader : Nat) (r : Reading) : First (.read reader) (.returned (.reading r))
  | waiting : First .wait .waiting
  | waited : First .wait (.returned (.done (.ok ())))

/-- Only a write waits to put a point into the buffer. -/
theorem Phase.First.exists_write {c : Call} {p : Point} (h : Phase.First c (.pushing p)) :
    ∃ m received, c = .write m received := by
  cases h with
  | pushing received => exact ⟨_, received, rfl⟩

/-- Where the own next step of a caller can lead. -/
inductive Phase.Next : Phase → Phase → Prop
  | pushed (p : Point) (size : Nat) : Next (.pushing p) (.pushed size)
  | stored (size : Nat) : Next (.pushed size) (.returned (.done (.ok ())))
  | requesting (size : Nat) (deadline : Moment) : Next (.pushed size) (.requesting deadline)
  | flushing (size : Nat) : Next (.pushed size) (.flushing none .result)
  | admitted (deadline : Moment) : Next (.requesting deadline) (.admitted deadline)
  | refused (deadline : Moment) :
      Next (.requesting deadline) (.flushing (some deadline) .result)
  | awaiting (deadline : Moment) : Next (.admitted deadline) (.awaiting deadline)
  | submitted (deadline : Option Moment) (purpose : Purpose) :
      Next (.flushing deadline purpose) (.flushing deadline purpose)
  | flushed (deadline : Option Moment) (result : Except SinkError Unit) :
      Next (.flushing deadline .result) (.returned (.done result))
  | querying (deadline : Option Moment) (reader : Nat) :
      Next (.flushing deadline (.query reader)) (.querying reader)
  | read (reader : Nat) (r : Reading) : Next (.querying reader) (.returned (.reading r))
  | counted (points : Nat) : Next .counting (.returned (.size points))
  | waited : Next .waiting (.returned (.done (.ok ())))

/-- The phase of a caller once the flush task has come to its end, by whether its request was left
then. -/
def Phase.afterEnd (left : Bool) : Phase → Phase
  | .awaiting deadline => if left then .flushing (some deadline) .result else .awaiting deadline
  | phase => phase

theorem Phase.released_afterEnd (left : Bool) (phase : Phase) :
    Phase.Released phase (phase.afterEnd left) := by
  cases phase with
  | awaiting deadline =>
    cases left with
    | true => exact .dismissed deadline
    | false => exact .kept _
  | _ => exact .kept _

namespace State

variable {σ : Type}

/-! ### What a step leaves alone -/

theorem exists_release (s : State σ) (id : Nat) : ∃ flight, s.release id = { s with flight } := by
  unfold release
  split
  · split <;> exact ⟨_, rfl⟩
  · exact ⟨_, rfl⟩

/-- A step of a flush changes the store, the buffer, the batch under way and the counters. -/
theorem exists_flushStep (B : Backend σ) (s : State σ) (party : Party) :
    ∃ store buffer flight metrics,
      (s.flushStep B party).2 = { s with store, buffer, flight, metrics } := by
  unfold flushStep
  split
  · split <;> exact ⟨_, _, _, _, rfl⟩
  · split <;> exact ⟨_, _, _, _, rfl⟩

theorem exists_begin (s : State σ) (id : Nat) (call : Call) :
    ∃ callers readers metrics, s.begin id call = { s with callers, readers, metrics } := by
  cases call with
  | write m received =>
    simp only [begin]
    split <;> exact ⟨_, _, _, rfl⟩
  | flush => exact ⟨_, _, _, rfl⟩
  | count => exact ⟨_, _, _, rfl⟩
  | read reader =>
    simp only [begin]
    split
    · split <;> exact ⟨_, _, _, rfl⟩
    · exact ⟨_, _, _, rfl⟩
    · exact ⟨_, _, _, rfl⟩
  | wait =>
    simp only [begin]
    split <;> exact ⟨_, _, _, rfl⟩

/-- A caller that goes on leaves the flush task and the clock. -/
theorem exists_proceed (B : Backend σ) (t : Tuning) (s : State σ) (id : Nat) (phase : Phase) :
    ∃ store buffer flight requests callers readers metrics, s.proceed B t id phase =
      { s with store, buffer, flight, requests, callers, readers, metrics } := by
  cases phase with
  | pushed size =>
    simp only [proceed, afterPush]
    split
    · exact ⟨_, _, _, _, _, _, _, rfl⟩
    · split <;> exact ⟨_, _, _, _, _, _, _, rfl⟩
  | flushing deadline purpose =>
    obtain ⟨store, buffer, flight, metrics, hflush⟩ := s.exists_flushStep B (.caller id)
    simp only [proceed, hflush]
    split <;> exact ⟨_, _, _, _, _, _, _, rfl⟩
  | querying reader =>
    simp only [proceed, sendQuery]
    split
    · split <;> exact ⟨_, _, _, _, _, _, _, rfl⟩
    · exact ⟨_, _, _, _, _, _, _, rfl⟩
  | pushing | requesting | admitted | awaiting | counting | waiting | returned =>
    exact ⟨_, _, _, _, _, _, _, rfl⟩

theorem exists_acknowledge (s : State σ) (id : Nat) (result : Except SinkError Unit) :
    ∃ callers, s.acknowledge id result = { s with callers } := by
  unfold acknowledge
  split <;> exact ⟨_, rfl⟩

/-- What the flush task does after a flush concerns itself, the requests and the callers. -/
theorem exists_afterTaskFlush (s : State σ) (result : Except SinkError Unit) (cause : Cause) :
    ∃ requests task callers,
      s.afterTaskFlush result cause = { s with requests, task, callers } := by
  cases cause with
  | tick => exact ⟨_, _, _, rfl⟩
  | request id =>
    obtain ⟨callers, hacknowledge⟩ := exists_acknowledge { s with task := .idle } id result
    exact ⟨_, _, _, hacknowledge⟩
  | leftover id =>
    obtain ⟨callers, hacknowledge⟩ := exists_acknowledge { s with task := .closing } id result
    exact ⟨_, _, _, hacknowledge⟩
  | final => exact ⟨_, _, _, rfl⟩

/-- The flush task leaves the readers and the clock. -/
theorem exists_work (B : Backend σ) (s : State σ) :
    ∃ store buffer flight requests running task callers metrics, s.work B =
      { s with store, buffer, flight, requests, running, task, callers, metrics } := by
  unfold work
  split
  · obtain ⟨store, buffer, flight, metrics, hflush⟩ := s.exists_flushStep B .task
    split
    case h_1 s' hnone =>
      obtain rfl : s' = _ := (congrArg Prod.snd hnone).symm.trans hflush
      exact ⟨_, _, _, _, _, _, _, _, rfl⟩
    case h_2 result s' hsome =>
      obtain rfl : s' = _ := (congrArg Prod.snd hsome).symm.trans hflush
      obtain ⟨requests, task, callers, hafter⟩ := exists_afterTaskFlush
        { s with store, buffer, flight, metrics } result _
      exact ⟨_, _, _, _, _, _, _, _, hafter⟩
  · split <;> exact ⟨_, _, _, _, _, _, _, _, rfl⟩
  · exact ⟨_, _, _, _, _, _, _, _, rfl⟩

/-- What the other actions leave alone. -/
theorem exists_next (B : Backend σ) (t : Tuning) (s : State σ) {a : Action}
    (h : a.keepsClock = true) :
    ∃ store buffer flight requests running task callers readers metrics, s.next B t a =
      { s with store, buffer, flight, requests, running, task, callers, readers, metrics } := by
  cases a with
  | call id call =>
    obtain ⟨_, _, _, hbegin⟩ := s.exists_begin id call
    exact ⟨_, _, _, _, _, _, _, _, _, hbegin⟩
  | proceed id =>
    simp only [next]
    split
    · obtain ⟨_, _, _, _, _, _, _, hproceed⟩ := s.exists_proceed B t id _
      exact ⟨_, _, _, _, _, _, _, _, _, hproceed⟩
    · exact ⟨_, _, _, _, _, _, _, _, _, rfl⟩
  | expire id =>
    obtain ⟨_, hrelease⟩ := s.exists_release id
    simp only [next, expire, hrelease]
    exact ⟨_, _, _, _, _, _, _, _, _, rfl⟩
  | abandon id =>
    obtain ⟨_, hrelease⟩ := s.exists_release id
    simp only [next, abandon, hrelease]
    exact ⟨_, _, _, _, _, _, _, _, _, rfl⟩
  | serve =>
    simp only [next]
    split <;> exact ⟨_, _, _, _, _, _, _, _, _, rfl⟩
  | work =>
    obtain ⟨_, _, _, _, _, _, _, _, hwork⟩ := s.exists_work B
    exact ⟨_, _, _, _, _, _, _, _, _, hwork⟩
  | openReader => exact ⟨_, _, _, _, _, _, _, _, _, rfl⟩
  | start | stop | leave | tick | pass => cases h

/-- Only the clock changes the time. -/
theorem now_next (B : Backend σ) (t : Tuning) (s : State σ) {a : Action}
    (h : ∀ nanos, a ≠ .pass nanos) : (s.next B t a).now = s.now := by
  by_cases hkeeps : a.keepsClock = true
  · obtain ⟨_, _, _, _, _, _, _, _, _, hnext⟩ := s.exists_next B t hkeeps
    rw [hnext]
  · cases a with
    | pass nanos => exact absurd rfl (h nanos)
    | start | stop | leave | tick => rfl
    | _ => exact absurd rfl hkeeps

/-! ### Lookups -/

@[simp]
theorem phase?_move_self (s : State σ) (id : Nat) (phase : Phase) :
    (s.move id phase).phase? id = some phase :=
  Numbered.lookup_assign_self id phase s.callers

theorem phase?_move_of_ne {c id : Nat} (h : c ≠ id) (s : State σ) (phase : Phase) :
    (s.move id phase).phase? c = s.phase? c :=
  Numbered.lookup_assign_of_ne h phase s.callers

@[simp]
theorem phase?_finish_self (s : State σ) (id : Nat) (outcome : Outcome) :
    (s.finish id outcome).phase? id = some (.returned outcome) :=
  phase?_move_self s id _

theorem phase?_finish_of_ne {c id : Nat} (h : c ≠ id) (s : State σ) (outcome : Outcome) :
    (s.finish id outcome).phase? c = s.phase? c :=
  phase?_move_of_ne h s _

/-- To let go of the buffer moves nobody. -/
@[simp]
theorem phase?_release (s : State σ) (id c : Nat) : (s.release id).phase? c = s.phase? c := by
  obtain ⟨_, hrelease⟩ := s.exists_release id
  rw [hrelease]
  rfl

/-- A caller that is gone has no phase. -/
@[simp]
theorem phase?_abandon_self (s : State σ) (id : Nat) : (s.abandon id).phase? id = none :=
  Numbered.lookup_erase_self id _

theorem phase?_abandon_of_ne {c id : Nat} (h : c ≠ id) (s : State σ) :
    (s.abandon id).phase? c = s.phase? c :=
  (Numbered.lookup_erase_of_ne h _).trans (phase?_release s id c)

@[simp]
theorem phase?_expire_self (t : Tuning) (s : State σ) (id : Nat) :
    (s.expire t id).phase? id =
      some (.returned (.done (.error (.flushTimeout t.flushTimeout)))) :=
  phase?_finish_self _ id _

theorem phase?_expire_of_ne {c id : Nat} (h : c ≠ id) (t : Tuning) (s : State σ) :
    (s.expire t id).phase? c = s.phase? c :=
  (phase?_finish_of_ne h _ _).trans (phase?_release s id c)

/-! ### What a caller does to the others -/

/-- A step of a flush moves nobody. -/
@[simp]
theorem phase?_flushStep (B : Backend σ) (s : State σ) (party : Party) (c : Nat) :
    (s.flushStep B party).2.phase? c = s.phase? c := by
  obtain ⟨_, _, _, _, hflush⟩ := s.exists_flushStep B party
  rw [hflush]
  rfl

theorem phase?_begin_of_ne {c id : Nat} (h : c ≠ id) (s : State σ) (call : Call) :
    (s.begin id call).phase? c = s.phase? c := by
  cases call with
  | write m received =>
    simp only [begin]
    split
    · exact phase?_move_of_ne h s _
    · exact phase?_finish_of_ne h _ _
  | flush => exact phase?_move_of_ne h s _
  | count => exact phase?_move_of_ne h s _
  | read reader =>
    simp only [begin]
    split
    · split
      · exact phase?_finish_of_ne h _ _
      · exact phase?_move_of_ne h s _
    · exact phase?_finish_of_ne h _ _
    · exact phase?_finish_of_ne h s _
  | wait =>
    simp only [begin]
    split
    · exact phase?_finish_of_ne h s _
    · exact phase?_move_of_ne h s _

theorem phase?_afterPush_of_ne {c id : Nat} (h : c ≠ id) (t : Tuning) (s : State σ) (size : Nat) :
    (s.afterPush t id size).phase? c = s.phase? c := by
  simp only [afterPush]
  split
  · exact phase?_finish_of_ne h _ _
  · split <;> exact phase?_move_of_ne h _ _

theorem phase?_sendQuery_of_ne {c id : Nat} (h : c ≠ id) (B : Backend σ) (s : State σ)
    (reader : Nat) (params : QueryParams) :
    (s.sendQuery B id reader params).phase? c = s.phase? c := by
  unfold sendQuery
  split <;> exact phase?_finish_of_ne h _ _

theorem phase?_proceed_of_ne {c id : Nat} (h : c ≠ id) (B : Backend σ) (t : Tuning) (s : State σ)
    (phase : Phase) : (s.proceed B t id phase).phase? c = s.phase? c := by
  cases phase with
  | pushing p => exact phase?_move_of_ne h _ _
  | pushed size => exact phase?_afterPush_of_ne h t s size
  | requesting deadline => exact phase?_move_of_ne h s _
  | admitted deadline => exact phase?_move_of_ne h _ _
  | awaiting deadline => rfl
  | flushing deadline purpose =>
    -- the flush itself moves nobody, so only what the caller makes of it matters
    rw [← phase?_flushStep B s (.caller id) c]
    simp only [proceed]
    split
    · rfl
    · exact phase?_finish_of_ne h _ _
    · exact phase?_move_of_ne h _ _
  | querying reader =>
    simp only [proceed]
    split
    · exact phase?_sendQuery_of_ne h B s reader _
    · exact phase?_finish_of_ne h s _
  | counting => exact phase?_finish_of_ne h s _
  | waiting => exact phase?_finish_of_ne h s _
  | returned outcome => rfl

/-! ### What a caller does itself -/

/-- A call leads where `Phase.First` says. -/
theorem first_begin (s : State σ) (id : Nat) (call : Call) :
    ∃ phase, (s.begin id call).phase? id = some phase ∧ Phase.First call phase := by
  cases call with
  | write m received =>
    simp only [begin]
    split
    case isTrue hname => exact ⟨_, phase?_move_self s id _, .pushing received hname⟩
    case isFalse hname =>
      exact ⟨_, phase?_finish_self _ id _, .rejected received (Bool.not_eq_true _ ▸ hname)⟩
  | flush => exact ⟨_, phase?_move_self s id _, .flushing⟩
  | count => exact ⟨_, phase?_move_self s id _, .counting⟩
  | read reader =>
    simp only [begin]
    split
    · split
      · exact ⟨_, phase?_finish_self _ id _, .read reader _⟩
      · exact ⟨_, phase?_move_self s id _, .querying reader⟩
    · exact ⟨_, phase?_finish_self _ id _, .read reader _⟩
    · exact ⟨_, phase?_finish_self s id _, .read reader _⟩
  | wait =>
    simp only [begin]
    split
    · exact ⟨_, phase?_finish_self s id _, .waited⟩
    · exact ⟨_, phase?_move_self s id _, .waiting⟩

/-- A producer goes on after its push by the size of the buffer and by whether the flush task
runs. -/
theorem phase?_afterPush_self (t : Tuning) (s : State σ) (id size : Nat) :
    (s.afterPush t id size).phase? id = some
      (if size < t.highWaterMark then .returned (.done (.ok ()))
      else if s.running then .requesting (s.now + t.flushTimeout.nanos)
      else .flushing none .result) := by
  simp only [afterPush]
  split
  · exact phase?_finish_self _ id _
  · split <;> exact phase?_move_self _ id _

theorem next_afterPush (t : Tuning) (s : State σ) (id size : Nat) :
    ∃ phase, (s.afterPush t id size).phase? id = some phase ∧ Phase.Next (.pushed size) phase := by
  refine ⟨_, phase?_afterPush_self t s id size, ?_⟩
  split
  · exact .stored size
  · split
    · exact .requesting size _
    · exact .flushing size

/-- The own next step of a caller leads where `Phase.Next` says. -/
theorem next_proceed {B : Backend σ} {t : Tuning} {s : State σ} {id : Nat} {phase : Phase}
    (hphase : s.phase? id = some phase) (hcan : s.canProceed id phase = true) :
    ∃ after, (s.proceed B t id phase).phase? id = some after ∧ Phase.Next phase after := by
  cases phase with
  | pushing p => exact ⟨_, phase?_move_self _ id _, .pushed p _⟩
  | pushed size => exact next_afterPush t s id size
  | requesting deadline =>
    simp only [proceed]
    split
    · exact ⟨_, phase?_move_self s id _, .admitted deadline⟩
    · exact ⟨_, phase?_move_self s id _, .refused deadline⟩
  | admitted deadline => exact ⟨_, phase?_move_self _ id _, .awaiting deadline⟩
  | awaiting deadline => simp [canProceed] at hcan
  | flushing deadline purpose =>
    simp only [proceed]
    split
    · exact ⟨_, (phase?_flushStep B s _ id).trans hphase, .submitted deadline _⟩
    · exact ⟨_, phase?_finish_self _ id _, .flushed deadline _⟩
    · exact ⟨_, phase?_move_self _ id _, .querying deadline _⟩
  | querying reader =>
    simp only [proceed, sendQuery]
    split
    · split
      · exact ⟨_, phase?_finish_self _ id _, .read reader _⟩
      · exact ⟨_, phase?_finish_self _ id _, .read reader _⟩
    · exact ⟨_, phase?_finish_self s id _, .read reader _⟩
  | counting => exact ⟨_, phase?_finish_self s id _, .counted _⟩
  | waiting => exact ⟨_, phase?_finish_self s id _, .waited⟩
  | returned outcome => simp [canProceed] at hcan

/-- A caller that goes on has a phase that leads where `Phase.Next` says. -/
theorem exists_next_proceed (B : Backend σ) (t : Tuning) {s : State σ} {id : Nat}
    (henabled : s.enabled (.proceed id) = true) :
    ∃ phase after, s.phase? id = some phase ∧ (s.next B t (.proceed id)).phase? id = some after ∧
      Phase.Next phase after := by
  obtain ⟨phase, hphase, hcan⟩ := (Option.any_eq_true _ _).1 henabled
  obtain ⟨after, hafter, hnext⟩ := next_proceed (B := B) (t := t) hphase hcan
  refine ⟨phase, after, hphase, ?_, hnext⟩
  simp only [next, hphase]
  exact hafter

/-! ### What the flush task does to the callers -/

/-- An answer reaches a caller that waits for it, and nobody else. -/
theorem released_acknowledge (s : State σ) (id c : Nat) (result : Except SinkError Unit) :
    Option.Rel Phase.Released (s.phase? c) ((s.acknowledge id result).phase? c) := by
  have hkept : Option.Rel Phase.Released (s.phase? c) (s.phase? c) := by
    cases s.phase? c with
    | none => exact .none
    | some phase => exact .some (.kept phase)
  unfold acknowledge
  split
  case h_1 deadline hphase =>
    by_cases hc : c = id
    · subst hc
      rw [hphase, phase?_finish_self]
      exact .some (.answered deadline result)
    · rw [phase?_finish_of_ne hc]
      exact hkept
  case h_2 => exact hkept

/-- The end of the task tells every caller whose request is left to flush the buffer itself. -/
theorem phase?_endTask (s : State σ) (c : Nat) :
    s.endTask.phase? c = (s.phase? c).map (Phase.afterEnd (c ∈ s.requests)) := by
  -- the phases are changed entry by entry, so the lookup goes through the map
  have hcallers : s.endTask.callers =
      s.callers.map fun e => (e.1, e.2.afterEnd (e.1 ∈ s.requests)) := by
    refine List.map_congr_left fun ⟨id, phase⟩ _ => ?_
    cases phase with
    | awaiting deadline => by_cases h : id ∈ s.requests <;> simp [Phase.afterEnd, h]
    | _ => rfl
  unfold phase?
  rw [hcallers]
  exact Numbered.lookup_map (fun id phase => phase.afterEnd (id ∈ s.requests)) c s.callers

theorem released_endTask (s : State σ) (c : Nat) :
    Option.Rel Phase.Released (s.phase? c) (s.endTask.phase? c) := by
  rw [phase?_endTask]
  cases s.phase? c with
  | none => exact .none
  | some phase => exact .some (Phase.released_afterEnd _ phase)

theorem released_afterTaskFlush (s : State σ) (result : Except SinkError Unit) (cause : Cause)
    (c : Nat) :
    Option.Rel Phase.Released (s.phase? c) ((s.afterTaskFlush result cause).phase? c) := by
  cases cause with
  | tick =>
    change Option.Rel Phase.Released (s.phase? c) (s.phase? c)
    cases s.phase? c with
    | none => exact .none
    | some phase => exact .some (.kept phase)
  | request id => exact released_acknowledge { s with task := .idle } id c result
  | leftover id => exact released_acknowledge { s with task := .closing } id c result
  | final => exact released_endTask s c

/-- Whose action it is not stays in its phase, unless the flush task goes on. -/
theorem phase?_next_of_ne {a : Action} {c : Nat} (B : Backend σ) (t : Tuning) (s : State σ)
    (h : a.caller? ≠ some c) (hwork : a ≠ .work) : (s.next B t a).phase? c = s.phase? c := by
  have hne {id : Nat} (ha : a.caller? = some id) : c ≠ id := by
    rintro rfl
    exact h ha
  cases a with
  | call id call => exact phase?_begin_of_ne (hne rfl) s call
  | proceed id =>
    simp only [next]
    split
    · exact phase?_proceed_of_ne (hne rfl) B t s _
    · rfl
  | expire id => exact phase?_expire_of_ne (hne rfl) t s
  | abandon id => exact phase?_abandon_of_ne (hne rfl) s
  | serve =>
    simp only [next]
    split <;> rfl
  | work => exact absurd rfl hwork
  | openReader | start | stop | leave | tick | pass => rfl

/-- Whose action it is not stays in its phase, unless the flush task releases it. -/
theorem released_next {a : Action} {c : Nat} (B : Backend σ) (t : Tuning) (s : State σ)
    (h : a.caller? ≠ some c) :
    Option.Rel Phase.Released (s.phase? c) ((s.next B t a).phase? c) := by
  have hkept {s' : State σ} (hs' : s'.phase? c = s.phase? c) :
      Option.Rel Phase.Released (s.phase? c) (s'.phase? c) := by
    rw [hs']
    cases s.phase? c with
    | none => exact .none
    | some phase => exact .some (.kept phase)
  by_cases hwork : a = .work
  · subst hwork
    simp only [next, work]
    split
    · split
      case h_1 s' hflush =>
        refine hkept ?_
        rw [← phase?_flushStep B s .task c, hflush]
      case h_2 result s' hflush =>
        rw [← phase?_flushStep B s .task c, hflush]
        exact released_afterTaskFlush s' result _ c
    · split <;> exact hkept rfl
    · exact hkept rfl
  · exact hkept (phase?_next_of_ne B t s h hwork)

/-- Where another's step leaves a caller. -/
theorem exists_released {B : Backend σ} {t : Tuning} {s : State σ} {a : Action} {c : Nat}
    {phase : Phase} (hown : a.caller? ≠ some c) (hphase : s.phase? c = some phase) :
    ∃ after, (s.next B t a).phase? c = some after ∧ phase.Released after := by
  have hreleased := released_next B t s hown
  rw [hphase] at hreleased
  generalize (s.next B t a).phase? c = after? at hreleased ⊢
  cases hreleased with
  | some h => exact ⟨_, rfl, h⟩

/-- Where another's step has found a caller. -/
theorem exists_released_of_next {B : Backend σ} {t : Tuning} {s : State σ} {a : Action} {c : Nat}
    {after : Phase} (hown : a.caller? ≠ some c) (hafter : (s.next B t a).phase? c = some after) :
    ∃ phase, s.phase? c = some phase ∧ phase.Released after := by
  have hreleased := released_next B t s hown
  rw [hafter] at hreleased
  generalize s.phase? c = phase? at hreleased ⊢
  cases hreleased with
  | some h => exact ⟨_, rfl, h⟩

/-- What a caller with a call under way can do by itself: it goes on, gives up when its time is
over, or goes away. -/
inductive Own (s : State σ) (id : Nat) (phase : Phase) : Action → Prop
  | proceed (hcan : s.canProceed id phase = true) : Own s id phase (.proceed id)
  | expire {deadline : Moment} (hdeadline : phase.deadline? = some deadline) :
      Own s id phase (.expire id)
  | abandon : Own s id phase (.abandon id)

/-- A caller with a call under way makes no other call. -/
theorem own_of_phase? {s : State σ} {a : Action} {id : Nat} {phase : Phase}
    (hphase : s.phase? id = some phase) (henabled : s.enabled a = true)
    (hown : a.caller? = some id) : s.Own id phase a := by
  cases a with
  | call c call =>
    cases hown
    simp [enabled, hphase] at henabled
  | proceed c =>
    cases hown
    simp only [enabled, hphase, Option.any_some] at henabled
    exact .proceed henabled
  | expire c =>
    cases hown
    simp only [enabled, hphase, Option.bind_some] at henabled
    obtain ⟨deadline, hdeadline, -⟩ := (Option.any_eq_true _ _).1 henabled
    exact .expire hdeadline
  | abandon c =>
    cases hown
    exact .abandon
  | openReader | start | stop | leave | serve | tick | work | pass => cases hown

/-- Others leave a caller at its flush. -/
theorem phase?_of_flushing {B : Backend σ} {t : Tuning} {s : State σ} {a : Action} {c : Nat}
    {deadline : Option Moment} {purpose : Purpose} (hown : a.caller? ≠ some c)
    (hphase : s.phase? c = some (.flushing deadline purpose)) :
    (s.next B t a).phase? c = some (.flushing deadline purpose) := by
  obtain ⟨after, hafter, hreleased⟩ := exists_released (B := B) (t := t) hown hphase
  cases hreleased with
  | kept => exact hafter

/-- Nobody has a phase before it has made a call. -/
theorem phase?_next_of_none {B : Backend σ} {t : Tuning} {s : State σ} {a : Action} {c : Nat}
    (hphase : s.phase? c = none) (henabled : s.enabled a = true)
    (hcall : ∀ call, a ≠ .call c call) : (s.next B t a).phase? c = none := by
  by_cases hown : a.caller? = some c
  · cases a with
    | call id call =>
      cases hown
      exact absurd rfl (hcall call)
    | proceed id | expire id | abandon id =>
      cases hown
      simp [enabled, hphase] at henabled
    | openReader | start | stop | leave | serve | tick | work | pass => cases hown
  · cases hafter : (s.next B t a).phase? c with
    | none => rfl
    | some after =>
      obtain ⟨phase, hbefore, -⟩ := exists_released_of_next hown hafter
      cases hphase.symm.trans hbefore

/-- A caller that has returned stays where it is until it is gone. -/
theorem phase?_next_of_returned {B : Backend σ} {t : Tuning} {s : State σ} {a : Action} {c : Nat}
    {outcome : Outcome} (hphase : s.phase? c = some (.returned outcome))
    (henabled : s.enabled a = true) (habandon : a ≠ .abandon c) :
    (s.next B t a).phase? c = some (.returned outcome) := by
  by_cases hown : a.caller? = some c
  · cases own_of_phase? hphase henabled hown with
    | proceed hcan => cases hcan
    | expire hdeadline => cases hdeadline
    | abandon => exact absurd rfl habandon
  · obtain ⟨after, hafter, hreleased⟩ := exists_released (B := B) (t := t) hown hphase
    cases hreleased with
    | kept => exact hafter

/-- Only a call makes anybody wait to put a point into the buffer. -/
theorem phase?_of_pushing_next {B : Backend σ} {t : Tuning} {s : State σ} {a : Action} {c : Nat}
    {p : Point} (henabled : s.enabled a = true) (hcall : ∀ call, a ≠ .call c call)
    (hafter : (s.next B t a).phase? c = some (.pushing p)) : s.phase? c = some (.pushing p) := by
  by_cases hown : a.caller? = some c
  · cases a with
    | call id call =>
      cases hown
      exact absurd rfl (hcall call)
    | proceed id =>
      cases hown
      obtain ⟨_, _, _, hafter', hnext⟩ := exists_next_proceed B t henabled
      cases hafter.symm.trans hafter'
      cases hnext
    | expire id =>
      cases hown
      cases (phase?_expire_self t s c).symm.trans hafter
    | abandon id =>
      cases hown
      cases (phase?_abandon_self s c).symm.trans hafter
    | openReader | start | stop | leave | serve | tick | work | pass => cases hown
  · obtain ⟨phase, hphase, hreleased⟩ := exists_released_of_next hown hafter
    cases hreleased with
    | kept => exact hphase

/-! ### What the callers do to the flush task -/

/-- No caller moves the flush task. -/
theorem task_next_of_caller {a : Action} (B : Backend σ) (t : Tuning) (s : State σ)
    (h : a.caller?.isSome) : (s.next B t a).task = s.task := by
  cases a with
  | call id call =>
    obtain ⟨_, _, _, hbegin⟩ := s.exists_begin id call
    simp only [next, hbegin]
  | proceed id =>
    simp only [next]
    split
    · rename_i phase _
      obtain ⟨_, _, _, _, _, _, _, hproceed⟩ := s.exists_proceed B t id phase
      rw [hproceed]
    · rfl
  | expire id =>
    obtain ⟨_, hrelease⟩ := s.exists_release id
    simp only [next, expire, hrelease]
    rfl
  | abandon id =>
    obtain ⟨_, hrelease⟩ := s.exists_release id
    simp only [next, abandon, hrelease]
  | openReader | start | stop | leave | serve | tick | work | pass => cases h

/-- While the flush task flushes, only its own step moves it. -/
theorem task_next_of_flushing {B : Backend σ} {t : Tuning} {s : State σ} {a : Action}
    {cause : Cause} (htask : s.task = .flushing cause) (henabled : s.enabled a = true)
    (hwork : a ≠ .work) : (s.next B t a).task = .flushing cause := by
  cases a with
  | call | proceed | expire | abandon => rw [task_next_of_caller B t s rfl, htask]
  | openReader | stop | pass => exact htask
  | start | leave | serve | tick => simp [enabled, htask] at henabled
  | work => exact absurd rfl hwork

end State

end SyslogCollector.Store.Writer
