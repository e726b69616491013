import SyslogCollector.Proofs.Writer.Phase
/-!
# The way of the points through a writer

Points go from the buffer into a batch that is under way and from there to the store. `Flow` lists
all that a step can do to them, each with its guard, and `flow_next` shows that the list is
complete: invariants about points go by its cases and need not open the steps again.

The party that a batch is under way for stays the one whose turn it is until the store has answered
(`Held`).
-/

namespace SyslogCollector.Store.Writer

/-- The counters that concern points and batches; the others are set to 0. -/
def Metrics.tally (m : Metrics) : Metrics :=
  { m with forcedFlushes := 0, flushTimeouts := 0, rejected := 0 }

theorem Metrics.tally_countBatch (m : Metrics) (points : Nat) (result : Except SinkError Unit) :
    (m.countBatch points result).tally = m.tally.countBatch points result := by
  cases result <;> rfl

/-- The part of a writer that points go through. -/
structure Pipe (σ : Type) where
  /-- The store. -/
  store : σ
  /-- The points that wait for the next flush. -/
  buffer : Array Point
  /-- The batch that the store has not answered yet. -/
  flight : Option Flight
  /-- The counters of points and batches. -/
  tally : Metrics

/-- Whether an action can be a step on the way of a point. -/
def Action.handlesPoints : Action → Bool
  | .proceed _ | .expire _ | .abandon _ | .work => true
  | _ => false

/-- Whether the next step of a caller in this phase can be a step on the way of a point. -/
def Phase.handlesPoints : Phase → Bool
  | .pushing _ | .pushed _ | .flushing .. => true
  | _ => false

namespace State

variable {σ : Type}

/-- The part of the writer that points go through. -/
def pipe (s : State σ) : Pipe σ :=
  ⟨s.store, s.buffer, s.flight, s.metrics.tally⟩

/-- By this action the party goes on with its flush. -/
inductive Turn (s : State σ) : Action → Party → Prop
  | task {cause : Cause} (htask : s.task = .flushing cause) : Turn s .work .task
  | caller {id : Nat} {deadline : Option Moment} {purpose : Purpose}
      (hphase : s.phase? id = some (.flushing deadline purpose)) :
      Turn s (.proceed id) (.caller id)

/-- A caller whose turn it is flushes. -/
theorem Turn.exists_phase? {s : State σ} {id : Nat} {party : Party}
    (h : s.Turn (.proceed id) party) :
    ∃ deadline purpose, s.phase? id = some (.flushing deadline purpose) := by
  cases h with
  | caller hphase => exact ⟨_, _, hphase⟩

/-- The action is no step on the way of a point: no producer pushes or counts, no flush has a batch
under way that goes on, and nobody who holds the buffer leaves. -/
structure Quiet (s : State σ) (a : Action) : Prop where
  push : ∀ id p, a = .proceed id → s.phase? id ≠ some (.pushing p)
  count : ∀ id size, a = .proceed id → s.phase? id ≠ some (.pushed size)
  turn : ∀ party, s.Turn a party → s.flight = none
  leave : ∀ id f, a = .expire id ∨ a = .abandon id → s.flight = some f → f.holder ≠ .caller id

/-- What a step can do to the points of a writer. -/
inductive Flow (B : Backend σ) (s : State σ) : Action → State σ → Prop
  /-- Nothing. -/
  | kept {a : Action} {s' : State σ} (hquiet : s.Quiet a) (hpipe : s'.pipe = s.pipe) :
      Flow B s a s'
  /-- A producer puts its point into the free buffer. -/
  | pushed {id : Nat} {p : Point} {s' : State σ} (hphase : s.phase? id = some (.pushing p))
      (hfree : s.flight = none) (hpipe : s'.pipe = { s.pipe with buffer := s.buffer.push p }) :
      Flow B s (.proceed id) s'
  /-- A producer counts its point. -/
  | counted {id size : Nat} {s' : State σ} (hphase : s.phase? id = some (.pushed size))
      (hpipe : s'.pipe =
        { s.pipe with tally := { s.pipe.tally with buffered := s.pipe.tally.buffered + 1 } }) :
      Flow B s (.proceed id) s'
  /-- A flush hands the points of the free buffer to the store. -/
  | submitted {a : Action} {party : Party} (hturn : s.Turn a party) (hfree : s.flight = none)
      (hne : s.buffer.isEmpty = false) : Flow B s a (s.submit B party)
  /-- The store answers the batch under way. -/
  | answered {a : Action} {s' : State σ} {f : Flight} {result : Except SinkError Unit}
      (hturn : s.Turn a f.holder) (hflight : s.flight = some f)
      (hresult : f.answer.result? = some result)
      (hpipe : s'.pipe = { s.pipe with
        flight := none, tally := s.pipe.tally.countBatch f.batch.length result }) :
      Flow B s a s'
  /-- The caller that holds the buffer leaves before the store has answered. -/
  | cut {a : Action} {s' : State σ} {id : Nat} {f : Flight}
      (hleave : a = .expire id ∨ a = .abandon id) (hflight : s.flight = some f)
      (hholder : f.holder = .caller id) (hpipe : s'.pipe = { s.pipe with flight := none }) :
      Flow B s a s'
  /-- The query of a reader reaches the store. -/
  | queried {id reader : Nat} {s' : State σ} (q : SeriesQuery)
      (hphase : s.phase? id = some (.querying reader))
      (hpipe : s'.pipe = { s.pipe with store := (B.query s.store q).2 }) :
      Flow B s (.proceed id) s'

/-! ### The parts of a step -/

theorem pipe_begin (s : State σ) (id : Nat) (call : Call) : (s.begin id call).pipe = s.pipe := by
  cases call with
  | write m received =>
    simp only [begin]
    split <;> rfl
  | flush => rfl
  | count => rfl
  | read reader =>
    simp only [begin]
    split
    · split <;> rfl
    · rfl
    · rfl
  | wait =>
    simp only [begin]
    split <;> rfl

theorem pipe_afterPush (t : Tuning) (s : State σ) (id size : Nat) :
    (s.afterPush t id size).pipe =
      { s.pipe with tally := { s.pipe.tally with buffered := s.pipe.tally.buffered + 1 } } := by
  simp only [afterPush]
  split
  · rfl
  · split <;> rfl

theorem pipe_acknowledge (s : State σ) (id : Nat) (result : Except SinkError Unit) :
    (s.acknowledge id result).pipe = s.pipe := by
  unfold acknowledge
  split <;> rfl

theorem pipe_afterTaskFlush (s : State σ) (result : Except SinkError Unit) (cause : Cause) :
    (s.afterTaskFlush result cause).pipe = s.pipe := by
  cases cause with
  | tick => rfl
  | request id => exact pipe_acknowledge _ id result
  | leftover id => exact pipe_acknowledge _ id result
  | final => rfl

/-- Who does not hold the buffer lets nothing go. -/
theorem pipe_release_of_ne {s : State σ} {id : Nat}
    (h : ∀ f, s.flight = some f → f.holder ≠ .caller id) : (s.release id).pipe = s.pipe := by
  unfold release
  split
  case h_1 f hf => rw [if_neg (h f hf)]
  case h_2 => rfl

/-- Who holds the buffer lets it go, and the batch is lost sight of. -/
theorem pipe_release_of_eq {s : State σ} {id : Nat} {f : Flight} (hflight : s.flight = some f)
    (hholder : f.holder = .caller id) : (s.release id).pipe = { s.pipe with flight := none } := by
  unfold release
  rw [hflight]
  simp only [hholder, if_true]
  rfl

theorem pipe_expire (t : Tuning) (s : State σ) (id : Nat) :
    (s.expire t id).pipe = (s.release id).pipe := rfl

theorem pipe_abandon (s : State σ) (id : Nat) : (s.abandon id).pipe = (s.release id).pipe := rfl

/-- A leaving caller either holds the buffer or changes nothing. -/
theorem flow_of_release {B : Backend σ} {s s' : State σ} {a : Action} {id : Nat}
    (hleave : a = .expire id ∨ a = .abandon id) (hpipe : s'.pipe = (s.release id).pipe) :
    Flow B s a s' := by
  have hproceed : ∀ c, a ≠ .proceed c := by
    rcases hleave with rfl | rfl <;> intro c <;> exact Action.noConfusion
  -- the batch of the caller, if one is under way, goes out of sight with it
  by_cases h : ∃ f, s.flight = some f ∧ f.holder = .caller id
  · obtain ⟨f, hflight, hholder⟩ := h
    exact .cut hleave hflight hholder (hpipe.trans (pipe_release_of_eq hflight hholder))
  · have hother : ∀ f, s.flight = some f → f.holder ≠ .caller id :=
      fun f hflight hholder => h ⟨f, hflight, hholder⟩
    refine .kept ⟨fun c _ ha => absurd ha (hproceed c), fun c _ ha => absurd ha (hproceed c),
      ?_, ?_⟩ (hpipe.trans (pipe_release_of_ne hother))
    · intro party hturn
      cases hturn with
      | task => rcases hleave with h | h <;> cases h
      | caller => rcases hleave with h | h <;> cases h
    · intro c f hc hflight
      have hid : c = id := by
        rcases hleave with rfl | rfl <;> rcases hc with hc | hc <;> cases hc <;> rfl
      exact hid ▸ hother f hflight

/-! ### A step of a flush -/

/-- A flush that can go on finds nothing to do, hands over a batch, or has its answer. -/
inductive FlushStep (B : Backend σ) (s : State σ) (party : Party) :
    Option (Except SinkError Unit) → State σ → Prop
  | nothing (hfree : s.flight = none) (hempty : s.buffer = #[]) :
      FlushStep B s party (some (.ok ())) s
  | submitted (hfree : s.flight = none) (hne : s.buffer.isEmpty = false) :
      FlushStep B s party none (s.submit B party)
  | answered {f : Flight} {result : Except SinkError Unit} (hflight : s.flight = some f)
      (hholder : f.holder = party) (hresult : f.answer.result? = some result) :
      FlushStep B s party (some result)
        { s with flight := none, metrics := s.metrics.countBatch f.batch.length result }

theorem flushStep_of_canFlush {B : Backend σ} {s : State σ} {party : Party}
    (h : s.canFlush party = true) :
    FlushStep B s party (s.flushStep B party).1 (s.flushStep B party).2 := by
  unfold flushStep
  cases hflight : s.flight with
  | none =>
    cases hempty : s.buffer.isEmpty with
    | true => exact .nothing hflight (Array.isEmpty_iff.1 hempty)
    | false => exact .submitted hflight hempty
  | some f =>
    simp only [canFlush, hflight, Bool.and_eq_true, decide_eq_true_eq, bne_iff_ne] at h
    obtain ⟨hholder, hanswer⟩ := h
    obtain ⟨result, hresult⟩ := Answer.exists_result?_iff.2 hanswer
    simp only [hresult]
    exact .answered hflight hholder hresult

/-- What a step of a flush does to the points, whatever the party does with the result. -/
theorem flow_of_flushStep {B : Backend σ} {s s₁ s' : State σ} {a : Action} {party : Party}
    {result : Except SinkError Unit} (hturn : s.Turn a party)
    (hflush : FlushStep B s party (some result) s₁) (hpipe : s'.pipe = s₁.pipe) :
    Flow B s a s' := by
  cases hflush with
  | nothing hfree _ =>
    refine .kept ⟨?_, ?_, fun _ _ => hfree, ?_⟩ hpipe
    · rintro id p rfl
      cases hturn with
      | caller hphase => simp [hphase]
    · rintro id size rfl
      cases hturn with
      | caller hphase => simp [hphase]
    · intro id f _ hflight
      simp [hfree] at hflight
  | answered hflight hholder hresult =>
    refine .answered (hholder ▸ hturn) hflight hresult (hpipe.trans ?_)
    exact congrArg (Pipe.mk _ _ _) (Metrics.tally_countBatch ..)

/-! ### A whole step -/

theorem Quiet.of_handlesPoints {s : State σ} {a : Action} (h : a.handlesPoints = false) :
    s.Quiet a where
  push _ _ ha := by
    subst ha
    cases h
  count _ _ ha := by
    subst ha
    cases h
  turn _ hturn := by cases hturn <;> cases h
  leave _ _ ha := by rcases ha with rfl | rfl <;> cases h

theorem Quiet.proceed {s : State σ} {id : Nat} {phase : Phase} (hphase : s.phase? id = some phase)
    (h : phase.handlesPoints = false) : s.Quiet (.proceed id) where
  push c p ha hp := by
    cases ha
    cases hphase.symm.trans hp
    cases h
  count c size ha hp := by
    cases ha
    cases hphase.symm.trans hp
    cases h
  turn _ hturn := by
    cases hturn with
    | caller hp =>
      cases hphase.symm.trans hp
      cases h
  leave c _ ha := by rcases ha with ha | ha <;> cases ha

theorem Quiet.work {s : State σ} (h : ∀ cause, s.task ≠ .flushing cause) : s.Quiet .work where
  push _ _ ha := by cases ha
  count _ _ ha := by cases ha
  turn _ hturn := by
    cases hturn with
    | task htask => exact absurd htask (h _)
  leave _ _ ha := by rcases ha with ha | ha <;> cases ha

theorem flow_proceed {B : Backend σ} {t : Tuning} {s : State σ} {id : Nat} {phase : Phase}
    (hphase : s.phase? id = some phase) (hcan : s.canProceed id phase = true) :
    Flow B s (.proceed id) (s.proceed B t id phase) := by
  cases phase with
  | pushing p => exact .pushed hphase (by simpa [canProceed, isFree] using hcan) rfl
  | pushed size => exact .counted hphase (pipe_afterPush t s id size)
  | flushing deadline purpose =>
    have hflush := flushStep_of_canFlush (B := B) hcan
    have hturn : s.Turn (.proceed id) (.caller id) := .caller hphase
    simp only [proceed]
    split
    case h_1 hnone =>
      rw [hnone] at hflush
      generalize (s.flushStep B (.caller id)).2 = s' at hflush ⊢
      cases hflush with
      | submitted hfree hne => exact .submitted hturn hfree hne
    case h_2 result hsome =>
      rw [hsome] at hflush
      exact flow_of_flushStep hturn hflush rfl
    case h_3 result reader hsome =>
      rw [hsome] at hflush
      exact flow_of_flushStep hturn hflush rfl
  | querying reader =>
    simp only [proceed]
    split
    · rename_i params _
      unfold sendQuery
      split
      · exact .kept (.proceed hphase rfl) rfl
      · exact .queried _ hphase rfl
    · exact .kept (.proceed hphase rfl) rfl
  | requesting | admitted | awaiting | counting | waiting | returned =>
    exact .kept (.proceed hphase rfl) rfl

theorem flow_work {B : Backend σ} {s : State σ} (hcan : s.canWork = true) :
    Flow B s .work (s.work B) := by
  cases htask : s.task with
  | flushing cause =>
    simp only [canWork, htask] at hcan
    have hflush := flushStep_of_canFlush (B := B) hcan
    have hturn : s.Turn .work .task := .task htask
    simp only [State.work, htask]
    split
    case h_1 s' heq =>
      rw [heq] at hflush
      cases hflush with
      | submitted hfree hne => exact .submitted hturn hfree hne
    case h_2 result s' heq =>
      rw [heq] at hflush
      exact flow_of_flushStep hturn hflush (pipe_afterTaskFlush s' result cause)
  | closing =>
    simp only [State.work, htask]
    split <;> exact .kept (.work (by simp [htask])) rfl
  | absent | idle | ended => simp [canWork, htask] at hcan

/-- The list of `Flow` is complete: it holds all that a possible step does to the points. -/
theorem flow_next {B : Backend σ} {t : Tuning} {s : State σ} {a : Action}
    (h : s.enabled a = true) : Flow B s a (s.next B t a) := by
  cases a with
  | call id call => exact .kept (.of_handlesPoints rfl) (pipe_begin s id call)
  | proceed id =>
    obtain ⟨phase, hphase, hcan⟩ := (Option.any_eq_true _ _).1 h
    simp only [next, hphase]
    exact flow_proceed hphase hcan
  | expire id => exact flow_of_release (.inl rfl) (pipe_expire t s id)
  | abandon id => exact flow_of_release (.inr rfl) (pipe_abandon s id)
  | work => exact flow_work h
  | serve =>
    refine .kept (.of_handlesPoints rfl) ?_
    simp only [next]
    split <;> rfl
  | openReader | start | stop | leave | tick | pass =>
    exact .kept (.of_handlesPoints rfl) rfl

/-! ### Who holds the buffer -/

/-- The batch under way has a party that is at its flush. -/
def Held (s : State σ) : Prop :=
  ∀ f, s.flight = some f → ∃ a, s.Turn a f.holder

/-- A flush that is not moved on, and whose caller does not leave, is still at its turn after any
step of the others. -/
theorem Turn.next {B : Backend σ} {t : Tuning} {s : State σ} {a b : Action} {party : Party}
    (hturn : s.Turn b party) (henabled : s.enabled a = true) (hother : ¬ s.Turn a party)
    (hleave : ∀ id, party = .caller id → a ≠ .expire id ∧ a ≠ .abandon id) :
    (s.next B t a).Turn b party := by
  cases hturn with
  | task htask =>
    have hwork : a ≠ .work := by
      rintro rfl
      exact hother (.task htask)
    exact .task (task_next_of_flushing htask henabled hwork)
  | @caller id deadline purpose hphase =>
    -- the own actions of the caller are excluded one by one
    have hown : a.caller? ≠ some id := by
      intro hid
      obtain ⟨hexpire, habandon⟩ := hleave id rfl
      cases own_of_phase? hphase henabled hid with
      | proceed => exact hother (.caller hphase)
      | expire => exact hexpire rfl
      | abandon => exact habandon rfl
    exact .caller (phase?_of_flushing hown hphase)

/-- The party whose batch was answered can go on. -/
theorem Turn.enabled {s : State σ} {a : Action} {f : Flight} (hturn : s.Turn a f.holder)
    (hflight : s.flight = some f) (hanswer : f.answer ≠ .never) : s.enabled a = true := by
  have hcan : s.canFlush f.holder = true := by simp [canFlush, hflight, hanswer]
  generalize f.holder = party at hturn hcan
  cases hturn with
  | task htask => simpa [State.enabled, canWork, htask] using hcan
  | caller hphase => simpa [State.enabled, hphase, canProceed] using hcan

/-- It then lets the buffer go. -/
theorem Turn.flight_next {B : Backend σ} {t : Tuning} {s : State σ} {a : Action} {f : Flight}
    (hturn : s.Turn a f.holder) (henabled : s.enabled a = true) (hflight : s.flight = some f) :
    (s.next B t a).flight = none := by
  have hflow := flow_next (B := B) (t := t) henabled
  generalize s.next B t a = s' at hflow ⊢
  cases hflow with
  | kept hquiet => cases (hquiet.turn _ hturn).symm.trans hflight
  | pushed _ hfree => cases hfree.symm.trans hflight
  | counted hphase | queried _ hphase =>
    obtain ⟨_, _, hflushing⟩ := hturn.exists_phase?
    cases hphase.symm.trans hflushing
  | submitted _ hfree => cases hfree.symm.trans hflight
  | answered _ _ _ hpipe => exact congrArg Pipe.flight hpipe
  | cut _ _ _ hpipe => exact congrArg Pipe.flight hpipe

/-- A batch stays under way until its party goes on, or its caller leaves. -/
theorem flight_next_of_not_turn {B : Backend σ} {t : Tuning} {s : State σ} {a : Action} {f : Flight}
    (hflight : s.flight = some f) (henabled : s.enabled a = true) (hturn : ¬ s.Turn a f.holder)
    (hleave : ∀ id, f.holder = .caller id → a ≠ .expire id ∧ a ≠ .abandon id) :
    (s.next B t a).flight = some f := by
  have hflow := flow_next (B := B) (t := t) henabled
  generalize s.next B t a = s' at hflow ⊢
  cases hflow with
  | kept _ hpipe | counted _ hpipe | queried _ _ hpipe =>
    rw [← hflight]
    exact congrArg Pipe.flight hpipe
  | pushed _ hfree | submitted _ hfree => cases hfree.symm.trans hflight
  | answered hown hflight' =>
    cases hflight.symm.trans hflight'
    exact absurd hown hturn
  | cut hgone hflight' hholder =>
    cases hflight.symm.trans hflight'
    obtain ⟨hexpire, habandon⟩ := hleave _ hholder
    rcases hgone with rfl | rfl
    · exact absurd rfl hexpire
    · exact absurd rfl habandon

theorem Held.next {B : Backend σ} {t : Tuning} {s : State σ} {a : Action} (h : s.Held)
    (henabled : s.enabled a = true) : (State.next B t s a).Held := by
  intro f hf
  have hflow := flow_next (B := B) (t := t) henabled
  -- a batch that was under way before stays with its party
  have hstays (hflight : s.flight = some f) (hother : ∀ party, s.Turn a party → f.holder ≠ party)
      (hleave : ∀ id, f.holder = .caller id → a ≠ .expire id ∧ a ≠ .abandon id) :
      ∃ b, (s.next B t a).Turn b f.holder := by
    obtain ⟨b, hb⟩ := h f hflight
    exact ⟨b, hb.next henabled (fun ha => hother _ ha rfl) hleave⟩
  generalize hnext : s.next B t a = s' at hflow hf ⊢
  -- a step either leaves the batch under way or ends it, except for the one that hands it over
  cases hflow with
  | kept hquiet hpipe =>
    have hflight : s.flight = some f := (congrArg Pipe.flight hpipe).symm.trans hf
    rw [← hnext]
    refine hstays hflight (fun party hturn => ?_) (fun id hid => ⟨?_, ?_⟩)
    · simp [hquiet.turn party hturn] at hflight
    · rintro rfl
      exact hquiet.leave id f (.inl rfl) hflight hid
    · rintro rfl
      exact hquiet.leave id f (.inr rfl) hflight hid
  | pushed hphase hfree hpipe =>
    have hflight : s.flight = some f := (congrArg Pipe.flight hpipe).symm.trans hf
    simp [hfree] at hflight
  | counted hphase hpipe =>
    have hflight : s.flight = some f := (congrArg Pipe.flight hpipe).symm.trans hf
    rw [← hnext]
    refine hstays hflight (fun party hturn => ?_)
      (fun _ _ => ⟨Action.noConfusion, Action.noConfusion⟩)
    cases hturn with
    | caller h => simp [hphase] at h
  | submitted hturn hfree hne =>
    cases hf
    cases hturn with
    | task htask => exact ⟨_, .task htask⟩
    | caller hphase => exact ⟨_, .caller hphase⟩
  | answered hturn hflight hresult hpipe =>
    have : s'.flight = none := congrArg Pipe.flight hpipe
    simp [this] at hf
  | cut hleave hflight hholder hpipe =>
    have : s'.flight = none := congrArg Pipe.flight hpipe
    simp [this] at hf
  | queried q hphase hpipe =>
    have hflight : s.flight = some f := (congrArg Pipe.flight hpipe).symm.trans hf
    rw [← hnext]
    refine hstays hflight (fun party hturn => ?_)
      (fun _ _ => ⟨Action.noConfusion, Action.noConfusion⟩)
    cases hturn with
    | caller h => simp [hphase] at h

/-- In a run from a new writer, a batch under way has a party that is at its flush. -/
theorem Reachable.held {B : Backend σ} {t : Tuning} {store : σ} {s : State σ}
    (h : Reachable B t { store } s) : s.Held := by
  induction h with
  | refl => exact nofun
  | step _ hstep ih =>
    obtain ⟨henabled, rfl⟩ := hstep
    exact ih.next henabled

/-- While a batch is under way, the buffer is empty. -/
def Cleared (s : State σ) : Prop :=
  s.flight ≠ none → s.buffer = #[]

theorem Cleared.next {B : Backend σ} {t : Tuning} {s : State σ} {a : Action} (h : s.Cleared)
    (henabled : s.enabled a = true) : (State.next B t s a).Cleared := by
  intro hflight
  have hflow := flow_next (B := B) (t := t) henabled
  generalize s.next B t a = s' at hflow hflight ⊢
  cases hflow with
  | kept _ hpipe | counted _ hpipe | queried _ _ hpipe =>
    have hsame : s'.flight = s.flight := congrArg Pipe.flight hpipe
    exact (congrArg Pipe.buffer hpipe).trans (h (hsame ▸ hflight))
  | pushed _ hfree hpipe => exact absurd ((congrArg Pipe.flight hpipe).trans hfree) hflight
  | submitted => rfl
  | answered _ _ _ hpipe | cut _ _ _ hpipe => exact absurd (congrArg Pipe.flight hpipe) hflight

theorem Reachable.cleared {B : Backend σ} {t : Tuning} {store : σ} {s : State σ}
    (h : Reachable B t { store } s) : s.Cleared := by
  induction h with
  | refl => exact fun hflight => absurd rfl hflight
  | step _ hstep ih =>
    obtain ⟨henabled, rfl⟩ := hstep
    exact ih.next henabled

end State

end SyslogCollector.Store.Writer
