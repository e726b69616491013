import SyslogCollector.Proofs.Writer.Batches
/-!
# What the callers were told of their points

A run keeps a docket: the rank of every point, and for whom each batch was handed over. A batch is
handed over for the caller that flushes, or for the one that waits for the answer to the request
that the flush task serves (`State.Serves`). `Told` says where a caller can stand that put a point
into the buffer: as long as it waits for a flush no batch with its point was handed over for it,
except the one under way; once it has returned, it was told what became of such a batch.
-/

namespace SyslogCollector.Store.Writer

/-- The caller whose request is served. -/
def Cause.caller? : Cause → Option Nat
  | .request id | .leftover id => some id
  | .tick | .final => none

/-- Whether a caller waits for the answer to its request. -/
def Phase.isAwaiting : Phase → Bool
  | .awaiting _ => true
  | _ => false

/-- The phases of a caller that waits for a forced flush. -/
inductive Phase.Waits : Phase → Prop
  | requesting (deadline : Moment) : Waits (.requesting deadline)
  | admitted (deadline : Moment) : Waits (.admitted deadline)
  | awaiting (deadline : Moment) : Waits (.awaiting deadline)
  | flushing (deadline : Option Moment) : Waits (.flushing deadline .result)

namespace State

variable {σ : Type}

/-- The caller that the batch under way was handed over for: the one that flushes, or the one that
waits for the answer to the request that the flush task serves. -/
def beneficiary? (s : State σ) : Option Nat :=
  match s.flight, s.task with
  | some ⟨.caller id, _, _⟩, _ => some id
  | some ⟨.task, _, _⟩, .flushing cause =>
    cause.caller?.filter fun id => (s.phase? id).any Phase.isAwaiting
  | _, _ => none

/-- The batch under way was handed over for a caller. -/
inductive Serves (s : State σ) (id : Nat) : Prop
  | own {f : Flight} (hflight : s.flight = some f) (hholder : f.holder = .caller id)
  | request {f : Flight} {cause : Cause} {deadline : Moment} (hflight : s.flight = some f)
      (hholder : f.holder = .task) (htask : s.task = .flushing cause)
      (hcause : cause.caller? = some id) (hphase : s.phase? id = some (.awaiting deadline))

theorem Serves.exists_flight {s : State σ} {id : Nat} (h : s.Serves id) :
    ∃ f, s.flight = some f := by
  cases h with
  | own hflight | request hflight => exact ⟨_, hflight⟩

theorem beneficiary?_eq_some_iff {s : State σ} {id : Nat} :
    s.beneficiary? = some id ↔ s.Serves id := by
  constructor
  · intro h
    unfold beneficiary? at h
    split at h
    case h_1 c batch answer _ hflight =>
      cases h
      exact .own hflight rfl
    case h_2 batch answer cause hflight htask =>
      obtain ⟨hcause, hawaits⟩ := Option.filter_eq_some_iff.1 h
      obtain ⟨phase, hphase, hphaseawaits⟩ := (Option.any_eq_true _ _).1 hawaits
      cases phase with
      | awaiting deadline => exact .request hflight rfl htask hcause hphase
      | _ => cases hphaseawaits
    case h_3 => cases h
  · intro h
    cases h with
    | @own f hflight hholder =>
      obtain ⟨holder, batch, answer⟩ := f
      cases hholder
      simp [beneficiary?, hflight]
    | @request f cause deadline hflight hholder htask hcause hphase =>
      obtain ⟨holder, batch, answer⟩ := f
      cases hholder
      simp [beneficiary?, hflight, htask, hcause, hphase, Phase.isAwaiting]

/-- When the party of the batch under way can go on, the store has answered. -/
theorem Turn.exists_result {s : State σ} {a : Action} {f : Flight} (hturn : s.Turn a f.holder)
    (hflight : s.flight = some f) (henabled : s.enabled a = true) :
    ∃ result, f.answer.result? = some result := by
  have hcan : s.canFlush f.holder = true := by
    generalize f.holder = party at hturn
    cases hturn with
    | task htask => simpa [State.enabled, canWork, htask] using henabled
    | caller hphase => simpa [State.enabled, hphase, canProceed] using henabled
  simp only [canFlush, hflight, decide_true, Bool.true_and, bne_iff_ne] at hcan
  exact Answer.exists_result?_iff.2 hcan

/-- A caller whose own batch is answered returns. -/
theorem phase?_next_of_own_answer {B : Backend σ} {t : Tuning} {s : State σ} {f : Flight} {id : Nat}
    {deadline : Option Moment} {result : Except SinkError Unit} (hflight : s.flight = some f)
    (hresult : f.answer.result? = some result)
    (hphase : s.phase? id = some (.flushing deadline .result)) :
    (s.next B t (.proceed id)).phase? id = some (.returned (.done result)) := by
  simp only [next, hphase, proceed, flushStep, hflight, hresult]
  exact phase?_finish_self _ id _

/-- A caller whose request is answered returns. -/
theorem phase?_next_of_request_answer {B : Backend σ} {t : Tuning} {s : State σ} {f : Flight}
    {cause : Cause} {id : Nat} {deadline : Moment} {result : Except SinkError Unit}
    (hflight : s.flight = some f) (hresult : f.answer.result? = some result)
    (htask : s.task = .flushing cause) (hcause : cause.caller? = some id)
    (hphase : s.phase? id = some (.awaiting deadline)) :
    (s.next B t .work).phase? id = some (.returned (.done result)) := by
  simp only [next, work, htask, flushStep, hflight, hresult]
  have hacknowledge (s' : State σ) (hs' : s'.callers = s.callers) :
      (s'.acknowledge id result).phase? id = some (.returned (.done result)) := by
    have hawaits : s'.phase? id = some (.awaiting deadline) := by rw [phase?, hs', ← phase?, hphase]
    simp only [acknowledge, hawaits]
    exact phase?_finish_self _ id _
  cases cause with
  | request c | leftover c =>
    cases hcause
    exact hacknowledge _ rfl
  | tick | final => cases hcause

/-- The batch under way stays the one for a caller as long as this caller waits. -/
theorem Serves.next {B : Backend σ} {t : Tuning} {s : State σ} {a : Action} {id : Nat}
    {phase after : Phase} (h : s.Serves id) (henabled : s.enabled a = true)
    (hphase : s.phase? id = some phase) (hwaits : phase.Waits)
    (hafter : (s.next B t a).phase? id = some after) (hstill : after.Waits) :
    (s.next B t a).Serves id := by
  -- who gives up or goes away waits no longer
  have hexpire : a ≠ .expire id := by
    rintro rfl
    cases (phase?_expire_self t s id).symm.trans hafter
    cases hstill
  have habandon : a ≠ .abandon id := by
    rintro rfl
    cases (phase?_abandon_self s id).symm.trans hafter
  cases h with
  | @own f hflight hholder =>
    refine .own (flight_next_of_not_turn hflight henabled ?_ ?_) hholder
    · -- at the end of its own flush the caller would return
      intro hturn
      obtain ⟨result, hresult⟩ := hturn.exists_result hflight henabled
      rw [hholder] at hturn
      cases hturn with
      | caller hflushing =>
        cases hphase.symm.trans hflushing
        cases hwaits
        rw [phase?_next_of_own_answer hflight hresult hflushing] at hafter
        cases hafter
        cases hstill
    · intro c hc
      cases hholder.symm.trans hc
      exact ⟨hexpire, habandon⟩
  | @request f cause deadline hflight hholder htask hcause hawaits =>
    -- at the end of the flush of the task the caller would return
    have hwork : a ≠ .work := by
      rintro rfl
      obtain ⟨result, hresult⟩ := Turn.exists_result (hholder ▸ .task htask) hflight henabled
      rw [phase?_next_of_request_answer hflight hresult htask hcause hawaits] at hafter
      cases hafter
      cases hstill
    -- and before that it can do nothing
    have hown : a.caller? ≠ some id := by
      intro hid
      cases own_of_phase? hawaits henabled hid with
      | proceed hcan => cases hcan
      | expire => exact hexpire rfl
      | abandon => exact habandon rfl
    have hturn : ¬ s.Turn a f.holder := by
      rw [hholder]
      rintro ⟨⟩
      exact hwork rfl
    exact .request (flight_next_of_not_turn hflight henabled hturn (by simp [hholder])) hholder
      (task_next_of_flushing htask henabled hwork) hcause
      ((phase?_next_of_ne B t s hown hwork).trans hawaits)

end State

/-- A point that a caller put into the buffer. -/
structure Entry where
  /-- The point. -/
  point : Point
  /-- How many points came into the buffer before it. -/
  rank : Nat
  /-- How many points the buffer had then, with this one. -/
  size : Nat
  deriving Repr

/-- What a run has noted of the points and the batches. -/
structure Docket where
  /-- What each caller put into the buffer. -/
  entries : List (Nat × Entry) := []
  /-- The callers that the batches were handed over for, if they were for one. -/
  owners : List (Option Nat) := []

/-- The docket after a step. -/
def Docket.record {σ : Type} (d : Docket) (s : State (σ × Journal)) (a : Action)
    (s' : State (σ × Journal)) : Docket where
  entries := match a with
    | .call id _ | .abandon id => Numbered.erase id d.entries
    | .proceed id =>
      match s.phase? id with
      | some (.pushing p) =>
        Numbered.assign id ⟨p, s.history.length, s.buffer.size + 1⟩ d.entries
      | _ => d.entries
    | _ => d.entries
  owners := d.owners ++ (s'.store.2.drop s.store.2.length).map fun _ => s'.beneficiary?

/-- A run from a new writer, with its docket. -/
inductive DocketRun {σ : Type} (B : Backend σ) (t : Tuning) (store : σ) :
    Docket → State (σ × Journal) → Prop
  /-- A run of no steps. -/
  | refl : DocketRun B t store {} { store := (store, []) }
  /-- One step more. -/
  | step {d : Docket} {s s' : State (σ × Journal)} {a : Action} :
      DocketRun B t store d s → s.Step B.journaled t a s' →
        DocketRun B t store (d.record s a s') s'

section

variable {σ : Type} {B : Backend σ} {t : Tuning} {store : σ}

/-- Carries out a list of actions, if all of them are possible in their turn. -/
def DocketRun.play (B : Backend σ) (t : Tuning) :
    List Action → Docket → State (σ × Journal) → Option (Docket × State (σ × Journal))
  | [], d, s => some (d, s)
  | a :: rest, d, s =>
    let s' := s.next B.journaled t a
    if s.enabled a then play B t rest (d.record s a s') s' else none

/-- What is carried out after a run is a run. -/
theorem DocketRun.of_play {actions : List Action} {d d' : Docket} {s s' : State (σ × Journal)}
    (h : DocketRun B t store d s) (hplay : play B t actions d s = some (d', s')) :
    DocketRun B t store d' s' := by
  induction actions generalizing d s with
  | nil =>
    cases hplay
    exact h
  | cons a rest ih =>
    unfold play at hplay
    split at hplay
    · rename_i henabled
      exact ih (h.step ⟨henabled, rfl⟩) hplay
    · cases hplay

end

namespace Docket

variable {σ : Type} {B : Backend σ} {t : Tuning} {d : Docket} {s s' : State (σ × Journal)}
  {a : Action} {id : Nat}

/-- No batch with the point of this rank was handed over for the caller, unless it is under way. -/
def Unreported (d : Docket) (s : State (σ × Journal)) (id rank : Nat) : Prop :=
  ∀ k c, s.store.2.Holds rank k c → d.owners[k]? = some (some id) →
    k + 1 = s.store.2.length ∧ s.Serves id

/-- The point of this rank was handed over, and if this was for the caller, the result is what
became of the batch. -/
def Reported (d : Docket) (s : State (σ × Journal)) (id rank : Nat)
    (result : Except SinkError Unit) : Prop :=
  ∃ k c, s.store.2.Holds rank k c ∧
    (d.owners[k]? = some (some id) → c.answer.result? = some result)

/-! ### The docket after a step -/

/-- The steps of others do not change what a caller put into the buffer. -/
theorem lookup_entries_record (hown : a.caller? ≠ some id) :
    (d.record s a s').entries.lookup id = d.entries.lookup id := by
  have hne {c : Nat} (ha : a.caller? = some c) : id ≠ c := by
    rintro rfl
    exact hown ha
  cases a with
  | call c call | abandon c => exact Numbered.lookup_erase_of_ne (hne rfl) _
  | proceed c =>
    simp only [record]
    split
    · exact Numbered.lookup_assign_of_ne (hne rfl) _ _
    · rfl
  | expire | openReader | start | stop | leave | serve | tick | work | pass => rfl

/-- A caller that goes on, but not by a push, puts nothing into the buffer. -/
theorem entries_record_of_proceed {phase : Phase} (hphase : s.phase? id = some phase)
    (hpush : phase.point? = none) : (d.record s (.proceed id) s').entries = d.entries := by
  simp only [record, hphase]
  cases phase with
  | pushing => cases hpush
  | _ => rfl

/-- A step that hands nothing over notes no batch. -/
theorem owners_record_of_eq (hstore : s'.store.2 = s.store.2) :
    (d.record s a s').owners = d.owners := by
  simp [record, hstore]

/-- A step that hands a batch over notes for whom. -/
theorem owners_record_of_concat {last : Submission} (hstore : s'.store.2 = s.store.2 ++ [last]) :
    (d.record s a s').owners = d.owners ++ [s'.beneficiary?] := by
  simp [record, hstore]

theorem length_owners_record (h : d.owners.length = s.store.2.length)
    (henabled : s.enabled a = true) :
    (d.record s a (s.next B.journaled t a)).owners.length =
      (s.next B.journaled t a).store.2.length := by
  rcases State.journal_next (B := B) (t := t) henabled with hstore | ⟨-, f, -, hstore⟩
  · rw [owners_record_of_eq hstore, hstore, h]
  · rw [owners_record_of_concat hstore, hstore, List.length_append, List.length_append, h]
    rfl

/-- A step that no caller's waiting ends keeps what is not reported unreported. -/
theorem Unreported.next {rank : Nat} (h : d.Unreported s id rank)
    (howners : d.owners.length = s.store.2.length) (henabled : s.enabled a = true)
    (hserves : s.Serves id → (s.next B.journaled t a).Serves id) :
    (d.record s a (s.next B.journaled t a)).Unreported (s.next B.journaled t a) id rank := by
  intro k c hholds howner
  rcases State.journal_next (B := B) (t := t) henabled with hstore | ⟨hfree, f, hflight, hstore⟩
  · rw [owners_record_of_eq hstore] at howner
    rw [hstore] at hholds ⊢
    obtain ⟨hlast, hbefore⟩ := h k c hholds howner
    exact ⟨hlast, hserves hbefore⟩
  · rw [owners_record_of_concat hstore] at howner
    rw [hstore] at hholds ⊢
    rcases hholds.of_concat with hbefore | rfl
    · -- no batch was under way, so none is there for the caller
      rw [List.getElem?_append_left (howners ▸ hbefore.lt_length)] at howner
      obtain ⟨-, hserved⟩ := h k c hbefore howner
      obtain ⟨f', hf'⟩ := hserved.exists_flight
      cases hfree.symm.trans hf'
    · rw [← howners, List.getElem?_concat_length, Option.some.injEq] at howner
      rw [List.length_append, List.length_singleton]
      exact ⟨rfl, State.beneficiary?_eq_some_iff.1 howner⟩

/-- What was reported stays true. -/
theorem Reported.next {rank : Nat} {result : Except SinkError Unit}
    (h : d.Reported s id rank result) (howners : d.owners.length = s.store.2.length)
    (henabled : s.enabled a = true) :
    (d.record s a (s.next B.journaled t a)).Reported (s.next B.journaled t a) id rank result := by
  obtain ⟨k, c, hholds, hresult⟩ := h
  refine ⟨k, c, ?_, ?_⟩ <;>
    rcases State.journal_next (B := B) (t := t) henabled with hstore | ⟨-, f, -, hstore⟩
  · rw [hstore]
    exact hholds
  · rw [hstore]
    exact hholds.append _
  · rw [owners_record_of_eq hstore]
    exact hresult
  · rw [owners_record_of_concat hstore, List.getElem?_append_left (howners ▸ hholds.lt_length)]
    exact hresult

/-- A flush that comes to its end reports on the point, if this was handed over for the caller. -/
theorem Unreported.report {e : Entry} {result : Except SinkError Unit}
    (h : d.Unreported s id e.rank) (htransit : Transit s)
    (hpoint : s.history[e.rank]? = some e.point) (hflushed : s.Flushed s' result) :
    (d.record s a s').Reported s' id e.rank result := by
  have hstore : s'.store.2 = s.store.2 := congrArg Prod.snd hflushed.store
  -- nothing is left in the buffer, so the point is in a batch
  have hrank : e.rank < s.store.2.points.length := by
    have hlt := (List.getElem?_eq_some_iff.1 hpoint).1
    have hempty : s.buffer = #[] := hflushed.buffer ▸ htransit.buffer_of_flushed hflushed
    simpa [State.history, hempty] using hlt
  obtain ⟨k, c, hholds⟩ := Journal.exists_holds hrank
  refine ⟨k, c, hstore ▸ hholds, fun howner => ?_⟩
  rw [owners_record_of_eq hstore] at howner
  obtain ⟨hlast, hserves⟩ := h k c hholds howner
  obtain ⟨f, hflight⟩ := hserves.exists_flight
  rcases hflushed.result with ⟨hfree, -⟩ | ⟨f', hflight', hresult⟩
  · cases hfree.symm.trans hflight
  · -- the batch of the point is the last one, and this is the one that was answered
    have hc := htransit.last f' hflight'
    rw [List.getLast?_eq_getElem?, ← hlast, Nat.add_sub_cancel, hholds.submission] at hc
    cases hc
    exact hresult

end Docket

/-- Where a caller stands that put a point into the buffer, and what it was told. -/
inductive Told {σ : Type} (t : Tuning) (d : Docket) (s : State (σ × Journal)) (id : Nat)
    (e : Entry) : Phase → Prop
  | pushed (h : d.Unreported s id e.rank) : Told t d s id e (.pushed e.size)
  | below (hsize : e.size < t.highWaterMark) : Told t d s id e (.returned (.done (.ok ())))
  | waiting {phase : Phase} (hwaits : phase.Waits) (h : d.Unreported s id e.rank) :
      Told t d s id e phase
  | late : Told t d s id e (.returned (.done (.error (.flushTimeout t.flushTimeout))))
  | reported {result : Except SinkError Unit} (h : d.Reported s id e.rank result) :
      Told t d s id e (.returned (.done result))

/-- The docket tells of every point that a caller put into the buffer where it lies, and what the
caller was told. -/
structure Tracked {σ : Type} (t : Tuning) (d : Docket) (s : State (σ × Journal)) : Prop where
  held : s.Held
  transit : Transit s
  owners : d.owners.length = s.store.2.length
  entries : ∀ id e, d.entries.lookup id = some e → s.history[e.rank]? = some e.point ∧
    ∃ phase, s.phase? id = some phase ∧ Told t d s id e phase

namespace Tracked

variable {σ : Type} {B : Backend σ} {t : Tuning} {d : Docket} {s : State (σ × Journal)} {a : Action}
  {id : Nat} {e : Entry}

theorem initial (store : σ) : Tracked t {} { store := (store, []) } where
  held _ hf := nomatch hf
  transit := .initial store
  owners := rfl
  entries _ _ h := nomatch h

/-- No batch is under way for a caller that does not wait for a flush. -/
theorem not_serves (h : Tracked t d s) {size : Nat} (hphase : s.phase? id = some (.pushed size)) :
    ¬ s.Serves id := by
  intro hserves
  cases hserves with
  | own hflight hholder =>
    obtain ⟨b, hturn⟩ := h.held _ hflight
    rw [hholder] at hturn
    cases hturn with
    | caller hflushing => cases hphase.symm.trans hflushing
  | request _ _ _ _ hawaits => cases hphase.symm.trans hawaits

/-! ### The steps of a caller and of others -/

/-- A caller that goes on waiting keeps its claim to the batch under way. -/
theorem told_of_waits (h : Tracked t d s) (henabled : s.enabled a = true) {phase after : Phase}
    (hphase : s.phase? id = some phase) (hwaits : phase.Waits)
    (hafter : (s.next B.journaled t a).phase? id = some after) (hstill : after.Waits)
    (hun : d.Unreported s id e.rank) :
    Told t (d.record s a (s.next B.journaled t a)) (s.next B.journaled t a) id e after :=
  .waiting hstill (hun.next h.owners henabled
    fun hserves => hserves.next henabled hphase hwaits hafter hstill)

theorem told_of_released (h : Tracked t d s) (henabled : s.enabled a = true)
    (hown : a.caller? ≠ some id) (hpoint : s.history[e.rank]? = some e.point) {phase after : Phase}
    (hphase : s.phase? id = some phase) (htold : Told t d s id e phase)
    (hafter : (s.next B.journaled t a).phase? id = some after) (hreleased : phase.Released after) :
    Told t (d.record s a (s.next B.journaled t a)) (s.next B.journaled t a) id e after := by
  cases hreleased with
  | kept =>
    cases htold with
    | pushed hun =>
      exact .pushed (hun.next h.owners henabled fun hserves => absurd hserves (h.not_serves hphase))
    | below hsize => exact .below hsize
    | waiting hwaits hun => exact h.told_of_waits henabled hphase hwaits hafter hwaits hun
    | late => exact .late
    | reported hreported => exact .reported (hreported.next h.owners henabled)
  | answered deadline result =>
    cases htold with
    | waiting hwaits hun =>
      obtain ⟨result', hresult, hflushed⟩ := State.flushed_of_answered henabled hown hphase hafter
      cases hresult
      exact .reported (hun.report h.transit hpoint hflushed)
  | dismissed deadline =>
    cases htold with
    | waiting hwaits hun => exact h.told_of_waits henabled hphase hwaits hafter (.flushing _) hun

/-- A caller that goes on after its push waits for a flush, unless it is below the mark. -/
theorem told_of_pushed (h : Tracked t d s) (henabled : s.enabled (.proceed id) = true)
    (hphase : s.phase? id = some (.pushed e.size)) (hun : d.Unreported s id e.rank) {after : Phase}
    (hafter : (s.next B.journaled t (.proceed id)).phase? id = some after) :
    Told t (d.record s (.proceed id) (s.next B.journaled t (.proceed id)))
      (s.next B.journaled t (.proceed id)) id e after := by
  have hstill := hun.next (B := B) (t := t) h.owners henabled
    fun hserves => absurd hserves (h.not_serves hphase)
  have hnext : s.next B.journaled t (.proceed id) = s.afterPush t id e.size := by
    simp only [State.next, hphase, State.proceed]
  rw [hnext, State.phase?_afterPush_self, Option.some.injEq] at hafter
  by_cases hsize : e.size < t.highWaterMark
  · rw [if_pos hsize] at hafter
    rw [← hafter]
    exact .below hsize
  · rw [if_neg hsize] at hafter
    refine .waiting ?_ hstill
    rw [← hafter]
    split
    · exact .requesting _
    · exact .flushing none

/-- A caller that waits for a flush goes on waiting, or is told what became of it. -/
theorem told_of_next (h : Tracked t d s) (henabled : s.enabled (.proceed id) = true)
    (hpoint : s.history[e.rank]? = some e.point) {phase after : Phase}
    (hphase : s.phase? id = some phase) (hwaits : phase.Waits) (hun : d.Unreported s id e.rank)
    (hafter : (s.next B.journaled t (.proceed id)).phase? id = some after)
    (hnext : phase.Next after) :
    Told t (d.record s (.proceed id) (s.next B.journaled t (.proceed id)))
      (s.next B.journaled t (.proceed id)) id e after := by
  have hwaiting (hstill : after.Waits) := h.told_of_waits henabled hphase hwaits hafter hstill hun
  cases hwaits with
  | requesting deadline =>
    cases hnext with
    | admitted => exact hwaiting (.admitted _)
    | refused => exact hwaiting (.flushing _)
  | admitted deadline =>
    cases hnext with
    | awaiting => exact hwaiting (.awaiting _)
  | awaiting deadline => cases hnext
  | flushing deadline =>
    cases hnext with
    | submitted => exact hwaiting (.flushing _)
    | flushed =>
      obtain ⟨result, hresult, hflushed⟩ := State.flushed_of_own henabled hphase hafter
      cases hresult
      exact .reported (hun.report h.transit hpoint hflushed)

/-- A producer that puts its point into the buffer has a new entry, with the next rank. -/
theorem entry_of_pushing {p : Point} (hphase : s.phase? id = some (.pushing p))
    (he : (d.record s (.proceed id) (s.next B.journaled t (.proceed id))).entries.lookup id =
      some e) :
    (s.next B.journaled t (.proceed id)).history[e.rank]? = some e.point ∧
      ∃ phase, (s.next B.journaled t (.proceed id)).phase? id = some phase ∧
        Told t (d.record s (.proceed id) (s.next B.journaled t (.proceed id)))
          (s.next B.journaled t (.proceed id)) id e phase := by
  simp only [Docket.record, hphase, Numbered.lookup_assign_self, Option.some.injEq] at he
  subst he
  refine ⟨?_, .pushed (s.buffer.size + 1), ?_, .pushed ?_⟩
  · rw [State.history_next_of_pushing hphase]
    exact List.getElem?_concat_length
  · simp only [State.next, hphase, State.proceed]
    exact State.phase?_move_self _ id _
  · -- all batches are of points that came before
    intro k c hholds
    have hstore : (s.next B.journaled t (.proceed id)).store = s.store := by
      simp only [State.next, hphase, State.proceed]
      rfl
    have hrank := hholds.rank_lt
    rw [hstore] at hrank
    simp only [State.history, List.length_append] at hrank
    omega

/-- A caller that goes on, but not by a push, has its entry as before. -/
theorem entry_of_proceed (h : Tracked t d s) (henabled : s.enabled (.proceed id) = true)
    {phase : Phase} (hphase : s.phase? id = some phase) (hpush : phase.point? = none)
    (he : d.entries.lookup id = some e) :
    (s.next B.journaled t (.proceed id)).history[e.rank]? = some e.point ∧
      ∃ phase, (s.next B.journaled t (.proceed id)).phase? id = some phase ∧
        Told t (d.record s (.proceed id) (s.next B.journaled t (.proceed id)))
          (s.next B.journaled t (.proceed id)) id e phase := by
  obtain ⟨_, after, hphase', hafter, hnext⟩ := State.exists_next_proceed B.journaled t henabled
  cases hphase.symm.trans hphase'
  obtain ⟨hpoint, _, hphase', htold⟩ := h.entries id e he
  cases hphase.symm.trans hphase'
  refine ⟨State.getElem?_history_next henabled hpoint, after, hafter, ?_⟩
  cases htold with
  | pushed hun => exact h.told_of_pushed henabled hphase hun hafter
  | waiting hwaits hun => exact h.told_of_next henabled hpoint hphase hwaits hun hafter hnext
  | below | late | reported => cases hnext

theorem next (h : Tracked t d s) (henabled : s.enabled a = true) :
    Tracked t (d.record s a (s.next B.journaled t a)) (s.next B.journaled t a) := by
  refine ⟨h.held.next henabled, h.transit.next henabled,
    Docket.length_owners_record h.owners henabled, fun id e he => ?_⟩
  by_cases hown : a.caller? = some id
  · cases a with
    | call c call | abandon c =>
      cases hown
      cases (Numbered.lookup_erase_self id d.entries).symm.trans he
    | proceed c =>
      cases hown
      obtain ⟨phase, hphase, -⟩ := (Option.any_eq_true _ _).1 henabled
      cases hpush : phase.point? with
      | some p =>
        cases phase with
        | pushing => exact entry_of_pushing hphase he
        | _ => cases hpush
      | none =>
        rw [Docket.entries_record_of_proceed hphase hpush] at he
        exact h.entry_of_proceed henabled hphase hpush he
    | expire c =>
      cases hown
      obtain ⟨hpoint, -⟩ := h.entries id e he
      exact ⟨State.getElem?_history_next henabled hpoint, _, State.phase?_expire_self t s id, .late⟩
    | openReader | start | stop | leave | serve | tick | work | pass => cases hown
  · rw [Docket.lookup_entries_record hown] at he
    obtain ⟨hpoint, phase, hphase, htold⟩ := h.entries id e he
    refine ⟨State.getElem?_history_next henabled hpoint, ?_⟩
    obtain ⟨after, hafter, hreleased⟩ :=
      State.exists_released (B := B.journaled) (t := t) hown hphase
    have htold' := h.told_of_released henabled hown hpoint hphase htold hafter hreleased
    exact ⟨after, hafter, htold'⟩

end Tracked

theorem DocketRun.tracked {σ : Type} {B : Backend σ} {t : Tuning} {store : σ} {d : Docket}
    {s : State (σ × Journal)} (h : DocketRun B t store d s) : Tracked t d s := by
  induction h with
  | refl => exact .initial store
  | step _ hstep ih =>
    obtain ⟨henabled, rfl⟩ := hstep
    exact ih.next henabled

end SyslogCollector.Store.Writer
