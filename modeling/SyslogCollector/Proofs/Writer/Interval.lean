import SyslogCollector.Proofs.Writer.Settling
/-!
# How long a point waits

A run keeps when each point came into the buffer and when the flush task was started (`Arrivals`).
The next periodic flush is never more than one interval away, and none of the points in the buffer
saw it put off: it is due within one interval of the arrival of each of them, or of the start if
that was later, unless the flush task is at a periodic flush already (`Timetable`). Such a flush
empties the buffer whatever the store answers. So when the flush task is idle and no periodic flush
is due, all points in the buffer are younger than one interval (`point_waits_at_most_interval`).
-/

namespace SyslogCollector.Store.Writer

/-- When points came into the buffer. -/
structure Arrivals where
  /-- All points that were put into the buffer, in their order, and when. -/
  pushed : List (Point × Moment) := []
  /-- When the flush task was started. -/
  started : Moment := 0

/-- The arrivals after one more action, taken in a state. -/
def Arrivals.record {σ : Type} (g : Arrivals) (s : State σ) : Action → Arrivals
  | .proceed id =>
    match s.phase? id with
    | some (.pushing p) => { g with pushed := g.pushed ++ [(p, s.now)] }
    | _ => g
  | .start => { g with started := s.now }
  | _ => g

/-- A run from a state, with the arrivals of its points. -/
inductive ArrivalRun {σ : Type} (B : Backend σ) (t : Tuning) (start : State σ) :
    Arrivals → State σ → Prop
  /-- A run of no steps. -/
  | refl : ArrivalRun B t start {} start
  /-- One step more. -/
  | step {g : Arrivals} {s s' : State σ} {a : Action} :
      ArrivalRun B t start g s → s.Step B t a s' → ArrivalRun B t start (g.record s a) s'

section

variable {σ : Type} {B : Backend σ} {t : Tuning} {start s : State σ} {g : Arrivals} {a : Action}

theorem ArrivalRun.reachable (h : ArrivalRun B t start g s) : State.Reachable B t start s := by
  induction h with
  | refl => exact .refl
  | step _ hstep ih => exact .step ih hstep

/-- Carries out a list of actions, if all of them are possible in their turn. -/
def ArrivalRun.play (B : Backend σ) (t : Tuning) :
    List Action → Arrivals → State σ → Option (Arrivals × State σ)
  | [], g, s => some (g, s)
  | a :: rest, g, s =>
    if s.enabled a then play B t rest (g.record s a) (s.next B t a) else none

/-- What is carried out after a run is a run. -/
theorem ArrivalRun.of_play {actions : List Action} {g' : Arrivals} {s' : State σ}
    (h : ArrivalRun B t start g s) (hplay : play B t actions g s = some (g', s')) :
    ArrivalRun B t start g' s' := by
  induction actions generalizing g s with
  | nil =>
    cases hplay
    exact h
  | cons a rest ih =>
    unfold play at hplay
    split at hplay
    · rename_i henabled
      exact ih (h.step ⟨henabled, rfl⟩) hplay
    · cases hplay

/-- Starting the flush task is all that changes when it was started. -/
theorem started_record (h : a ≠ .start) : (g.record s a).started = g.started := by
  cases a with
  | proceed id =>
    simp only [Arrivals.record]
    split <;> rfl
  | start => exact absurd rfl h
  | call | expire | abandon | openReader | stop | leave | serve | tick | work | pass => rfl

/-- Whoever does not put a point into the buffer leaves the arrivals. -/
theorem pushed_record (h : ∀ id p, a = .proceed id → s.phase? id ≠ some (.pushing p)) :
    (g.record s a).pushed = g.pushed := by
  cases a with
  | proceed id =>
    simp only [Arrivals.record]
    split
    · rename_i p hphase
      exact absurd hphase (h id p rfl)
    · rfl
  | call | expire | abandon | openReader | start | stop | leave | serve | tick | work | pass => rfl

/-- A flush of the flush task that is over leaves nothing in the buffer. -/
theorem State.Cleared.buffer_of_flushed (h : s.Cleared)
    (hover : s.buffer = #[] ∨ ∃ f, s.flight = some f ∧ f.holder = .task) : s.buffer = #[] := by
  rcases hover with hempty | ⟨f, hflight, -⟩
  · exact hempty
  · exact h (by simp [hflight])

/-! ## The timetable -/

/-- These are the points in the buffer with their arrivals: the last ones that came into it. -/
structure Arrivals.Waiting (g : Arrivals) (s : State σ) (waiting : List (Point × Moment)) :
    Prop where
  last : waiting <:+ g.pushed
  points : waiting.map Prod.fst = s.buffer.toList

/-- The empty buffer has no points that wait. -/
theorem Arrivals.Waiting.none (g : Arrivals) (h : s.buffer = #[]) : g.Waiting s [] :=
  ⟨List.nil_suffix, by rw [h]; rfl⟩

/-- The next periodic flush is due soon enough for some arrivals, or it goes on. -/
def Serving (t : Tuning) (g : Arrivals) (s : State σ) (waiting : List (Point × Moment)) : Prop :=
  s.task = .flushing .tick ∨
    ∀ e ∈ waiting, s.nextTick ≤ max e.2 g.started + t.writeInterval.nanos

/-- What is served in time stays so, until the buffer is empty. -/
theorem Serving.next {waiting : List (Point × Moment)} (h : Serving t g s waiting)
    (hcleared : s.Cleared) (henabled : s.enabled a = true) :
    Serving t (g.record s a) (s.next B t a) waiting ∨ (s.next B t a).buffer = #[] := by
  by_cases hkeeps : a.keepsClock = true
  · have hstart : a ≠ .start := by
      rintro rfl
      cases hkeeps
    rcases h with htask | hdue
    · -- a periodic flush under way stays so until its own work ends it, over an empty buffer
      by_cases hwork : a = .work
      · subst hwork
        right
        have hattends : s.task.Attends := htask ▸ .ticking
        have hattended := State.attended_work (B := B) htask hattends henabled
        simp only [State.next]
        generalize s.work B = s' at hattended ⊢
        cases hattended with
        | submitted => rfl
        | flushed hover => exact hcleared.buffer_of_flushed hover
      · exact .inl (.inl (State.task_next_of_flushing htask henabled hwork))
    · obtain ⟨_, _, _, _, _, _, _, _, _, hnext⟩ := s.exists_next B t hkeeps
      rw [hnext]
      refine .inl (.inr fun e he => ?_)
      rw [started_record hstart]
      exact hdue e he
  · left
    -- the start sets the next flush anew, and what waits is counted from the start then
    cases a with
    | start =>
      exact .inr fun e _ => Nat.add_le_add_right (Nat.le_max_right e.2 s.now) _
    | tick => exact .inl rfl
    | leave =>
      rcases h with htask | hdue
      · simp [State.enabled, htask] at henabled
      · exact .inr hdue
    | stop | pass => exact h
    | _ => exact absurd rfl hkeeps

/-- A point that comes into the buffer is served in time, as the next periodic flush is due within
one interval. -/
theorem Serving.push {waiting : List (Point × Moment)} {arrived : Moment}
    (h : Serving t g s waiting) (hnext : s.nextTick ≤ arrived + t.writeInterval.nanos)
    (p : Point) : Serving t g s (waiting ++ [(p, arrived)]) := by
  refine h.imp_right fun hdue e he => ?_
  rcases List.mem_append.1 he with hold | hnew
  · exact hdue e hold
  · cases List.mem_singleton.1 hnew
    exact Nat.le_trans hnext (Nat.add_le_add_right (Nat.le_max_left _ _) _)

/-- How the periodic flushes keep up with the arrivals. -/
structure Timetable (t : Tuning) (g : Arrivals) (s : State σ) : Prop where
  /-- The next periodic flush is due within one interval. -/
  next_le : s.nextTick ≤ s.now + t.writeInterval.nanos
  /-- All points in the buffer are served in time. -/
  serves : ∃ waiting, g.Waiting s waiting ∧ Serving t g s waiting

namespace Timetable

theorem initial (t : Tuning) (store : σ) : Timetable t {} { store } where
  next_le := Nat.zero_le _
  serves := ⟨[], .none _ rfl, .inr nofun⟩

theorem next_le_next (h : Timetable t g s) (henabled : s.enabled a = true) :
    (s.next B t a).nextTick ≤ (s.next B t a).now + t.writeInterval.nanos := by
  by_cases hkeeps : a.keepsClock = true
  · obtain ⟨_, _, _, _, _, _, _, _, _, hnext⟩ := s.exists_next B t hkeeps
    rw [hnext]
    exact h.next_le
  · cases a with
    | start => exact Nat.le_refl _
    | stop | leave => exact h.next_le
    | tick =>
      simp only [State.enabled, Bool.and_eq_true, decide_eq_true_eq] at henabled
      simp only [State.next, State.followingTick]
      split
      · exact Nat.le_refl _
      · exact Nat.add_le_add_right henabled.2 _
    | pass nanos =>
      exact Nat.le_trans h.next_le (Nat.add_le_add_right (Nat.le_add_right _ nanos) _)
    | _ => exact absurd rfl hkeeps

theorem serves_next (h : Timetable t g s) (hcleared : s.Cleared) (henabled : s.enabled a = true) :
    ∃ waiting, (g.record s a).Waiting (s.next B t a) waiting ∧
      Serving t (g.record s a) (s.next B t a) waiting := by
  obtain ⟨waiting, hwaiting, hserving⟩ := h.serves
  have hnext := h.next_le_next (B := B) henabled
  -- those that wait are still served in time, or nobody waits any more
  rcases hserving.next (B := B) hcleared henabled with hserving' | hempty
  case inr => exact ⟨[], .none _ hempty, .inr nofun⟩
  have hflow := State.flow_next (B := B) (t := t) henabled
  generalize hafter : s.next B t a = s' at hflow hnext hserving' ⊢
  -- without a new point those that wait stay the same
  have hkept (hquiet : ∀ id p, a = .proceed id → s.phase? id ≠ some (.pushing p))
      (hbuffer : s'.buffer = s.buffer) :
      ∃ waiting, (g.record s a).Waiting s' waiting ∧ Serving t (g.record s a) s' waiting := by
    refine ⟨waiting, ⟨?_, ?_⟩, hserving'⟩
    · rw [pushed_record hquiet]
      exact hwaiting.last
    · rw [hbuffer]
      exact hwaiting.points
  cases hflow with
  | kept hquiet hpipe => exact hkept hquiet.push (congrArg Pipe.buffer hpipe)
  | counted hphase hpipe | queried _ hphase hpipe =>
    refine hkept (fun id p ha hpushing => ?_) (congrArg Pipe.buffer hpipe)
    cases ha
    cases hphase.symm.trans hpushing
  | answered hturn _ _ hpipe =>
    refine hkept (fun id p ha hpushing => ?_) (congrArg Pipe.buffer hpipe)
    subst ha
    obtain ⟨_, _, hflushing⟩ := hturn.exists_phase?
    cases hflushing.symm.trans hpushing
  | cut hleave _ _ hpipe =>
    refine hkept (fun id p ha _ => ?_) (congrArg Pipe.buffer hpipe)
    rcases hleave with rfl | rfl <;> cases ha
  | submitted => exact ⟨[], .none _ rfl, .inr nofun⟩
  | @pushed id p _ hphase _ hpipe =>
    have hnow : s'.now = s.now := by
      rw [← hafter, s.now_next B t (by simp)]
    have hrecord : (g.record s (.proceed id)).pushed = g.pushed ++ [(p, s.now)] := by
      simp only [Arrivals.record, hphase]
    have hbuffer : s'.buffer = s.buffer.push p := congrArg Pipe.buffer hpipe
    rw [hnow] at hnext
    refine ⟨waiting ++ [(p, s.now)], ⟨?_, ?_⟩, hserving'.push hnext p⟩
    · obtain ⟨handed, hhanded⟩ := hwaiting.last
      exact ⟨handed, by rw [hrecord, ← hhanded, List.append_assoc]⟩
    · rw [hbuffer, Array.toList_push, List.map_append, hwaiting.points]
      rfl

theorem next (h : Timetable t g s) (hcleared : s.Cleared) (henabled : s.enabled a = true) :
    Timetable t (g.record s a) (s.next B t a) where
  next_le := h.next_le_next henabled
  serves := h.serves_next hcleared henabled

end Timetable

theorem ArrivalRun.timetable {store : σ} (h : ArrivalRun B t { store } g s) : Timetable t g s := by
  induction h with
  | refl => exact .initial t store
  | step hrun hstep ih =>
    obtain ⟨henabled, rfl⟩ := hstep
    exact ih.next hrun.reachable.cleared henabled

/-! ## How long a point waits -/

/-- All points in the buffer came there less than so long ago, or the flush task was started less
than so long ago. -/
def Arrivals.FreshWithin (g : Arrivals) (s : State σ) (span : Nat) : Prop :=
  ∃ waiting, g.Waiting s waiting ∧ ∀ e ∈ waiting, s.now < max e.2 g.started + span

/-- While the flush task is idle and no periodic flush is due, nothing has waited an interval. -/
theorem Timetable.freshWithin (h : Timetable t g s) (hidle : s.task = .idle)
    (hdue : s.now < s.nextTick) : g.FreshWithin s t.writeInterval.nanos := by
  obtain ⟨waiting, hwaiting, hflushing | hserved⟩ := h.serves
  · cases hidle.symm.trans hflushing
  · exact ⟨waiting, hwaiting, fun e he => Nat.lt_of_lt_of_le hdue (hserved e he)⟩

/-- Once the store has answered the batch of a periodic flush, whatever the answer, the flush task
is idle over an empty buffer, and the next periodic flush comes. -/
theorem Timetable.flush_over (h : Timetable t g s) (hcleared : s.Cleared)
    (htask : s.task = .flushing .tick) {f : Flight} (hflight : s.flight = some f)
    (hholder : f.holder = .task) (hanswer : f.answer ≠ .never) :
    let s' := s.next B t .work
    s.enabled .work = true ∧ s'.task = .idle ∧ s'.buffer = #[] ∧
      ∀ nanos, t.writeInterval.nanos ≤ nanos → (s'.next B t (.pass nanos)).enabled .tick = true := by
  have hcan : s.canWork = true := by simp [State.canWork, htask, State.canFlush, hflight, hholder,
    hanswer]
  have hattends : s.task.Attends := htask ▸ .ticking
  have hattended := State.attended_work (B := B) htask hattends hcan
  refine ⟨hcan, ?_⟩
  simp only [State.next]
  generalize s.work B = s' at hattended ⊢
  cases hattended with
  | submitted hfree => cases hfree.symm.trans hflight
  | flushed hover callers metrics =>
    refine ⟨rfl, hcleared.buffer_of_flushed hover, fun nanos hnanos => ?_⟩
    exact decide_eq_true (Nat.le_trans h.next_le (Nat.add_le_add_left hnanos _))

/-- A caller that holds the buffer can go on and lets it go, if the store answers. -/
theorem State.Reachable.caller_lets_go {store : σ} (h : State.Reachable B t { store } s)
    (hanswers : B.AnswersAll) {f : Flight} {id : Nat} (hflight : s.flight = some f)
    (hholder : f.holder = .caller id) :
    s.enabled (.proceed id) = true ∧ (s.next B t (.proceed id)).flight = none := by
  obtain ⟨a, hturn⟩ := h.held f hflight
  have henabled := hturn.enabled hflight (h.answered hanswers f hflight)
  have hflight' := hturn.flight_next (B := B) (t := t) henabled hflight
  rw [hholder] at hturn
  cases hturn with
  | caller => exact ⟨henabled, hflight'⟩

/-- What the flush task does until it comes to rest takes no time and brings no points. -/
theorem ArrivalRun.settleState (h : ArrivalRun B t start g s) (fuel : Nat) :
    ArrivalRun B t start g (Session.settleState B t fuel s) ∧
      (Session.settleState B t fuel s).now = s.now := by
  refine State.settleState_preserves (P := fun s' => ArrivalRun B t start g s' ∧ s'.now = s.now)
    (fun s' a hmem henabled ⟨hrun, hnow⟩ => ?_) fuel ⟨h, rfl⟩
  have hstep := hrun.step ⟨henabled, rfl⟩
  have hafter : (s'.next B t a).now = s'.now := by
    refine s'.now_next B t fun nanos => ?_
    rintro rfl
    simp at hmem
  have hrecord : g.record s' a = g := by
    simp only [List.mem_cons, List.not_mem_nil, or_false] at hmem
    rcases hmem with rfl | rfl | rfl | rfl <;> rfl
  rw [hrecord] at hstep
  exact ⟨hstep, hafter.trans hnow⟩

/-- An interval that is set is not empty. -/
theorem Tuning.writeInterval_pos (t : Tuning) (interval : Duration) :
    0 < (t.withWriteInterval interval).writeInterval.nanos := by
  unfold Tuning.withWriteInterval
  dsimp only
  split
  · decide
  · rename_i hzero
    exact Nat.pos_of_ne_zero (by simpa [Duration.isZero] using hzero)

/-- A point waits at most one interval. In every run of a new writer, whoever uses it and however
time passes:

* When the flush task is idle and no periodic flush is due, every point in the buffer came there, or
  saw the flush task start, less than one interval ago.
* Once the store has answered the batch of a periodic flush, and be it with an error, the flush task
  is idle over an empty buffer, and one interval later the next periodic flush is due.
* If the store answers every batch, the flush task was started and is not asked to stop, a caller
  that holds the buffer can go on and lets it go; and while no caller holds the buffer, the flush
  task comes to rest by itself at the same moment. It is idle then and no periodic flush is due. -/
theorem point_waits_at_most_interval {store : σ} {interval : Duration}
    (h : ArrivalRun B (t.withWriteInterval interval) { store } g s) :
    let t' := t.withWriteInterval interval
    (s.task = .idle → s.enabled .tick = false → g.FreshWithin s t'.writeInterval.nanos) ∧
      (∀ f, s.task = .flushing .tick → s.flight = some f → f.holder = .task → f.answer ≠ .never →
        let s' := s.next B t' .work
        s.enabled .work = true ∧ s'.task = .idle ∧ s'.buffer = #[] ∧
          ∀ nanos, t'.writeInterval.nanos ≤ nanos →
            (s'.next B t' (.pass nanos)).enabled .tick = true) ∧
      (B.AnswersAll → s.stopping = false → s.task ≠ .absent →
        (∀ f id, s.flight = some f → f.holder = .caller id →
          s.enabled (.proceed id) = true ∧ (s.next B t' (.proceed id)).flight = none) ∧
        ((∀ f id, s.flight = some f → f.holder ≠ .caller id) →
          let settled := Session.settleState B t' (Session.stepsWithin t' tickTolerance) s
          ArrivalRun B t' { store } g settled ∧ settled.now = s.now ∧ settled.task = .idle ∧
            settled.enabled .tick = false ∧ g.FreshWithin settled t'.writeInterval.nanos)) := by
  intro t'
  have hreach := h.reachable
  refine ⟨fun hidle htick => ?_, fun f htask hflight hholder hanswer => ?_,
    fun hanswers hstopping hstarted => ⟨fun f id hflight hholder => ?_, fun hcallers => ?_⟩⟩
  · exact h.timetable.freshWithin hidle (by simpa [State.enabled, hidle] using htick)
  · exact h.timetable.flush_over hreach.cleared htask hflight hholder hanswer
  · exact hreach.caller_lets_go hanswers hflight hholder
  · intro settled
    have hunhindered := hreach.unhindered hanswers hstopping hstarted hcallers
    obtain ⟨hidle, hdue⟩ := hreach.settled hanswers (t.writeInterval_pos interval) hunhindered
    obtain ⟨hrun, hnow⟩ := h.settleState (Session.stepsWithin t' tickTolerance)
    refine ⟨hrun, hnow, hidle, ?_, hrun.timetable.freshWithin hidle hdue⟩
    simpa [State.enabled] using fun _ => hdue

end

/-- A store that refuses every batch. -/
def refusingStore : Backend Unit where
  name := "store"
  submit store _ := (.refused (.connection "backend down"), store)
  query store _ := (.ok [], store)
  measurements store := (.ok [], store)

/-- A periodic flush every half second. -/
def halfSecond : Tuning :=
  ({} : Tuning).withWriteInterval (.ofMillis 500)

/-- The first point is handed over and refused after half a second. The second one came right after
that and has waited for half a second but one nanosecond. One nanosecond later the flush task comes
to rest by itself. -/
theorem point_waits_at_most_interval_refused_batch :
    ∃ (g : Arrivals) (s : State Unit) (g' : Arrivals) (s' : State Unit),
      ArrivalRun refusingStore halfSecond { store := () } g s ∧ s.task = .flushing .tick ∧
      (s.next refusingStore halfSecond .work).buffer = #[] ∧
      (s.next refusingStore halfSecond .work).task = .idle ∧
      ArrivalRun refusingStore halfSecond { store := () } g' s' ∧ s'.metrics.flushErrors = 1 ∧
      s'.buffer.size = 1 ∧ s'.now = 999999999 ∧ g'.FreshWithin s' 500000000 ∧
      (Session.settleState refusingStore halfSecond (Session.stepsWithin halfSecond tickTolerance)
        (s'.next refusingStore halfSecond (.pass 1))).task = .idle := by
  obtain ⟨g, s, f, hplay, htask, hflight, hholder, hrefused⟩ : ∃ g s f,
      ArrivalRun.play refusingStore halfSecond
        [.start, .call 0 (.writeOf "a" "first"), .proceed 0, .proceed 0,
          .pass (.ofMillis 500 : Duration).nanos, .tick, .work] {} { store := () } = some (g, s) ∧
      s.task = .flushing .tick ∧ s.flight = some f ∧ f.holder = .task ∧
      f.answer = .refused (.connection "backend down") := ⟨_, _, _, rfl, rfl, rfl, rfl, rfl⟩
  have hrun := ArrivalRun.refl.of_play hplay
  obtain ⟨-, hflushed, -⟩ := point_waits_at_most_interval hrun
  obtain ⟨henabled, hidle, hempty, -⟩ :=
    hflushed f htask hflight hholder (by simp [hrefused])
  obtain ⟨g', s', hplay', hidle', htick', herrors, hsize, hnow, hstopping, hfree⟩ : ∃ g' s',
      ArrivalRun.play refusingStore halfSecond
        [.work, .call 1 (.writeOf "a" "second"), .proceed 1, .proceed 1,
          .pass ((.ofMillis 500 : Duration).nanos - 1)] g s = some (g', s') ∧
      s'.task = .idle ∧ s'.enabled .tick = false ∧ s'.metrics.flushErrors = 1 ∧
      s'.buffer.size = 1 ∧ s'.now = 999999999 ∧ s'.stopping = false ∧ s'.flight = none := by
    cases hplay
    exact ⟨_, _, rfl, rfl, rfl, rfl, rfl, rfl, rfl, rfl⟩
  have hrun' := hrun.of_play hplay'
  obtain ⟨hfresh, -, -⟩ := point_waits_at_most_interval hrun'
  obtain ⟨-, -, hrests⟩ :=
    point_waits_at_most_interval (hrun'.step (a := .pass 1) ⟨rfl, rfl⟩)
  obtain ⟨-, hsettles⟩ :=
    hrests (fun _ _ => by simp [refusingStore]) hstopping (by simp [State.next, hidle'])
  obtain ⟨-, -, hsettled, -⟩ := hsettles fun f id hf => by cases hfree.symm.trans hf
  exact ⟨g, s, g', s', hrun, htask, hempty, hidle, hrun', herrors, hsize, hnow,
    hfresh hidle' htick', hsettled⟩

end SyslogCollector.Store.Writer
