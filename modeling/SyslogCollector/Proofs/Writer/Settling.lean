import SyslogCollector.Proofs.Writer.Requests
import SyslogCollector.Proofs.Writer.Solo
import SyslogCollector.Store.Writer.Session
/-!
# The flush task comes to rest

A flush task that was started and not asked to stop is idle or at a flush that is periodic or was
requested (`Task.Attends`). With a store that answers every batch, and nobody else holding the
buffer, it can go on until there is nothing left to do: every periodic flush that is due and every
request that waits is three steps of it. `State.stepsLeft` counts them, and each step takes from the
count (`Unhindered.step`).

So many steps are enough as a session allows (`Reachable.settled`), for not more requests wait than
there is room for, and of the periodic flushes that are due at one moment only those can follow each
other that are not late.
-/

namespace SyslogCollector.Store.Writer

/-- The flush task was started and has not begun to close. -/
inductive Task.Attends : Task → Prop
  | idle : Attends .idle
  | ticking : Attends (.flushing .tick)
  | serving (id : Nat) : Attends (.flushing (.request id))

theorem Task.Attends.idle_or_flushing {task : Task} (h : task.Attends) :
    task = .idle ∨ ∃ cause, task = .flushing cause := by
  cases h with
  | idle => exact .inl rfl
  | ticking | serving => exact .inr ⟨_, rfl⟩

/-- How many periodic flushes are due at a moment, by when the next one is. One that is late puts
off all that follow. -/
def ticksDue (interval nextTick now : Nat) : Nat :=
  if now < nextTick then 0
  else if nextTick + tickTolerance < now then 1
  else (now - nextTick) / interval + 1

theorem ticksDue_le (interval nextTick now : Nat) :
    ticksDue interval nextTick now ≤ tickTolerance / interval + 1 := by
  unfold ticksDue
  split
  · exact Nat.zero_le _
  · split
    · exact Nat.le_add_left _ _
    · exact Nat.succ_le_succ (Nat.div_le_div_right (by omega))

/-- None are due before the next one. -/
theorem lt_of_ticksDue_eq_zero {interval nextTick now : Nat}
    (h : ticksDue interval nextTick now = 0) : now < nextTick := by
  unfold ticksDue at h
  split at h
  · assumption
  · split at h <;> cases h

/-- A periodic flush that begins is due no more. -/
theorem ticksDue_following {interval nextTick now : Nat} (hpositive : 0 < interval)
    (hdue : nextTick ≤ now) :
    ticksDue interval ((if nextTick + tickTolerance < now then now else nextTick) + interval) now +
      1 = ticksDue interval nextTick now := by
  have hnow : ¬ now < nextTick := Nat.not_lt.2 hdue
  by_cases hlate : nextTick + tickTolerance < now
  · rw [if_pos hlate, ticksDue, if_pos (Nat.lt_add_of_pos_right hpositive), ticksDue, if_neg hnow,
      if_pos hlate]
  · rw [if_neg hlate, ticksDue, ticksDue, if_neg hnow, if_neg hlate]
    by_cases hlast : now < nextTick + interval
    · rw [if_pos hlast, Nat.div_eq_of_lt (by omega)]
    · -- the one that follows is due as well, and in time like this one
      have hprompt : ¬ nextTick + interval + tickTolerance < now := by omega
      have hone := Nat.div_eq_sub_div hpositive (a := now - nextTick) (by omega)
      rw [if_neg hlast, if_neg hprompt, ← Nat.sub_sub, hone]

namespace State

variable {σ : Type} {B : Backend σ} {t : Tuning} {s : State σ} {a : Action}

/-! ### The task of a writer that is not stopped -/

/-- Who is not asked to stop now was not before. -/
theorem stopping_of_next (h : (s.next B t a).stopping = false) : s.stopping = false := by
  by_cases hkeeps : a.keepsClock = true
  · obtain ⟨_, _, _, _, _, _, _, _, _, hnext⟩ := s.exists_next B t hkeeps
    rw [hnext] at h
    exact h
  · cases a with
    | stop => cases h
    | start | leave | tick | pass => exact h
    | _ => exact absurd rfl hkeeps

theorem afterTaskFlush_of_attends {cause : Cause} (h : (Task.flushing cause).Attends)
    (s : State σ) (result : Except SinkError Unit) :
    ∃ callers, s.afterTaskFlush result cause = { s with task := .idle, callers } := by
  cases h with
  | ticking => exact ⟨_, rfl⟩
  | serving id => exact exists_acknowledge { s with task := .idle } id result

/-- What a step of the flush task comes to while it attends to a flush. -/
inductive Attended (B : Backend σ) (s : State σ) : State σ → Prop
  /-- The points of the buffer are handed over. -/
  | submitted (hfree : s.flight = none) : Attended B s (s.submit B .task)
  /-- There was nothing to hand over, or the store has answered. The task is idle again. -/
  | flushed (hover : s.buffer = #[] ∨ ∃ f, s.flight = some f ∧ f.holder = .task)
      (callers : List (Nat × Phase)) (metrics : Metrics) :
      Attended B s { s with flight := none, task := .idle, callers, metrics }

theorem attended_work {cause : Cause} (htask : s.task = .flushing cause)
    (hattends : s.task.Attends) (hcan : s.canWork = true) : Attended B s (s.work B) := by
  rw [htask] at hattends
  simp only [canWork, htask] at hcan
  have hflush := flushStep_of_canFlush (B := B) hcan
  simp only [work, htask]
  split
  case h_1 s' hnone =>
    rw [hnone] at hflush
    cases hflush with
    | submitted hfree _ => exact .submitted hfree
  case h_2 result s' hsome =>
    simp only [hsome] at hflush
    obtain ⟨callers, hafter⟩ := afterTaskFlush_of_attends hattends s' result
    rw [hafter]
    cases hflush with
    | nothing hfree hempty =>
      have hflushed := Attended.flushed (B := B) (.inl hempty) callers s.metrics
      rw [← hfree] at hflushed
      exact hflushed
    | answered hflight hholder _ => exact .flushed (.inr ⟨_, hflight, hholder⟩) callers _

/-- A writer that is not asked to stop has a flush task that attends, once it was started. -/
def Open (s : State σ) : Prop :=
  s.stopping = false → s.task = .absent ∨ s.task.Attends

theorem Open.next (h : s.Open) (henabled : s.enabled a = true) : (s.next B t a).Open := by
  intro hstopping
  have hbefore := stopping_of_next hstopping
  cases a with
  | call | proceed | expire | abandon =>
    rw [task_next_of_caller B t s rfl]
    exact h hbefore
  | openReader | pass => exact h hbefore
  | stop => cases hstopping
  | start => exact .inr .idle
  | tick => exact .inr .ticking
  | leave => simp [enabled, hbefore] at henabled
  | serve =>
    simp only [State.next]
    split
    · exact .inr (.serving _)
    · exact h hbefore
  | work =>
    rcases h hbefore with habsent | hattends
    · simp [enabled, canWork, habsent] at henabled
    · right
      rcases hattends.idle_or_flushing with hidle | ⟨cause, htask⟩
      · simp [enabled, canWork, hidle] at henabled
      · have hattended := attended_work (B := B) htask hattends henabled
        simp only [State.next]
        generalize s.work B = s' at hattended ⊢
        cases hattended with
        | submitted => exact hattends
        | flushed => exact .idle

theorem Reachable.open {store : σ} (h : Reachable B t { store } s) : s.Open := by
  induction h with
  | refl => exact fun _ => .inl rfl
  | step _ hstep ih =>
    obtain ⟨henabled, rfl⟩ := hstep
    exact ih.next henabled

/-! ### The steps that are left -/

/-- How many steps the flush task can go on for at most, while nobody else does anything. A flush
takes three: it begins, hands over its batch, and has the answer. -/
def stepsLeft (t : Tuning) (s : State σ) : Nat :=
  3 * (ticksDue t.writeInterval.nanos s.nextTick s.now + s.requests.length) +
    match s.task with
    | .flushing _ => if s.flight.isNone then 2 else 1
    | _ => 0

/-- A session allows the flush task that many steps. -/
theorem stepsLeft_le (h : s.requests.length ≤ requestLimit) :
    s.stepsLeft t ≤ Session.stepsWithin t tickTolerance := by
  have hticks := ticksDue_le t.writeInterval.nanos s.nextTick s.now
  have hflush : (match s.task with
      | .flushing _ => if s.flight.isNone then 2 else 1
      | _ => 0) ≤ 2 := by
    split
    · split <;> decide
    · decide
  simp only [stepsLeft, Session.stepsWithin, requestLimit] at h ⊢
  omega

/-! ### Going on -/

/-- The flush task is not asked to stop, and nobody and nothing keeps it from its flushes. -/
structure Unhindered (s : State σ) : Prop where
  stopping : s.stopping = false
  attends : s.task.Attends
  /-- A batch under way is its own, and was answered. -/
  flight : ∀ f, s.flight = some f →
    f.holder = .task ∧ f.answer ≠ .never ∧ ∃ cause, s.task = .flushing cause

/-- What the flush task does next is one of its actions, and possible. -/
theorem of_taskAction?_eq_some (h : Session.taskAction? s = some a) :
    a ∈ [.leave, .tick, .serve, .work] ∧ s.enabled a = true :=
  ⟨List.mem_of_find?_eq_some h, List.find?_some h⟩

namespace Unhindered

theorem flight_of_idle (h : s.Unhindered) (hidle : s.task = .idle) : s.flight = none := by
  cases hflight : s.flight with
  | none => rfl
  | some f =>
    obtain ⟨-, -, cause, htask⟩ := h.flight f hflight
    cases hidle.symm.trans htask

/-- A step of the flush task takes from the steps that are left, and nothing keeps it from going on
after that. -/
theorem step (h : s.Unhindered) (hanswers : B.AnswersAll)
    (hpositive : 0 < t.writeInterval.nanos) (haction : Session.taskAction? s = some a) :
    (s.next B t a).Unhindered ∧ (s.next B t a).stepsLeft t < s.stepsLeft t := by
  obtain ⟨hmem, henabled⟩ := of_taskAction?_eq_some haction
  simp only [List.mem_cons, List.not_mem_nil, or_false] at hmem
  rcases hmem with rfl | rfl | rfl | rfl
  · simp [enabled, h.stopping] at henabled
  · -- a flush that begins counts two steps in place of the three of the tick or the request
    simp only [enabled, Bool.and_eq_true, beq_iff_eq, decide_eq_true_eq] at henabled
    obtain ⟨hidle, hdue⟩ := henabled
    have hfree := h.flight_of_idle hidle
    refine ⟨⟨h.stopping, .ticking, fun f hf => by cases hfree.symm.trans hf⟩, ?_⟩
    have hticks : ticksDue t.writeInterval.nanos (s.followingTick t) s.now + 1 =
        ticksDue t.writeInterval.nanos s.nextTick s.now := ticksDue_following hpositive hdue
    simp only [stepsLeft, next, hidle, hfree, Option.isNone_none, if_true]
    omega
  · simp only [enabled, Bool.and_eq_true, beq_iff_eq] at henabled
    obtain ⟨hidle, hwaits⟩ := henabled
    have hfree := h.flight_of_idle hidle
    cases hrequests : s.requests with
    | nil => simp [hrequests] at hwaits
    | cons id rest =>
      simp only [next, hrequests]
      refine ⟨⟨h.stopping, .serving id, fun f hf => by cases hfree.symm.trans hf⟩, ?_⟩
      simp only [stepsLeft, hidle, hrequests, hfree, List.length_cons, Option.isNone_none, if_true]
      omega
  · rcases h.attends.idle_or_flushing with hidle | ⟨cause, htask⟩
    · simp [enabled, canWork, hidle] at henabled
    · have hattended := attended_work (B := B) htask h.attends henabled
      simp only [next]
      generalize s.work B = s' at hattended ⊢
      cases hattended with
      | submitted hfree =>
        refine ⟨⟨h.stopping, h.attends, fun f hf => ?_⟩, ?_⟩
        · cases hf
          exact ⟨rfl, hanswers _ _, cause, htask⟩
        · simp [stepsLeft, submit, htask, hfree]
      | flushed hover callers metrics =>
        refine ⟨⟨h.stopping, .idle, fun f hf => by cases hf⟩, ?_⟩
        simp only [stepsLeft, htask]
        split <;> omega

/-- With no steps left the flush task has nothing to do. -/
theorem taskAction?_eq_none (h : s.Unhindered) (hleft : s.stepsLeft t = 0) :
    Session.taskAction? s = none := by
  have hticks : ticksDue t.writeInterval.nanos s.nextTick s.now = 0 := by
    unfold stepsLeft at hleft
    omega
  have hrequests : s.requests = [] := by
    refine List.eq_nil_of_length_eq_zero ?_
    unfold stepsLeft at hleft
    omega
  have hidle : s.task = .idle := by
    rcases h.attends.idle_or_flushing with hidle | ⟨cause, htask⟩
    · exact hidle
    · simp only [stepsLeft, htask] at hleft
      split at hleft <;> omega
  have hnow := lt_of_ticksDue_eq_zero hticks
  simp [Session.taskAction?, enabled, canWork, hidle, hrequests, h.stopping, hnow]

/-- A flush task that has nothing to do is idle, and its next periodic flush is not due. -/
theorem idle_of_taskAction?_eq_none (h : s.Unhindered) (hnone : Session.taskAction? s = none) :
    s.task = .idle ∧ s.now < s.nextTick := by
  have hno {a : Action} (hmem : a ∈ [.leave, .tick, .serve, .work]) : s.enabled a = false :=
    Bool.eq_false_iff.2 (List.find?_eq_none.1 hnone a hmem)
  have htick := hno (a := .tick) (by simp)
  have hwork := hno (a := .work) (by simp)
  rcases h.attends.idle_or_flushing with hidle | ⟨cause, htask⟩
  · refine ⟨hidle, ?_⟩
    simpa [enabled, hidle] using htick
  · -- it could go on with its flush
    have hcan : s.canFlush .task = true := by
      cases hflight : s.flight with
      | none => simp [canFlush, hflight]
      | some f =>
        obtain ⟨hholder, hanswer, -⟩ := h.flight f hflight
        simp [canFlush, hflight, hholder, hanswer]
    simp [enabled, canWork, htask, hcan] at hwork

end Unhindered

/-- What the steps of the flush task preserve holds when it has come to rest. -/
theorem settleState_preserves {P : State σ → Prop}
    (hstep : ∀ s a, a ∈ [.leave, .tick, .serve, .work] → s.enabled a = true → P s →
      P (s.next B t a)) (fuel : Nat) (h : P s) : P (Session.settleState B t fuel s) := by
  induction fuel generalizing s with
  | zero => exact h
  | succ fuel ih =>
    unfold Session.settleState
    split
    · exact h
    · rename_i a haction
      obtain ⟨hmem, henabled⟩ := of_taskAction?_eq_some haction
      exact ih (hstep s a hmem henabled h)

/-- The flush task comes to rest if it may take the steps that are left. -/
theorem Unhindered.settle (h : s.Unhindered) (hanswers : B.AnswersAll)
    (hpositive : 0 < t.writeInterval.nanos) {fuel : Nat} (hfuel : s.stepsLeft t ≤ fuel) :
    (Session.settleState B t fuel s).Unhindered ∧
      Session.taskAction? (Session.settleState B t fuel s) = none := by
  induction fuel generalizing s with
  | zero => exact ⟨h, h.taskAction?_eq_none (Nat.le_zero.1 hfuel)⟩
  | succ fuel ih =>
    unfold Session.settleState
    split
    · rename_i hnone
      exact ⟨h, hnone⟩
    · rename_i a haction
      obtain ⟨hnext, hless⟩ := h.step hanswers hpositive haction
      exact ih hnext (by omega)

/-! ### Where a run leads -/

/-- Whether the store has answered the batch under way. -/
def Answered (s : State σ) : Prop :=
  ∀ f, s.flight = some f → f.answer ≠ .never

theorem Answered.next (h : s.Answered) (hanswers : B.AnswersAll) (henabled : s.enabled a = true) :
    (s.next B t a).Answered := by
  intro f hf
  have hflow := flow_next (B := B) (t := t) henabled
  generalize s.next B t a = s' at hflow hf
  cases hflow with
  | kept _ hpipe | pushed _ _ hpipe | counted _ hpipe | queried _ _ hpipe =>
    exact h f ((congrArg Pipe.flight hpipe).symm.trans hf)
  | submitted =>
    cases hf
    exact hanswers _ _
  | answered _ _ _ hpipe | cut _ _ _ hpipe =>
    cases (congrArg Pipe.flight hpipe).symm.trans hf

theorem Reachable.answered {store : σ} (h : Reachable B t { store } s) (hanswers : B.AnswersAll) :
    s.Answered := by
  induction h with
  | refl => exact nofun
  | step _ hstep ih =>
    obtain ⟨henabled, rfl⟩ := hstep
    exact ih.next hanswers henabled

/-- A flush task that was started, of a writer that is not asked to stop, goes on unhindered as long
as the store answers and no caller holds the buffer. -/
theorem Reachable.unhindered {store : σ} (h : Reachable B t { store } s) (hanswers : B.AnswersAll)
    (hstopping : s.stopping = false) (hstarted : s.task ≠ .absent)
    (hcallers : ∀ f id, s.flight = some f → f.holder ≠ .caller id) : s.Unhindered where
  stopping := hstopping
  attends := (h.open hstopping).resolve_left hstarted
  flight f hf := by
    have hholder : f.holder = .task := by
      cases hparty : f.holder with
      | task => rfl
      | caller id => exact absurd hparty (hcallers f id hf)
    obtain ⟨a, hturn⟩ := h.held f hf
    rw [hholder] at hturn
    cases hturn with
    | task htask => exact ⟨hholder, h.answered hanswers f hf, _, htask⟩

/-- It then comes to rest by itself within the steps that a session allows: it is idle, and its next
periodic flush is not due. -/
theorem Reachable.settled {store : σ} (h : Reachable B t { store } s) (hanswers : B.AnswersAll)
    (hpositive : 0 < t.writeInterval.nanos) (hunhindered : s.Unhindered) :
    let s' := Session.settleState B t (Session.stepsWithin t tickTolerance) s
    s'.task = .idle ∧ s'.now < s'.nextTick := by
  obtain ⟨hsettled, hnone⟩ :=
    hunhindered.settle hanswers hpositive (stepsLeft_le h.requests_le)
  exact hsettled.idle_of_taskAction?_eq_none hnone

end State

end SyslogCollector.Store.Writer
