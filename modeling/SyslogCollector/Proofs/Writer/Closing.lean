import SyslogCollector.Proofs.Writer.Phase
/-!
# Waiting for the end of the flush task

When the flush task is asked to stop it serves the requests that are left, flushes the buffer a last
time and comes to its end. Whoever waits for this end returns after the last flush
(`wait_returns_after_final_flush`). A run keeps a `Closing` for this: who waits, and what the last
flush came to.
-/

namespace SyslogCollector.Store.Writer

/-- What a run has noted of the end of the flush task. -/
structure Closing where
  /-- The callers that were told to wait for the end, since there was a flush task. -/
  waiters : List Nat := []
  /-- What the last flush came to, once it has. -/
  final : Option (Except SinkError Unit) := none

/-- What is noted in a step. -/
def Closing.record {σ : Type} (B : Backend σ) (g : Closing) (s : State σ) (a : Action) :
    Closing where
  waiters := match a with
    | .call id .wait => if s.task = .absent then g.waiters else id :: g.waiters
    | .abandon id => g.waiters.filter (· != id)
    | _ => g.waiters
  final := match s.task, a with
    | .flushing .final, .work => (s.flushStep B .task).1
    | _, _ => g.final

/-- A run from a new writer, with what it has noted of the end of the flush task. -/
inductive ClosingRun {σ : Type} (B : Backend σ) (t : Tuning) (store : σ) :
    Closing → State σ → Prop
  /-- A run of no steps. -/
  | refl : ClosingRun B t store {} { store }
  /-- One step more. -/
  | step {g : Closing} {s s' : State σ} {a : Action} :
      ClosingRun B t store g s → s.Step B t a s' → ClosingRun B t store (g.record B s a) s'

variable {σ : Type} {B : Backend σ} {t : Tuning} {store : σ} {g : Closing} {s : State σ}
  {a : Action} {id : Nat}

namespace State

/-- Once the flush task has come to its end, it stays there. -/
theorem task_next_of_ended (htask : s.task = .ended) (henabled : s.enabled a = true) :
    (s.next B t a).task = .ended := by
  cases a with
  | call | proceed | expire | abandon => rw [task_next_of_caller B t s rfl, htask]
  | openReader | stop | pass => exact htask
  | start | leave | serve | tick => simp [enabled, htask] at henabled
  | work => simp [enabled, canWork, htask] at henabled

theorem task_acknowledge (s : State σ) (id : Nat) (result : Except SinkError Unit) :
    (s.acknowledge id result).task = s.task := by
  obtain ⟨_, hacknowledge⟩ := s.exists_acknowledge id result
  rw [hacknowledge]

/-- The flush task comes to its end by its last flush. -/
theorem task_work_eq_ended (h : (s.work B).task = .ended) :
    s.task = .ended ∨ s.task = .flushing .final ∧ (s.flushStep B .task).1.isSome := by
  unfold work at h
  cases htask : s.task with
  | flushing cause =>
    simp only [htask] at h
    obtain ⟨_, _, _, _, hflush⟩ := s.exists_flushStep B .task
    split at h
    · -- the batch is handed over, and the task goes on flushing
      rename_i s' hstep
      rw [hstep] at hflush
      subst hflush
      cases htask.symm.trans h
    · rename_i result s' hstep
      rw [hstep]
      cases cause with
      | tick => cases h
      | request c => cases (task_acknowledge _ _ _).symm.trans h
      | leftover c => cases (task_acknowledge _ _ _).symm.trans h
      | final => exact .inr ⟨rfl, rfl⟩
  | closing =>
    simp only [htask] at h
    split at h <;> cases h
  | absent | idle =>
    simp only [htask] at h
    cases h
  | ended => exact .inl rfl

theorem task_next_eq_ended (henabled : s.enabled a = true) (h : (s.next B t a).task = .ended) :
    s.task = .ended ∨
      a = .work ∧ s.task = .flushing .final ∧ (s.flushStep B .task).1.isSome := by
  cases a with
  | call | proceed | expire | abandon =>
    rw [task_next_of_caller B t s rfl] at h
    exact .inl h
  | openReader | stop | pass => exact .inl h
  | start | leave | tick => cases h
  | serve =>
    simp only [next] at h
    split at h
    · cases h
    · exact .inl h
  | work =>
    rcases task_work_eq_ended h with hended | hfinal
    · exact .inl hended
    · exact .inr ⟨rfl, hfinal⟩

end State

/-- Who waits for the end of the flush task waits, until the last flush is over. -/
structure Awaited (g : Closing) (s : State σ) : Prop where
  waits : ∀ id ∈ g.waiters, s.phase? id = some .waiting ∨ s.task = .ended
  flushed : s.task = .ended → g.final.isSome

namespace Awaited

/-- A caller that waits goes on when the flush task has come to its end. -/
theorem waits_next (hphase : s.phase? id = some .waiting) (henabled : s.enabled a = true)
    (habandon : a ≠ .abandon id) :
    (s.next B t a).phase? id = some .waiting ∨ (s.next B t a).task = .ended := by
  by_cases hown : a.caller? = some id
  · cases State.own_of_phase? hphase henabled hown with
    | proceed hcan => exact .inr (State.task_next_of_ended (beq_iff_eq.1 hcan) henabled)
    | expire hdeadline => cases hdeadline
    | abandon => exact absurd rfl habandon
  · obtain ⟨after, hafter, hreleased⟩ := State.exists_released (B := B) (t := t) hown hphase
    cases hreleased with
    | kept => exact .inl hafter

theorem next (h : Awaited g s) (henabled : s.enabled a = true) :
    Awaited (g.record B s a) (s.next B t a) := by
  refine ⟨fun id hid => ?_, fun hended => ?_⟩
  · by_cases hold : id ∈ g.waiters ∧ a ≠ .abandon id
    · obtain ⟨hmem, habandon⟩ := hold
      rcases h.waits id hmem with hphase | htask
      · exact waits_next hphase henabled habandon
      · exact .inr (State.task_next_of_ended htask henabled)
    · -- a new waiter
      cases a with
      | call c call =>
        cases call with
        | wait =>
          simp only [Closing.record] at hid
          split at hid
          · exact absurd ⟨hid, Action.noConfusion⟩ hold
          · rename_i htask
            rcases List.mem_cons.1 hid with rfl | hmem
            · left
              simp only [State.next, State.begin, if_neg htask]
              exact State.phase?_move_self s id _
            · exact absurd ⟨hmem, Action.noConfusion⟩ hold
        | write | flush | count | read => exact absurd ⟨hid, Action.noConfusion⟩ hold
      | abandon c =>
        obtain ⟨hmem, hne⟩ := List.mem_filter.1 hid
        refine absurd ⟨hmem, ?_⟩ hold
        rintro ⟨⟩
        simp at hne
      | proceed | expire | openReader | start | stop | leave | serve | tick | work | pass =>
        exact absurd ⟨hid, Action.noConfusion⟩ hold
  · rcases State.task_next_eq_ended henabled hended with htask | ⟨rfl, htask, hsome⟩
    · simp only [Closing.record, htask]
      exact h.flushed htask
    · simp only [Closing.record, htask]
      exact hsome

end Awaited

theorem ClosingRun.awaited (h : ClosingRun B t store g s) : Awaited g s := by
  induction h with
  | refl => exact ⟨fun _ hid => (nomatch hid), fun h => (nomatch h)⟩
  | step _ hstep ih =>
    obtain ⟨henabled, rfl⟩ := hstep
    exact ih.next henabled

/-- Who waits for the end of the flush task does not return before the last flush is over. -/
theorem wait_returns_after_final_flush (hrun : ClosingRun B t store g s) (hid : id ∈ g.waiters)
    {outcome : Outcome} (hphase : s.phase? id = some (.returned outcome)) :
    s.task = .ended ∧ g.final.isSome := by
  have hawaited := hrun.awaited
  rcases hawaited.waits id hid with hwaiting | hended
  · cases hwaiting.symm.trans hphase
  · exact ⟨hended, hawaited.flushed hended⟩

end SyslogCollector.Store.Writer
