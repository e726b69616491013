import SyslogCollector.Proofs.Writer.Conservation
/-!
# Where a point lies among the batches

Points have ranks: how many came into the buffer before. What was handed to the store and what
waits in the buffer make up one list (`State.history`) that only grows at its end, so a rank tells
the batch that a point went into (`Journal.Holds`). While a batch is under way the buffer is empty
(`Transit`); hence a flush that comes to its end leaves nothing behind (`State.Flushed`).
-/

namespace SyslogCollector.Store

/-- The batch number `k` of a journal is `c`, and it has the point of this rank. -/
structure Journal.Holds (j : Journal) (rank k : Nat) (c : Submission) : Prop where
  submission : j[k]? = some c
  start_le : (Journal.points (j.take k)).length ≤ rank
  lt_end : rank < (Journal.points (j.take k)).length + c.batch.length

namespace Journal

theorem Holds.lt_length {j : Journal} {rank k : Nat} {c : Submission} (h : j.Holds rank k c) :
    k < j.length :=
  (List.getElem?_eq_some_iff.1 h.submission).1

/-- The points up to the end of a batch. -/
theorem points_take_succ {j : Journal} {k : Nat} {c : Submission} (h : j[k]? = some c) :
    points (j.take (k + 1)) = points (j.take k) ++ c.batch := by
  rw [List.take_add_one, h, Option.toList_some, points_append, points_singleton]

theorem length_points_take_le (j : Journal) {m n : Nat} (h : m ≤ n) :
    (points (j.take m)).length ≤ (points (j.take n)).length := by
  obtain ⟨rest, hrest⟩ := List.take_prefix_take_left (l := j) h
  rw [← hrest, points_append, List.length_append]
  exact Nat.le_add_right _ _

/-- Only a point that was handed over is in a batch. -/
theorem Holds.rank_lt {j : Journal} {rank k : Nat} {c : Submission} (h : j.Holds rank k c) :
    rank < j.points.length := by
  have hend := h.lt_end
  rw [← List.length_append, ← points_take_succ h.submission] at hend
  have hle := length_points_take_le j h.lt_length
  rw [List.take_length] at hle
  exact Nat.lt_of_lt_of_le hend hle

/-- The point of a rank is in the batch. -/
theorem Holds.mem_batch {j : Journal} {rank k : Nat} {c : Submission} {p : Point}
    (h : j.Holds rank k c) (hpoint : j.points[rank]? = some p) : p ∈ c.batch := by
  have hall : j.points = points (j.take (k + 1)) ++ points (j.drop (k + 1)) := by
    rw [← points_append, List.take_append_drop]
  have hend : rank < (points (j.take (k + 1))).length := by
    rw [points_take_succ h.submission, List.length_append]
    exact h.lt_end
  rw [hall, List.getElem?_append_left hend, points_take_succ h.submission,
    List.getElem?_append_right h.start_le] at hpoint
  exact List.mem_of_getElem? hpoint

theorem Holds.le {j : Journal} {rank k k' : Nat} {c c' : Submission} (h : j.Holds rank k c)
    (h' : j.Holds rank k' c') : k ≤ k' := by
  refine Nat.le_of_not_lt fun hlt => ?_
  -- the later batch would end before the earlier one begins
  have hend := h'.lt_end
  rw [← List.length_append, ← points_take_succ h'.submission] at hend
  exact absurd (Nat.lt_of_lt_of_le hend (length_points_take_le j hlt)) (Nat.not_lt.2 h.start_le)

/-- A point is in one batch only. -/
theorem Holds.unique {j : Journal} {rank k k' : Nat} {c c' : Submission} (h : j.Holds rank k c)
    (h' : j.Holds rank k' c') : k = k' ∧ c = c' := by
  obtain rfl := Nat.le_antisymm (h.le h') (h'.le h)
  exact ⟨rfl, Option.some.inj (h.submission.symm.trans h'.submission)⟩

/-- Later batches do not change where a point lies. -/
theorem Holds.append {j : Journal} {rank k : Nat} {c : Submission} (h : j.Holds rank k c)
    (later : Journal) : (j ++ later).Holds rank k c := by
  have hk := h.lt_length
  have htake : (j ++ later).take k = j.take k := List.take_append_of_le_length (Nat.le_of_lt hk)
  refine ⟨?_, ?_, ?_⟩
  · rw [List.getElem?_append_left hk]
    exact h.submission
  · rw [htake]
    exact h.start_le
  · rw [htake]
    exact h.lt_end

/-- A point in one batch more lies where it lay, or in the last batch. -/
theorem Holds.of_concat {j : Journal} {rank k : Nat} {c last : Submission}
    (h : (j ++ [last]).Holds rank k c) : j.Holds rank k c ∨ k = j.length := by
  rcases Nat.lt_or_ge k j.length with hk | hk
  · have htake : (j ++ [last]).take k = j.take k :=
      List.take_append_of_le_length (Nat.le_of_lt hk)
    refine .inl ⟨?_, ?_, ?_⟩
    · rw [← List.getElem?_append_left hk]
      exact h.submission
    · rw [← htake]
      exact h.start_le
    · rw [← htake]
      exact h.lt_end
  · have hlt := h.lt_length
    rw [List.length_append, List.length_singleton] at hlt
    exact .inr (by omega)

/-- Every point that was handed over is in a batch. -/
theorem exists_holds {j : Journal} {rank : Nat} (h : rank < j.points.length) :
    ∃ k c, j.Holds rank k c := by
  induction j generalizing rank with
  | nil => exact absurd h (Nat.not_lt_zero _)
  | cons first rest ih =>
    have hpoints (k : Journal) : points (first :: k) = first.batch ++ points k := rfl
    rw [hpoints, List.length_append] at h
    rcases Nat.lt_or_ge rank first.batch.length with hlt | hge
    · exact ⟨0, first, rfl, Nat.zero_le _, Nat.lt_of_lt_of_eq hlt (Nat.zero_add _).symm⟩
    · -- the rank among the points of the other batches
      obtain ⟨k, c, hholds⟩ := @ih (rank - first.batch.length) (by omega)
      have hstart := hholds.start_le
      have hend := hholds.lt_end
      refine ⟨k + 1, c, hholds.submission, ?_, ?_⟩ <;>
        rw [List.take_succ_cons, hpoints, List.length_append] <;> omega

end Journal

namespace Writer

namespace State

variable {σ : Type}

/-- All points that came into the buffer, in their order. -/
def history (s : State (σ × Journal)) : List Point :=
  s.store.2.points ++ s.buffer.toList

/-- A producer that puts its point into the buffer adds it to the history. -/
theorem history_next_of_pushing {B : Backend (σ × Journal)} {t : Tuning} {s : State (σ × Journal)}
    {id : Nat} {p : Point} (hphase : s.phase? id = some (.pushing p)) :
    (s.next B t (.proceed id)).history = s.history ++ [p] := by
  simp only [next, hphase, proceed]
  change s.store.2.points ++ (s.buffer.push p).toList = _
  rw [Array.toList_push, ← List.append_assoc]
  rfl

/-- A step leaves the journal, or hands the points of the free buffer over as its last batch. -/
theorem journal_next {B : Backend σ} {t : Tuning} {s : State (σ × Journal)} {a : Action}
    (henabled : s.enabled a = true) :
    (s.next B.journaled t a).store.2 = s.store.2 ∨
      s.flight = none ∧ ∃ f, (s.next B.journaled t a).flight = some f ∧
        (s.next B.journaled t a).store.2 = s.store.2 ++ [f.submission] := by
  have hflow := flow_next (B := B.journaled) (t := t) henabled
  generalize s.next B.journaled t a = s' at hflow ⊢
  cases hflow with
  | kept _ hpipe | pushed _ _ hpipe | counted _ hpipe | answered _ _ _ hpipe | cut _ _ _ hpipe =>
    exact .inl (congrArg (fun p => p.store.2) hpipe)
  | queried q _ hpipe => exact .inl (congrArg (fun p => p.store.2) hpipe)
  | submitted _ hfree _ => exact .inr ⟨hfree, _, rfl, rfl⟩

/-- The history only grows at its end. -/
theorem history_next {B : Backend σ} {t : Tuning} {s : State (σ × Journal)} {a : Action}
    (henabled : s.enabled a = true) : s.history <+: (s.next B.journaled t a).history := by
  have hflow := flow_next (B := B.journaled) (t := t) henabled
  generalize s.next B.journaled t a = s' at hflow ⊢
  have hsame (hstore : s'.store.2 = s.store.2) (hbuffer : s'.buffer = s.buffer) :
      s.history <+: s'.history := by
    have hhistory : s'.history = s.history := by rw [history, history, hstore, hbuffer]
    exact hhistory ▸ List.prefix_rfl
  cases hflow with
  | kept _ hpipe | counted _ hpipe | answered _ _ _ hpipe | cut _ _ _ hpipe | queried _ _ hpipe =>
    exact hsame (congrArg (fun p => p.store.2) hpipe) (congrArg Pipe.buffer hpipe)
  | @pushed id p _ _ _ hpipe =>
    have hstore : s'.store = s.store := congrArg Pipe.store hpipe
    have hbuffer : s'.buffer = s.buffer.push p := congrArg Pipe.buffer hpipe
    rw [history, history, hstore, hbuffer, Array.toList_push, ← List.append_assoc]
    exact List.prefix_append _ _
  | submitted _ hfree _ =>
    -- the points of the buffer are now those of the last batch
    change _ <+: Journal.points (s.store.2 ++ [_]) ++ []
    rw [Journal.points_append, Journal.points_singleton, List.append_nil]
    exact List.prefix_rfl

/-- A point keeps its rank. -/
theorem getElem?_history_next {B : Backend σ} {t : Tuning} {s : State (σ × Journal)} {a : Action}
    {rank : Nat} {p : Point} (henabled : s.enabled a = true) (h : s.history[rank]? = some p) :
    (s.next B.journaled t a).history[rank]? = some p := by
  obtain ⟨hlt, hget⟩ := List.getElem?_eq_some_iff.1 h
  rw [List.prefix_iff_getElem?.1 (history_next henabled) rank hlt, hget]

/-- A flush has come to its end by a step, with a result: the buffer was empty, or the store has
answered the batch under way. -/
structure Flushed (s s' : State σ) (result : Except SinkError Unit) : Prop where
  store : s'.store = s.store
  buffer : s'.buffer = s.buffer
  result : s.flight = none ∧ s.buffer = #[] ∧ result = .ok () ∨
    ∃ f, s.flight = some f ∧ f.answer.result? = some result

theorem Flushed.of_flushStep {B : Backend σ} {s s₁ s' : State σ} {party : Party}
    {result : Except SinkError Unit} (h : FlushStep B s party (some result) s₁)
    (hstore : s'.store = s₁.store) (hbuffer : s'.buffer = s₁.buffer) : s.Flushed s' result := by
  cases h with
  | nothing hfree hempty => exact ⟨hstore, hbuffer, .inl ⟨hfree, hempty, rfl⟩⟩
  | answered hflight _ hresult => exact ⟨hstore, hbuffer, .inr ⟨_, hflight, hresult⟩⟩

/-- The flush of a caller that returns by a step of its own has come to its end. -/
theorem flushed_of_own {B : Backend σ} {t : Tuning} {s : State σ} {id : Nat}
    {deadline : Option Moment} {outcome : Outcome} (henabled : s.enabled (.proceed id) = true)
    (hphase : s.phase? id = some (.flushing deadline .result))
    (hafter : (s.next B t (.proceed id)).phase? id = some (.returned outcome)) :
    ∃ result, outcome = .done result ∧ s.Flushed (s.next B t (.proceed id)) result := by
  have hcan : s.canFlush (.caller id) = true := by
    simpa [State.enabled, hphase, canProceed] using henabled
  have hflush := flushStep_of_canFlush (B := B) hcan
  simp only [next, hphase, proceed] at hafter ⊢
  rcases hstep : s.flushStep B (.caller id) with ⟨_ | result, s₁⟩ <;> rw [hstep] at hafter hflush
  · -- a batch was handed over, so the caller is still at its flush
    rw [← phase?_flushStep B s (.caller id), hstep] at hphase
    cases hphase.symm.trans hafter
  · cases (phase?_finish_self s₁ id _).symm.trans hafter
    exact ⟨result, rfl, .of_flushStep hflush rfl rfl⟩

/-- A caller that an answer lets return gets this answer. -/
theorem outcome_of_acknowledge {s : State σ} {id c : Nat} {deadline : Moment} {outcome : Outcome}
    {result : Except SinkError Unit} (hphase : s.phase? id = some (.awaiting deadline))
    (hafter : (s.acknowledge c result).phase? id = some (.returned outcome)) :
    outcome = .done result := by
  unfold acknowledge at hafter
  split at hafter
  · by_cases hc : id = c
    · subst hc
      cases (phase?_finish_self s id _).symm.trans hafter
      rfl
    · rw [phase?_finish_of_ne hc, hphase] at hafter
      cases hafter
  · cases hphase.symm.trans hafter

theorem outcome_of_afterTaskFlush {s : State σ} {id : Nat} {deadline : Moment} {outcome : Outcome}
    {result : Except SinkError Unit} {cause : Cause}
    (hphase : s.phase? id = some (.awaiting deadline))
    (hafter : (s.afterTaskFlush result cause).phase? id = some (.returned outcome)) :
    outcome = .done result := by
  cases cause with
  | tick => cases hphase.symm.trans hafter
  | request c => exact outcome_of_acknowledge (s := { s with task := .idle }) hphase hafter
  | leftover c => exact outcome_of_acknowledge (s := { s with task := .closing }) hphase hafter
  | final =>
    -- at its end the task answers nobody
    change s.endTask.phase? id = _ at hafter
    rw [phase?_endTask, hphase, Option.map_some, Phase.afterEnd] at hafter
    split at hafter <;> cases hafter

/-- An answer to a request comes at the end of a flush. -/
theorem flushed_of_answered {B : Backend σ} {t : Tuning} {s : State σ} {a : Action} {id : Nat}
    {deadline : Moment} {outcome : Outcome} (henabled : s.enabled a = true)
    (hown : a.caller? ≠ some id) (hphase : s.phase? id = some (.awaiting deadline))
    (hafter : (s.next B t a).phase? id = some (.returned outcome)) :
    ∃ result, outcome = .done result ∧ s.Flushed (s.next B t a) result := by
  by_cases hwork : a = .work
  case neg =>
    rw [phase?_next_of_ne B t s hown hwork, hphase] at hafter
    cases hafter
  subst hwork
  simp only [next, work] at hafter ⊢
  cases htask : s.task with
  | flushing cause =>
    have hcan : s.canFlush .task = true := by simpa [State.enabled, canWork, htask] using henabled
    have hflush := flushStep_of_canFlush (B := B) hcan
    rw [← phase?_flushStep B s .task] at hphase
    simp only [htask] at hafter
    rcases hstep : s.flushStep B .task with ⟨_ | result, s₁⟩ <;>
      rw [hstep] at hafter hflush hphase <;> dsimp only at hafter hphase ⊢
    · cases hphase.symm.trans hafter
    · -- only the answer to its own request lets the caller return
      obtain ⟨requests, task, callers, hrest⟩ := exists_afterTaskFlush s₁ result cause
      refine ⟨result, outcome_of_afterTaskFlush hphase hafter, .of_flushStep hflush ?_ ?_⟩ <;>
        rw [hrest]
  | closing =>
    simp only [htask] at hafter
    split at hafter <;> cases hphase.symm.trans hafter
  | absent | idle | ended =>
    simp only [htask] at hafter
    cases hphase.symm.trans hafter

end State

/-- While a batch is under way the buffer is empty, and the batch is the last of the journal. -/
structure Transit {σ : Type} (s : State (σ × Journal)) : Prop where
  empty : s.flight ≠ none → s.buffer = #[]
  last : ∀ f, s.flight = some f → s.store.2.getLast? = some f.submission

namespace Transit

variable {σ : Type} {s s' : State (σ × Journal)}

theorem initial (store : σ) : Transit { store := (store, []) } where
  empty h := absurd rfl h
  last _ h := nomatch h

/-- A step that hands nothing over, and puts nothing into the buffer while a batch is under way. -/
theorem keep (h : Transit s) (hstore : s'.store.2 = s.store.2) (hbuffer : s'.buffer = s.buffer)
    (hflight : s'.flight = none ∨ s'.flight = s.flight) : Transit s' := by
  rcases hflight with hnone | hsame
  · exact ⟨fun hne => absurd hnone hne, fun f hf => nomatch hnone.symm.trans hf⟩
  · refine ⟨fun hne => ?_, fun f hf => ?_⟩
    · rw [hbuffer]
      exact h.empty (hsame ▸ hne)
    · rw [hstore]
      exact h.last f (hsame ▸ hf)

theorem next {B : Backend σ} {t : Tuning} {a : Action} (h : Transit s)
    (henabled : s.enabled a = true) : Transit (s.next B.journaled t a) := by
  have hflow := State.flow_next (B := B.journaled) (t := t) henabled
  generalize s.next B.journaled t a = s' at hflow ⊢
  cases hflow with
  | kept _ hpipe | counted _ hpipe | queried _ _ hpipe =>
    exact h.keep (congrArg (fun p => p.store.2) hpipe) (congrArg Pipe.buffer hpipe)
      (.inr (congrArg Pipe.flight hpipe))
  | answered _ _ _ hpipe | cut _ _ _ hpipe =>
    exact h.keep (congrArg (fun p => p.store.2) hpipe) (congrArg Pipe.buffer hpipe)
      (.inl (congrArg Pipe.flight hpipe))
  | pushed _ hfree hpipe =>
    have hflight : _ = none := (congrArg Pipe.flight hpipe).trans hfree
    exact ⟨fun hne => absurd hflight hne, fun f hf => nomatch hflight.symm.trans hf⟩
  | submitted =>
    refine ⟨fun _ => rfl, fun f hf => ?_⟩
    cases hf
    exact List.getLast?_concat

/-- When a flush has come to its end, nothing is left in the buffer. -/
theorem buffer_of_flushed {result : Except SinkError Unit} (h : Transit s)
    (hflushed : s.Flushed s' result) : s'.buffer = #[] := by
  rw [hflushed.buffer]
  rcases hflushed.result with ⟨-, hempty, -⟩ | ⟨f, hflight, -⟩
  · exact hempty
  · exact h.empty (by simp [hflight])

/-- A flush that a caller asked for goes on, or returns and leaves the buffer empty. -/
theorem flush_next {B : Backend σ} {t : Tuning} {a : Action} {id : Nat} (h : Transit s)
    (henabled : s.enabled a = true) (habandon : a ≠ .abandon id)
    (hphase : s.phase? id = some (.flushing none .result)) :
    (s.next B.journaled t a).phase? id = some (.flushing none .result) ∨
      (∃ outcome, (s.next B.journaled t a).phase? id = some (.returned outcome)) ∧
        (s.next B.journaled t a).buffer = #[] := by
  by_cases hown : a.caller? = some id
  case neg => exact .inl (State.phase?_of_flushing hown hphase)
  cases State.own_of_phase? hphase henabled hown with
  | expire hdeadline => cases hdeadline
  | abandon => exact absurd rfl habandon
  | proceed =>
    obtain ⟨_, after, hphase', hafter, hnext⟩ := State.exists_next_proceed B.journaled t henabled
    cases hphase.symm.trans hphase'
    cases hnext with
    | submitted => exact .inl hafter
    | flushed =>
      obtain ⟨result, -, hflushed⟩ := State.flushed_of_own henabled hphase hafter
      exact .inr ⟨⟨_, hafter⟩, h.buffer_of_flushed hflushed⟩

end Transit

/-- While nobody waits to put a point into it, the empty buffer stays empty. -/
theorem State.buffer_next_of_empty {σ : Type} {B : Backend σ} {t : Tuning} {s : State σ}
    {a : Action} (henabled : s.enabled a = true) (hempty : s.buffer = #[])
    (hnobody : ∀ id p, s.phase? id ≠ some (.pushing p)) : (s.next B t a).buffer = #[] := by
  have hflow := State.flow_next (B := B) (t := t) henabled
  generalize s.next B t a = s' at hflow ⊢
  cases hflow with
  | kept _ hpipe | counted _ hpipe | answered _ _ _ hpipe | cut _ _ _ hpipe | queried _ _ hpipe =>
    exact (congrArg Pipe.buffer hpipe).trans hempty
  | pushed hphase => exact absurd hphase (hnobody _ _)
  | submitted => rfl

theorem Run.transit {σ : Type} {B : Backend σ} {t : Tuning} {store : σ} {l : Ledger}
    {s : State (σ × Journal)} (h : Run B.journaled t { store := (store, []) } l s) : Transit s := by
  induction h with
  | refl => exact .initial store
  | step _ hstep ih =>
    obtain ⟨henabled, rfl⟩ := hstep
    exact ih.next henabled

end Writer

end SyslogCollector.Store
