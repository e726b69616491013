import SyslogCollector.Proofs.Writer.Phase
/-!
# How many requests wait

A producer that wants a flush forced waits for room before it makes its request, so no more requests
wait than there is room for (`Reachable.requests_le`). A request takes its room when its producer is
admitted, and keeps it until the flush task takes the request. The count therefore goes over both
the requests and the producers that are admitted (`State.requestCount`); only an admission adds to
it.
-/

namespace SyslogCollector.Store.Writer

/-- Whether a caller has got room among the requests and not made its request. -/
def Phase.isAdmitted : Phase → Bool
  | .admitted _ => true
  | _ => false

namespace State

variable {σ : Type} {B : Backend σ} {t : Tuning} {s : State σ} {a : Action} {id limit : Nat}

theorem requestCount_eq (s : State σ) :
    s.requestCount = s.requests.length + s.callers.countP (·.2.isAdmitted) := by
  refine congrArg (_ + ·) (List.countP_congr fun ⟨id, phase⟩ _ => ?_)
  cases phase <;> rfl

/-- To move a caller anywhere else than to its admission does not add to the requests. -/
theorem requestCount_move_le {phase : Phase} (h : s.requestCount ≤ limit)
    (hphase : phase.isAdmitted = false) : (s.move id phase).requestCount ≤ limit := by
  have hcallers := Numbered.countP_assign_le Phase.isAdmitted id phase s.callers
  rw [if_neg (by simp [hphase])] at hcallers
  rw [requestCount_eq] at h ⊢
  exact Nat.le_trans (Nat.add_le_add_left hcallers _) h

theorem requestCount_begin_le (h : s.requestCount ≤ limit) (id : Nat) (call : Call) :
    (s.begin id call).requestCount ≤ limit := by
  cases call with
  | write m received =>
    simp only [begin]
    split <;> exact requestCount_move_le h rfl
  | flush | count => exact requestCount_move_le h rfl
  | read reader =>
    simp only [begin]
    split
    · split <;> exact requestCount_move_le h rfl
    · exact requestCount_move_le h rfl
    · exact requestCount_move_le h rfl
  | wait =>
    simp only [begin]
    split <;> exact requestCount_move_le h rfl

theorem requestCount_flushStep_le (h : s.requestCount ≤ limit) (B : Backend σ) (party : Party) :
    (s.flushStep B party).2.requestCount ≤ limit := by
  obtain ⟨_, _, _, _, hflush⟩ := s.exists_flushStep B party
  rw [hflush]
  exact h

/-- A caller is admitted only while there is room. -/
theorem requestCount_proceed_le {phase : Phase} (h : s.requestCount ≤ requestLimit)
    (hphase : s.phase? id = some phase) (hcan : s.canProceed id phase = true) :
    (s.proceed B t id phase).requestCount ≤ requestLimit := by
  cases phase with
  | pushing p => exact requestCount_move_le h rfl
  | pushed size =>
    simp only [proceed, afterPush]
    split
    · exact requestCount_move_le h rfl
    · split <;> exact requestCount_move_le h rfl
  | requesting deadline =>
    simp only [proceed]
    split
    · rename_i haccepting
      have hroom : s.requestCount < requestLimit := by simpa [canProceed, haccepting] using hcan
      have hcallers := Numbered.countP_assign_le Phase.isAdmitted id (.admitted deadline) s.callers
      rw [requestCount_eq] at hroom ⊢
      exact Nat.le_trans (Nat.add_le_add_left hcallers _) hroom
    · exact requestCount_move_le h rfl
  | admitted deadline =>
    -- the request takes the room that its caller had
    have hcallers : (Numbered.assign id (.awaiting deadline) s.callers).countP (·.2.isAdmitted) <
        s.callers.countP (·.2.isAdmitted) :=
      Numbered.countP_assign_lt_of_lookup hphase rfl rfl
    rw [requestCount_eq] at h ⊢
    simp only [proceed, move, List.length_append, List.length_singleton]
    omega
  | flushing deadline purpose =>
    have hflushed := requestCount_flushStep_le h B (.caller id)
    simp only [proceed]
    split
    · exact hflushed
    · exact requestCount_move_le hflushed rfl
    · exact requestCount_move_le hflushed rfl
  | querying reader =>
    simp only [proceed, sendQuery]
    split
    · split <;> exact requestCount_move_le h rfl
    · exact requestCount_move_le h rfl
  | counting | waiting => exact requestCount_move_le h rfl
  | awaiting | returned => exact h

theorem requestCount_release (s : State σ) (id : Nat) :
    (s.release id).requestCount = s.requestCount := by
  obtain ⟨_, hrelease⟩ := s.exists_release id
  rw [hrelease]
  rfl

theorem requestCount_abandon_le (h : s.requestCount ≤ limit) :
    (s.abandon id).requestCount ≤ limit := by
  rw [← requestCount_release s id] at h
  rw [requestCount_eq] at h ⊢
  exact Nat.le_trans (Nat.add_le_add_left List.filter_sublist.countP_le _) h

theorem requestCount_acknowledge_le (h : s.requestCount ≤ limit) (result : Except SinkError Unit) :
    (s.acknowledge id result).requestCount ≤ limit := by
  unfold acknowledge
  split
  · exact requestCount_move_le h rfl
  · exact h

/-- At the end of the task its requests are dropped, and nobody is admitted. -/
theorem requestCount_endTask_le (h : s.requestCount ≤ limit) :
    s.endTask.requestCount ≤ limit := by
  have hcallers : s.endTask.callers.countP (·.2.isAdmitted) =
      s.callers.countP (·.2.isAdmitted) := by
    rw [endTask, List.countP_map]
    refine List.countP_congr fun ⟨id, phase⟩ _ => ?_
    cases phase with
    | awaiting deadline => by_cases hleft : id ∈ s.requests <;> simp [Phase.isAdmitted, hleft]
    | _ => rfl
  rw [requestCount_eq] at h ⊢
  rw [hcallers]
  exact Nat.le_trans (Nat.add_le_add_right (Nat.zero_le _) _) h

theorem requestCount_afterTaskFlush_le (h : s.requestCount ≤ limit)
    (result : Except SinkError Unit) (cause : Cause) :
    (s.afterTaskFlush result cause).requestCount ≤ limit := by
  cases cause with
  | tick => exact h
  | request id => exact requestCount_acknowledge_le (s := { s with task := .idle }) h result
  | leftover id => exact requestCount_acknowledge_le (s := { s with task := .closing }) h result
  | final => exact requestCount_endTask_le h

/-- The flush task only takes from the requests. -/
theorem requestCount_take_le (h : s.requestCount ≤ limit) {rest : List Nat}
    (hrequests : s.requests = id :: rest) (task : Task) :
    State.requestCount { s with requests := rest, task } ≤ limit := by
  rw [requestCount_eq] at h ⊢
  rw [hrequests, List.length_cons] at h
  exact Nat.le_trans (Nat.add_le_add_right (Nat.le_succ _) _) h

theorem requestCount_work_le (h : s.requestCount ≤ limit) (B : Backend σ) :
    (s.work B).requestCount ≤ limit := by
  unfold work
  split
  case h_1 cause _ =>
    have hflushed := requestCount_flushStep_le h B .task
    split
    case h_1 s' hnone =>
      rw [hnone] at hflushed
      exact hflushed
    case h_2 result s' hsome =>
      rw [hsome] at hflushed
      exact requestCount_afterTaskFlush_le hflushed result cause
  case h_2 =>
    split
    · rename_i hrequests
      exact requestCount_take_le h hrequests _
    · exact h
  case h_3 => exact h

/-- No step makes more requests wait than there is room for. -/
theorem requestCount_next_le (h : s.requestCount ≤ requestLimit) (henabled : s.enabled a = true) :
    (s.next B t a).requestCount ≤ requestLimit := by
  cases a with
  | call id call => exact requestCount_begin_le h id call
  | proceed id =>
    obtain ⟨phase, hphase, hcan⟩ := (Option.any_eq_true _ _).1 henabled
    simp only [next, hphase]
    exact requestCount_proceed_le h hphase hcan
  | expire id =>
    rw [← requestCount_release s id] at h
    exact requestCount_move_le h rfl
  | abandon id => exact requestCount_abandon_le h
  | serve =>
    simp only [next]
    split
    · rename_i hrequests
      exact requestCount_take_le h hrequests _
    · exact h
  | work => exact requestCount_work_le h B
  | openReader | start | stop | leave | tick | pass => exact h

/-- Whatever happens to a writer, no more requests wait than there is room for. -/
theorem Reachable.requests_le {store : σ} (h : Reachable B t { store } s) :
    s.requests.length ≤ requestLimit := by
  have hcount : s.requestCount ≤ requestLimit := by
    induction h with
    | refl => exact Nat.zero_le _
    | step _ hstep ih =>
      obtain ⟨henabled, rfl⟩ := hstep
      exact requestCount_next_le ih henabled
  exact Nat.le_trans (Nat.le_add_right _ _) hcount

end State

end SyslogCollector.Store.Writer
