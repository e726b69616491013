import SyslogCollector.Proofs.Hub.Callers
/-!
# How full the mailbox is

A caller takes its room in the mailbox when it is admitted, and its command keeps it until the
dispatch task comes to it. The load of the mailbox therefore goes over the commands that wait and
the callers that are admitted (`State.mailboxLoad_eq`); only a message that is written and a caller
that is admitted add to it, and they do so where there is room (`State.mailboxLoad_next_le`).
-/

namespace SyslogCollector.Hub

/-- Whether a caller has got room in the mailbox and not posted its command. -/
def Phase.isAdmitted : Phase → Bool
  | .admitted _ => true
  | _ => false

namespace State

/-- How many callers have got room in the mailbox and not posted their commands. -/
def admittedCount (s : State) : Nat := s.callers.countP (·.2.isAdmitted)

variable {s : State} {id : Nat}

theorem mailboxLoad_eq (s : State) : s.mailboxLoad = s.mailbox.length + s.admittedCount := by
  refine congrArg (_ + ·) (List.countP_congr fun ⟨id, phase⟩ _ => ?_)
  cases phase <;> rfl

/-- Somebody who is admitted counts. -/
theorem exists_admitted (hkeys : (s.callers.map Prod.fst).Nodup) (h : 0 < s.admittedCount) :
    ∃ n c, s.phase? n = some (.admitted c) := by
  obtain ⟨⟨n, phase⟩, hmem, hadmitted⟩ := List.countP_pos_iff.1 h
  have hphase : s.phase? n = some phase := Numbered.lookup_eq_some_of_mem hkeys hmem
  cases phase with
  | admitted c => exact ⟨n, c, hphase⟩
  | _ => cases hadmitted

/-! ### Who is admitted -/

/-- To move a caller anywhere else than to its admission admits nobody. -/
theorem admittedCount_move_le (s : State) (id : Nat) (phase : Phase)
    (hphase : phase.isAdmitted = false) : (s.move id phase).admittedCount ≤ s.admittedCount := by
  have hcallers := Numbered.countP_assign_le Phase.isAdmitted id phase s.callers
  rwa [if_neg (by simp [hphase])] at hcallers

theorem admittedCount_begin_le (s : State) (id : Nat) (call : Call) :
    (s.begin id call).admittedCount ≤ s.admittedCount := by
  cases call with
  | wait =>
    simp only [begin]
    split <;> exact s.admittedCount_move_le id _ rfl
  | subscribe k =>
    exact admittedCount_move_le
      { s with subscribers := Numbered.assign id (.withCapacity k) s.subscribers } id _ rfl
  | unsubscribe | count => exact s.admittedCount_move_le id _ rfl

theorem admittedCount_abandon_le (s : State) (id : Nat) :
    (s.abandon id).admittedCount ≤ s.admittedCount := by
  have hcallers : (s.abandon id).callers = Numbered.erase id s.callers := by
    simp only [abandon]
    split <;> rfl
  rw [admittedCount, hcallers]
  exact List.filter_sublist.countP_le

theorem admittedCount_perform_le (s : State) (command : Command) :
    (s.perform command).admittedCount ≤ s.admittedCount := by
  obtain ⟨t, hcallers, hperform⟩ := s.exists_perform_eq command
  have hsame : t.admittedCount = s.admittedCount := by rw [admittedCount, hcallers, admittedCount]
  rw [hperform, ← hsame]
  split
  · rename_i id _
    unfold acknowledge
    split
    · exact t.admittedCount_move_le id _ rfl
    · exact Nat.le_refl _
  · exact Nat.le_refl _

theorem admittedCount_discard_le (s : State) : s.discard.admittedCount ≤ s.admittedCount := by
  have hfold (ids : List Nat) (t : State) :
      (ids.foldl (fun s id => s.fail id .stopped) t).admittedCount ≤ t.admittedCount := by
    induction ids generalizing t with
    | nil => exact Nat.le_refl _
    | cons id rest ih =>
      exact Nat.le_trans (ih _) ((t.modify id Subscriber.leave).admittedCount_move_le id _ rfl)
  exact hfold _ { s with mailbox := [] }

/-- A caller that posts its command is not admitted any more. -/
theorem admittedCount_next_lt {c : Command} (hphase : s.phase? id = some (.admitted c)) :
    (s.next (.proceed id)).admittedCount < s.admittedCount := by
  simp only [next, hphase, proceed]
  cases c <;> exact Numbered.countP_assign_lt_of_lookup hphase rfl rfl

/-- Nobody is admitted but a caller that goes on. -/
theorem admittedCount_next_le (s : State) {a : Action} (ha : ∀ id, a ≠ .proceed id) :
    (s.next a).admittedCount ≤ s.admittedCount := by
  cases a with
  | write m =>
    simp only [next, write]
    split <;> exact Nat.le_refl _
  | call id call => exact s.admittedCount_begin_le id call
  | proceed id => exact absurd rfl (ha id)
  | abandon id => exact s.admittedCount_abandon_le id
  | handle =>
    simp only [next]
    split
    · rename_i command rest _
      exact admittedCount_perform_le { s with mailbox := rest } command
    · exact Nat.le_refl _
  | conclude => exact admittedCount_discard_le { s with task := .ended }
  | _ => exact Nat.le_refl _

/-! ### How much room is taken -/

/-- A caller is admitted only while there is room, and its command takes the room that it had. -/
theorem mailboxLoad_proceed_le {phase : Phase} (h : s.mailboxLoad ≤ s.mailboxLimit)
    (hphase : s.phase? id = some phase) (hcan : s.canProceed phase = true) :
    (s.proceed id phase).mailboxLoad ≤ s.mailboxLimit := by
  rw [mailboxLoad_eq] at h ⊢
  cases phase with
  | posting c =>
    simp only [proceed]
    split
    · rename_i hopen
      have hroom : s.mailboxLoad < s.mailboxLimit := by
        simpa [canProceed, hopen, isFull] using hcan
      have hcallers : (s.move id (.admitted c)).admittedCount ≤ s.admittedCount + 1 :=
        Numbered.countP_assign_le Phase.isAdmitted id (.admitted c) s.callers
      rw [mailboxLoad_eq] at hroom
      exact Nat.le_trans (Nat.add_le_add_left hcallers _) hroom
    · have hcallers := (s.modify id Subscriber.leave).admittedCount_move_le id
        (.returned (.failed .stopped)) rfl
      exact Nat.le_trans (Nat.add_le_add_left hcallers _) h
  | admitted c =>
    have hcallers := admittedCount_next_lt hphase
    have hmailbox := mailbox_next_of_admitted hphase
    simp only [next, hphase] at hcallers hmailbox
    rw [hmailbox, List.length_append, List.length_singleton]
    omega
  | waiting =>
    have hcallers := s.admittedCount_move_le id (.returned .done) rfl
    exact Nat.le_trans (Nat.add_le_add_left hcallers _) h
  | awaiting | returned => exact h

/-- Nobody takes room where there is none. -/
theorem mailboxLoad_next_le {a : Action} (henabled : s.enabled a = true)
    (h : s.mailboxLoad ≤ s.mailboxLimit) : (s.next a).mailboxLoad ≤ s.mailboxLimit := by
  by_cases hproceed : ∃ id, a = .proceed id
  · obtain ⟨id, rfl⟩ := hproceed
    obtain ⟨phase, hphase, hcan⟩ := (Option.any_eq_true _ _).1 henabled
    simp only [next, hphase]
    exact mailboxLoad_proceed_le h hphase hcan
  · have hcallers := s.admittedCount_next_le fun id ha => hproceed ⟨id, ha⟩
    have hload := h
    rw [mailboxLoad_eq] at hload ⊢
    have hflow := mailFlow_next henabled
    generalize hnext : s.next a = s' at hflow hcallers ⊢
    cases hflow with
    | kept _ hmailbox =>
      rw [hmailbox]
      exact Nat.le_trans (Nat.add_le_add_left hcallers _) hload
    | @written m _ _ hmailbox =>
      -- a message that finds no room is not posted
      have hroom : s.isFull = false := by
        by_contra hfull
        have hsame : s'.mailbox = s.mailbox := by
          rw [← hnext]
          simp only [next, write]
          rw [if_neg (by simp [hfull])]
        simp [hmailbox] at hsame
      rw [isFull, decide_eq_false_iff_not, Nat.not_le, mailboxLoad_eq] at hroom
      rw [hmailbox, List.length_append, List.length_singleton]
      omega
    | @posted id _ _ hphase => exact absurd ⟨id, rfl⟩ hproceed
    | handled hmailbox =>
      rw [hmailbox, List.length_cons] at hload
      omega
    | cleared hmailbox =>
      rw [hmailbox]
      exact Nat.le_trans (Nat.add_le_add_left hcallers _)
        (Nat.le_trans (Nat.add_le_add_right (Nat.zero_le _) _) hload)

end State

end SyslogCollector.Hub
