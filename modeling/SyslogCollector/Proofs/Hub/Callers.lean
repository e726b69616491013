import SyslogCollector.Proofs.Hub.Stream
/-!
# Where a caller stands

What a step does to the caller of one call (`Turn`): its call begins, it gets room for its command
or is refused, it posts the command, it is answered by the dispatch task or learns that there will
be no answer, it has waited to the end, or it is gone. No other step moves it.
-/

namespace SyslogCollector.Hub

/-- The command that a call posts, if it posts one. -/
def Call.command? (id : Nat) : Call → Option Command
  | .subscribe _ => some (.register id)
  | .unsubscribe subscriber => some (.unregister subscriber)
  | .count => some (.count id)
  | .wait => none

/-- The caller that waits for the answer to a command, if there is one. -/
def Command.asker? : Command → Option Nat
  | .register id | .count id => some id
  | .unregister _ | .broadcast _ => none

namespace State

/-- The answer of the dispatch task to a command. -/
def answer (s : State) : Command → Outcome
  | .register _ =>
    if s.limits.maxSubscribers ≤ s.registered.length then
      .failed (.maxSubscribers s.limits.maxSubscribers)
    else .done
  | .count _ => .size s.registered.length
  | .unregister _ | .broadcast _ => .done

/-- Where a caller stands when its call begins. -/
def firstPhase (s : State) (id : Nat) (c : Call) : Phase :=
  match c.command? id with
  | some command => .posting command
  | none => if s.task = .absent then .returned .done else .waiting

/-- Where a caller stands once its command is posted: it waits for an answer if there will be
one. -/
def postedPhase (command : Command) : Phase :=
  if command.asker?.isSome then .awaiting command else .returned .done

/-! ### One caller -/

section

variable (s : State) (id : Nat)

theorem phase?_begin_self (c : Call) :
    (s.begin id c).phase? id = some (s.firstPhase id c) := by
  cases c with
  | wait =>
    simp only [begin, firstPhase, Call.command?]
    split <;> exact phase?_move_self s id _
  | _ => exact phase?_move_self _ id _

theorem phase?_posting_self (command : Command) :
    (s.proceed id (.posting command)).phase? id =
      some (if s.isOpen then .admitted command else .returned (.failed .stopped)) := by
  simp only [proceed]
  split <;> exact phase?_move_self _ id _

theorem phase?_admitted_self (command : Command) (hcommand : command.message? = none) :
    (s.proceed id (.admitted command)).phase? id = some (postedPhase command) := by
  simp only [proceed]
  cases command with
  | broadcast m => cases hcommand
  | _ => exact phase?_move_self _ id _

/-- Who waits for an answer gets it. -/
theorem phase?_acknowledge_self {c : Command} (h : s.phase? id = some (.awaiting c))
    (outcome : Outcome) : (s.acknowledge id outcome).phase? id = some (.returned outcome) := by
  simp only [acknowledge, h]
  exact phase?_move_self s id _

theorem phase?_acknowledge_of_ne {n : Nat} (h : n ≠ id) (outcome : Outcome) :
    (s.acknowledge id outcome).phase? n = s.phase? n := by
  unfold acknowledge
  split
  · exact phase?_move_of_ne h s _
  · rfl

/-- Who does not wait for an answer gets none. -/
theorem phase?_acknowledge_of_not_awaiting (h : ∀ c, s.phase? id ≠ some (.awaiting c))
    (outcome : Outcome) (n : Nat) : (s.acknowledge id outcome).phase? n = s.phase? n := by
  unfold acknowledge
  split
  · rename_i c hc
    exact absurd hc (h c)
  · rfl

/-- A handled command changes no caller but that it answers the one who asks, if that one still
waits. -/
theorem exists_perform_eq (command : Command) :
    ∃ t : State, t.callers = s.callers ∧
      s.perform command =
        match command.asker? with
        | some id => t.acknowledge id (s.answer command)
        | none => t := by
  cases command with
  | register id =>
    by_cases hfull : s.limits.maxSubscribers ≤ s.registered.length
    · refine ⟨s.modify id fun q => q.release.leave, rfl, ?_⟩
      simp only [perform, answer, if_pos hfull, Command.asker?]
    · refine ⟨{ s with
        registered := s.registered ++ [id]
        metrics := { s.metrics with registered := s.metrics.registered + 1 } }, rfl, ?_⟩
      simp only [perform, answer, if_neg hfull, Command.asker?]
  | unregister id =>
    refine ⟨s.perform (.unregister id), ?_, rfl⟩
    simp only [perform]
    split <;> rfl
  | broadcast m =>
    obtain ⟨_, _, _, heq, -⟩ := s.broadcast_frame s.registered m
    refine ⟨s.broadcast s.registered m, ?_, rfl⟩
    rw [heq]
  | count id => exact ⟨s, rfl, rfl⟩

/-- A handled command answers its caller, and nobody else. -/
theorem phase?_perform (command : Command) (n : Nat) :
    (s.perform command).phase? n = s.phase? n ∧
        ¬ (command.asker? = some n ∧ ∃ c, s.phase? n = some (.awaiting c)) ∨
      command.asker? = some n ∧ (∃ c, s.phase? n = some (.awaiting c)) ∧
        (s.perform command).phase? n = some (.returned (s.answer command)) := by
  obtain ⟨t, hcallers, hperform⟩ := s.exists_perform_eq command
  have hphase (n : Nat) : t.phase? n = s.phase? n := by rw [phase?, phase?, hcallers]
  rw [hperform]
  cases hasker : command.asker? with
  | none => exact .inl ⟨hphase n, by simp⟩
  | some id =>
    by_cases hn : n = id
    · subst hn
      by_cases hawaits : ∃ c, s.phase? n = some (.awaiting c)
      · obtain ⟨c, hc⟩ := hawaits
        exact .inr ⟨rfl, ⟨c, hc⟩, t.phase?_acknowledge_self n ((hphase n).trans hc) _⟩
      · refine .inl ⟨?_, fun h => hawaits h.2⟩
        have hnot (c : Command) : t.phase? n ≠ some (.awaiting c) :=
          fun hc => hawaits ⟨c, (hphase n).symm.trans hc⟩
        exact (t.phase?_acknowledge_of_not_awaiting n hnot _ n).trans (hphase n)
    · refine .inl ⟨(t.phase?_acknowledge_of_ne id hn _).trans (hphase n), ?_⟩
      rintro ⟨h, -⟩
      exact hn (Option.some.inj h).symm

/-- Those who wait for an answer. -/
def unanswered : List Nat :=
  s.callers.filterMap fun (id, phase) =>
    match phase with
    | .awaiting _ => some id
    | _ => none

theorem mem_unanswered_iff (hkeys : (s.callers.map Prod.fst).Nodup) (n : Nat) :
    n ∈ s.unanswered ↔ ∃ c, s.phase? n = some (.awaiting c) := by
  unfold unanswered
  rw [List.mem_filterMap]
  constructor
  · rintro ⟨⟨id, phase⟩, hmem, hid⟩
    cases phase with
    | awaiting c =>
      cases hid
      exact ⟨c, Numbered.lookup_eq_some_of_mem hkeys hmem⟩
    | _ => cases hid
  · rintro ⟨c, hc⟩
    exact ⟨(n, .awaiting c), Numbered.mem_of_lookup_eq_some hc, rfl⟩

/-- When the commands that wait are dropped, everybody who waits for an answer learns that there
will be none. -/
theorem phase?_discard (n : Nat) :
    s.discard.phase? n =
      if n ∈ s.unanswered then some (.returned (.failed .stopped)) else s.phase? n := by
  have hfold (ids : List Nat) (t : State) :
      (ids.foldl (fun s id => s.fail id .stopped) t).phase? n =
        if n ∈ ids then some (.returned (.failed .stopped)) else t.phase? n := by
    induction ids generalizing t with
    | nil => simp
    | cons id rest ih =>
      rw [List.foldl_cons, ih]
      by_cases hn : n = id
      · subst hn
        have hfail : (t.fail n .stopped).phase? n = some (.returned (.failed .stopped)) :=
          phase?_move_self (t.modify n Subscriber.leave) n _
        simp [hfail]
      · have hfail : (t.fail id .stopped).phase? n = t.phase? n :=
          phase?_move_of_ne hn (t.modify id Subscriber.leave) _
        simp [hfail, hn]
  exact hfold s.unanswered { s with mailbox := [] }

end

/-! ### The numbers of the callers -/

theorem nodup_callers_next {s : State} (h : (s.callers.map Prod.fst).Nodup) (a : Action) :
    ((s.next a).callers.map Prod.fst).Nodup := by
  have hassign (t : State) (ht : t.callers = s.callers) (id : Nat) (phase : Phase) :
      ((t.move id phase).callers.map Prod.fst).Nodup :=
    Numbered.nodup_keys_assign (ht ▸ h) phase
  cases a with
  | write m =>
    simp only [next, write]
    split <;> exact h
  | call id c =>
    cases c with
    | wait =>
      simp only [next, begin]
      split <;> exact hassign s rfl id _
    | _ => exact hassign _ rfl id _
  | proceed id =>
    simp only [next]
    split
    · rename_i phase _
      cases phase with
      | posting c =>
        simp only [proceed]
        split <;> exact hassign _ rfl id _
      | admitted c => cases c <;> exact hassign _ rfl id _
      | waiting => exact hassign s rfl id _
      | _ => exact h
    · exact h
  | abandon id =>
    have hcallers : (s.next (.abandon id)).callers = Numbered.erase id s.callers := by
      simp only [next, abandon]
      split <;> rfl
    rw [hcallers]
    exact h.sublist (List.filter_sublist.map _)
  | handle =>
    simp only [next]
    split
    · rename_i c rest _
      obtain ⟨t, hcallers, heq⟩ := exists_perform_eq { s with mailbox := rest } c
      rw [heq]
      split
      · rename_i id _
        unfold acknowledge
        split
        · exact hassign t hcallers id _
        · exact hcallers ▸ h
      · exact hcallers ▸ h
    · exact h
  | conclude =>
    have hfold (ids : List Nat) (t : State) (ht : (t.callers.map Prod.fst).Nodup) :
        ((ids.foldl (fun s id => s.fail id .stopped) t).callers.map Prod.fst).Nodup := by
      induction ids generalizing t with
      | nil => exact ht
      | cons id rest ih => exact ih _ (Numbered.nodup_keys_assign ht _)
    exact hfold _ _ h
  | _ => exact h

/-! ### Steps -/

/-- What a step does to one caller. -/
inductive Turn (n : Nat) (s : State) : Action → Option Phase → Prop
  /-- Nothing. -/
  | kept {a : Action} :
      (∀ c, a ≠ .call n c) → a ≠ .proceed n → a ≠ .abandon n →
        (a = .conclude → ∀ c, s.phase? n ≠ some (.awaiting c)) →
          (a = .handle → ∀ command rest, s.mailbox = command :: rest →
            ¬ (command.asker? = some n ∧ ∃ c, s.phase? n = some (.awaiting c))) →
            Turn n s a (s.phase? n)
  /-- Its call begins. -/
  | begun {c : Call} :
      s.phase? n = none → Turn n s (.call n c) (some (s.firstPhase n c))
  /-- It gets room for its command. -/
  | admitted {command : Command} :
      s.phase? n = some (.posting command) → s.isOpen = true →
        Turn n s (.proceed n) (some (.admitted command))
  /-- Its command is posted. -/
  | posted {command : Command} :
      s.phase? n = some (.admitted command) →
        Turn n s (.proceed n) (some (postedPhase command))
  /-- Its command is refused. -/
  | refused {command : Command} :
      s.phase? n = some (.posting command) → s.isOpen = false →
        Turn n s (.proceed n) (some (.returned (.failed .stopped)))
  /-- It has waited to the end. -/
  | waited :
      s.phase? n = some .waiting → s.task = .ended →
        Turn n s (.proceed n) (some (.returned .done))
  /-- It is gone. -/
  | gone : Turn n s (.abandon n) none
  /-- It is answered. -/
  | answered {command c : Command} {rest : List Command} :
      s.mailbox = command :: rest → command.asker? = some n → s.phase? n = some (.awaiting c) →
        Turn n s .handle (some (.returned (s.answer command)))
  /-- It learns that there will be no answer. -/
  | lost {c : Command} :
      s.phase? n = some (.awaiting c) → Turn n s .conclude (some (.returned (.failed .stopped)))

section

variable {s : State} {a : Action} {n : Nat}

theorem turn_proceed (hposts : ∀ c, s.unposted? n = some c → c.message? = none)
    (henabled : s.enabled (.proceed n) = true) :
    Turn n s (.proceed n) ((s.next (.proceed n)).phase? n) := by
  obtain ⟨phase, hphase, hcan⟩ := (Option.any_eq_true _ _).1 henabled
  have hnext : s.next (.proceed n) = s.proceed n phase := by simp only [next, hphase]
  rw [hnext]
  cases phase with
  | posting command =>
    rw [s.phase?_posting_self n command]
    cases hopen : s.isOpen with
    | true => exact .admitted hphase hopen
    | false => exact .refused hphase hopen
  | admitted command =>
    have hmessage := hposts command (unposted?_eq hphase)
    rw [s.phase?_admitted_self n command hmessage]
    exact .posted hphase
  | waiting =>
    have hended : s.task = .ended := by simpa [canProceed] using hcan
    have hreturned : (s.proceed n .waiting).phase? n = some (.returned .done) :=
      phase?_move_self s n _
    rw [hreturned]
    exact .waited hphase hended
  | awaiting c => cases hcan
  | returned o => cases hcan

theorem turn_handle (henabled : s.enabled .handle = true) (n : Nat) :
    Turn n s .handle ((s.next .handle).phase? n) := by
  obtain ⟨command, rest, hmailbox, hnext⟩ := exists_next_handle henabled
  rw [hnext]
  rcases phase?_perform { s with mailbox := rest } command n with
    ⟨hphase, hnot⟩ | ⟨hasker, ⟨c, hc⟩, hphase⟩
  · rw [hphase]
    refine .kept (by simp) (by simp) (by simp) (by simp) fun _ command' rest' hmailbox' => ?_
    cases hmailbox.symm.trans hmailbox'
    exact hnot
  · rw [hphase]
    exact .answered hmailbox hasker hc

theorem turn_conclude (hkeys : (s.callers.map Prod.fst).Nodup) (n : Nat) :
    Turn n s .conclude (s.conclude.phase? n) := by
  have hdiscard : s.conclude.phase? n =
      if n ∈ s.unanswered then some (.returned (.failed .stopped)) else s.phase? n :=
    phase?_discard { s with task := .ended } n
  rw [hdiscard]
  by_cases hawaits : ∃ c, s.phase? n = some (.awaiting c)
  · rw [if_pos ((s.mem_unanswered_iff hkeys n).2 hawaits)]
    obtain ⟨c, hc⟩ := hawaits
    exact .lost hc
  · rw [if_neg fun h => hawaits ((s.mem_unanswered_iff hkeys n).1 h)]
    exact .kept (by simp) (by simp) (by simp) (fun _ c hc => hawaits ⟨c, hc⟩) (by simp)

theorem turn_next (hkeys : (s.callers.map Prod.fst).Nodup)
    (hposts : ∀ n c, s.unposted? n = some c → c.message? = none)
    (henabled : s.enabled a = true) (n : Nat) : Turn n s a ((s.next a).phase? n) := by
  -- a step of its own that leaves a caller where it is
  have keeps (hspared : (∀ c, a ≠ .call n c) ∧ a ≠ .proceed n ∧ a ≠ .abandon n ∧ a ≠ .conclude ∧
      a ≠ .handle) (hphase : (s.next a).phase? n = s.phase? n) :
      Turn n s a ((s.next a).phase? n) := by
    obtain ⟨hcall, hproceed, habandon, hconclude, hhandle⟩ := hspared
    rw [hphase]
    exact .kept hcall hproceed habandon (fun h => absurd h hconclude) fun h => absurd h hhandle
  cases a with
  | write m =>
    refine keeps (by simp) ?_
    simp only [next, write]
    split <;> rfl
  | call id c =>
    by_cases hn : n = id
    · subst hn
      have hnone : s.phase? n = none := by simp_all [enabled]
      simp only [next]
      rw [s.phase?_begin_self n c]
      exact .begun hnone
    · exact keeps (by simp [Ne.symm hn]) (phase?_begin_of_ne hn s c)
  | proceed id =>
    by_cases hn : n = id
    · subst hn
      exact turn_proceed (hposts n) henabled
    · refine keeps (by simp [Ne.symm hn]) ?_
      obtain ⟨phase, hphase, -⟩ := (Option.any_eq_true _ _).1 henabled
      simp only [next, hphase]
      exact phase?_proceed_of_ne hn s phase
  | abandon id =>
    by_cases hn : n = id
    · subst hn
      have hgone : (s.next (.abandon n)).phase? n = none := by
        simp only [next, abandon, phase?]
        split <;> exact Numbered.lookup_erase_self n s.callers
      rw [hgone]
      exact .gone
    · refine keeps (by simp [Ne.symm hn]) ?_
      simp only [next, abandon, phase?]
      split <;> exact Numbered.lookup_erase_of_ne hn s.callers
  | handle => exact turn_handle henabled n
  | conclude => exact turn_conclude hkeys n
  | _ => exact keeps (by simp) rfl

end

/-- Who has just made its call has to post the command of the call. -/
theorem command?_of_begin_unposted {s : State} {n : Nat} {call : Call} {c : Command}
    (h : (s.begin n call).unposted? n = some c) : call.command? n = some c := by
  rw [unposted?_eq (s.phase?_begin_self n call), firstPhase] at h
  cases hcommand : call.command? n with
  | some command =>
    rw [hcommand] at h
    exact h
  | none =>
    rw [hcommand] at h
    dsimp only at h
    split at h <;> cases h

end State

/-! ### Runs -/

section

variable {limits : Limits} {tr : Trace} {s : State}

/-- No caller posts a message. -/
theorem Run.message?_of_unposted (h : Run { limits } tr s) {n : Nat} {c : Command}
    (hpost : s.unposted? n = some c) : c.message? = none := by
  refine h.invariant (P := fun _ s =>
    ∀ {n c}, s.unposted? n = some c → c.message? = none) nofun ?_ hpost
  intro tr s a ih henabled n c hpost
  rcases State.unposted_next henabled hpost with ⟨hbefore, -⟩ | ⟨call, -, hnew⟩
  · exact ih hbefore
  · have hcommand := State.command?_of_begin_unposted hnew
    cases call <;> cases hcommand <;> rfl

theorem Run.nodup_callers (h : Run { limits } tr s) : (s.callers.map Prod.fst).Nodup :=
  h.invariant (P := fun _ s => (s.callers.map Prod.fst).Nodup) .nil
    fun ih _ => State.nodup_callers_next ih _

/-- What the next step of a run does to a caller. -/
theorem Run.turn (h : Run { limits } tr s) {a : Action} (henabled : s.enabled a = true) (n : Nat) :
    State.Turn n s a ((s.next a).phase? n) :=
  State.turn_next h.nodup_callers (fun _ _ => h.message?_of_unposted) henabled n

end

end SyslogCollector.Hub
