import SyslogCollector.Proofs.Hub.Stream
/-!
# What the mailbox leads to

Registrations and removals wait in the mailbox in the order in which they were posted. `outlook`
tells who has a place once they are handled, if there is room for everybody. Whoever is given up
meanwhile only leaves more room, so what is known of the outlook when a registration is posted holds
until the registration is handled (`State.Roomy.next`).
-/

namespace SyslogCollector.Hub

/-- Who has a place after a command, if there is room and nobody is given up. -/
def Command.applied (c : Command) (registered : List Nat) : List Nat :=
  match c with
  | .register id => registered ++ [id]
  | .unregister id => registered.filter (· != id)
  | .broadcast _ | .count _ => registered

/-- Who has a place after some commands, if there is room and nobody is given up. -/
def outlook (registered : List Nat) (commands : List Command) : List Nat :=
  commands.foldl (fun registered c => c.applied registered) registered

section

variable {registered fewer : List Nat} {commands : List Command} {id : Nat}

theorem Command.applied_sublist (c : Command) (h : fewer.Sublist registered) :
    (c.applied fewer).Sublist (c.applied registered) := by
  cases c with
  | register id => exact h.append (.refl _)
  | unregister id => exact h.filter _
  | broadcast m | count id => exact h

theorem outlook_concat (registered : List Nat) (commands : List Command) (c : Command) :
    outlook registered (commands ++ [c]) = c.applied (outlook registered commands) := by
  simp [outlook, List.foldl_append]

/-- If there are fewer subscribers now, there are fewer of them later. -/
theorem outlook_sublist (h : fewer.Sublist registered) (commands : List Command) :
    (outlook fewer commands).Sublist (outlook registered commands) := by
  induction commands generalizing fewer registered with
  | nil => exact h
  | cons c rest ih => exact ih (c.applied_sublist h)

/-- Who is not removed keeps its place. -/
theorem mem_outlook (h : id ∈ registered) (hkept : .unregister id ∉ commands) :
    id ∈ outlook registered commands := by
  induction commands generalizing registered with
  | nil => exact h
  | cons c rest ih =>
    rw [List.mem_cons, not_or] at hkept
    refine ih ?_ hkept.2
    cases c with
    | register other => exact List.mem_append_left _ h
    | unregister other =>
      have hne : id ≠ other := fun heq => hkept.1 (by rw [heq])
      simpa [Command.applied, hne] using h
    | broadcast m | count other => exact h

/-- If everybody asks once, nobody has two places. -/
theorem nodup_outlook (hnodup : registered.Nodup)
    (honce : ∀ id, commands.count (.register id) ≤ 1)
    (hfresh : ∀ id ∈ registered, .register id ∉ commands) :
    (outlook registered commands).Nodup := by
  induction commands generalizing registered with
  | nil => exact hnodup
  | cons c rest ih =>
    have hless (id : Nat) : rest.count (.register id) ≤ 1 :=
      Nat.le_trans ((List.sublist_cons_self c rest).count_le _) (honce id)
    have hlater (id : Nat) (hid : id ∈ registered) : .register id ∉ rest :=
      fun hmem => hfresh id hid (.tail _ hmem)
    cases c with
    | register other =>
      refine ih ?_ hless fun id hid => ?_
      · have hconcat := List.Nodup.concat (fun hmem => hfresh other hmem (.head _)) hnodup
        rwa [List.concat_eq_append] at hconcat
      · rcases List.mem_append.1 hid with hid | hid
        · exact hlater id hid
        · cases List.mem_singleton.1 hid
          have hcount := honce other
          rw [List.count_cons_self] at hcount
          exact List.count_eq_zero.1 (by omega)
    | unregister other =>
      exact ih (hnodup.filter _) hless fun id hid => hlater id (List.mem_filter.1 hid).1
    | broadcast m | count other => exact ih hnodup hless hlater

end

namespace State

/-- Who has a place once all that waits is handled. -/
def prospects (s : State) : List Nat := outlook s.registered s.mailbox

/-- A handled command gives a place to those who ask for it, at most. -/
theorem registered_perform_sublist (s : State) (command : Command) :
    (s.perform command).registered.Sublist (command.applied s.registered) := by
  cases command with
  | register id =>
    simp only [perform]
    split
    · rw [registered_acknowledge]
      exact List.sublist_append_left _ _
    · rw [registered_acknowledge]
      exact .refl _
  | unregister id =>
    simp only [perform]
    split
    · exact .refl _
    · rename_i hmem
      have hkept : s.registered.filter (· != id) = s.registered := by
        refine List.filter_eq_self.2 fun c hc => ?_
        have hne : c ≠ id := fun heq => hmem (heq ▸ hc)
        simpa using hne
      rw [Command.applied, hkept]
  | broadcast m =>
    obtain ⟨_, _, _, heq, hsub⟩ := s.broadcast_frame s.registered m
    have hperform : s.perform (.broadcast m) = _ := heq
    rw [hperform]
    exact hsub
  | count id =>
    rw [perform, registered_acknowledge]
    exact .refl _

/-- What a step does to the mailbox and to the places, as long as the mailbox is open. -/
inductive Flow (s : State) : Action → State → Prop
  /-- Nothing. -/
  | rest {a : Action} {s' : State} :
      (∀ n c, a = .proceed n → s.phase? n ≠ some (.admitted c)) → a ≠ .handle →
        s'.mailbox = s.mailbox → s'.registered = s.registered → Flow s a s'
  /-- A message is posted. -/
  | written {m : Message} {s' : State} :
      s'.mailbox = s.mailbox ++ [.broadcast m] → s'.registered = s.registered →
        Flow s (.write m) s'
  /-- The command of a caller is posted. -/
  | posted {n : Nat} {c : Command} {s' : State} :
      s.phase? n = some (.admitted c) → s'.mailbox = s.mailbox ++ [c] →
        s'.registered = s.registered → Flow s (.proceed n) s'
  /-- The oldest command is handled. -/
  | handled {c : Command} {s' : State} :
      s.mailbox = c :: s'.mailbox → s'.registered.Sublist (c.applied s.registered) →
        Flow s .handle s'

section

variable {s s' : State} {a : Action}

theorem flow_next (hnodup : s.registered.Nodup) (henabled : s.enabled a = true)
    (hopen : (s.next a).isOpen = true) : Flow s a (s.next a) := by
  obtain ⟨hbefore, hleave⟩ := isOpen_of_next henabled hopen
  have hregistered (ha : a ≠ .handle) : (s.next a).registered = s.registered := by
    rw [(change_next hnodup henabled 0).registered_eq ha, if_neg hleave]
  have hperforms (command : Command) (rest : List Command) (ha : a = .handle)
      (hmailbox : s.mailbox = command :: rest) :
      (s.next a).registered.Sublist (command.applied s.registered) := by
    have hnext : s.next .handle = { s with mailbox := rest }.perform command := by
      simp only [next, hmailbox]
    rw [ha, hnext]
    exact registered_perform_sublist { s with mailbox := rest } command
  have hposts (n : Nat) (c : Command) (ha : a = .proceed n)
      (hphase : s.phase? n = some (.admitted c)) :
      (s.next a).mailbox = s.mailbox ++ [c] := by
    subst ha
    exact mailbox_next_of_admitted hphase
  have hflow := mailFlow_next henabled
  generalize s.next a = s' at hflow hregistered hperforms hposts hopen
  cases hflow with
  | kept ha hmailbox =>
    refine .rest (fun n c hproceed hphase => ?_) ha hmailbox (hregistered ha)
    have hmore := hposts n c hproceed hphase
    simp [hmailbox] at hmore
  | written _ hmailbox => exact .written hmailbox (hregistered (by simp))
  | posted hphase hmailbox => exact .posted hphase hmailbox (hregistered (by simp))
  | handled hmailbox => exact .handled hmailbox (hperforms _ _ rfl hmailbox)
  | cleared hmailbox =>
    have hrunning : s.task = .leaving := by simp_all [enabled]
    simp [isOpen, hrunning] at hbefore

/-- Who has a place in the end had it in prospect before, unless it has just asked for it. Nobody
has it in prospect who is to be removed by the command just posted. -/
theorem Flow.mem_prospects (h : Flow s a s') {id : Nat} (hid : id ∈ s'.prospects) :
    (id ∈ s.prospects ∧ ∀ n, a = .proceed n → s.phase? n ≠ some (.admitted (.unregister id))) ∨
      ∃ n, a = .proceed n ∧ s.phase? n = some (.admitted (.register id)) := by
  unfold prospects at *
  cases h with
  | rest hproceed _ hmailbox hregistered =>
    rw [hmailbox, hregistered] at hid
    exact .inl ⟨hid, fun n ha => hproceed n _ ha⟩
  | written hmailbox hregistered =>
    rw [hmailbox, hregistered, outlook_concat] at hid
    exact .inl ⟨hid, by simp⟩
  | @posted n c _ hphase hmailbox hregistered =>
    rw [hmailbox, hregistered, outlook_concat] at hid
    have hpost {other : Nat} (ha : Action.proceed n = .proceed other) :
        s.phase? other = some (.admitted c) := by
      cases ha
      exact hphase
    cases c with
    | register other =>
      rcases List.mem_append.1 hid with hid | hid
      · refine .inl ⟨hid, fun m ha h => ?_⟩
        cases (hpost ha).symm.trans h
      · exact .inr ⟨n, rfl, List.mem_singleton.1 hid ▸ hphase⟩
    | unregister other =>
      obtain ⟨hid, hne⟩ := List.mem_filter.1 hid
      refine .inl ⟨hid, fun m ha h => ?_⟩
      cases (hpost ha).symm.trans h
      simp at hne
    | broadcast m | count other =>
      refine .inl ⟨hid, fun m ha h => ?_⟩
      cases (hpost ha).symm.trans h
  | handled hmailbox hsub =>
    refine .inl ⟨?_, by simp⟩
    rw [hmailbox]
    exact (outlook_sublist hsub _).subset hid

/-- Whether there is a place left for every registration that waits, when its turn comes. -/
def Roomy (s : State) : Prop :=
  ∀ before id after, s.mailbox = before ++ .register id :: after →
    (outlook s.registered before).length < s.limits.maxSubscribers

/-- A list with one more element is cut at that element or before. -/
theorem eq_or_exists_of_concat_eq {α : Type} {xs before after : List α} {x y : α}
    (h : xs ++ [x] = before ++ y :: after) :
    (xs = before ∧ x = y) ∨ ∃ after', xs = before ++ y :: after' := by
  rcases after.eq_nil_or_concat with rfl | ⟨rest, z, rfl⟩
  · obtain ⟨hxs, hx⟩ := List.append_inj' h rfl
    exact .inl ⟨hxs, (List.cons.inj hx).1⟩
  · rw [List.concat_eq_append, ← List.cons_append, ← List.append_assoc] at h
    exact .inr ⟨rest, (List.append_inj' h rfl).1⟩

/-- If there is a place left for what is posted, there is one when its turn comes. -/
theorem Roomy.next (h : s.Roomy) (hflow : Flow s a s') (hlimits : s'.limits = s.limits)
    (hposted : ∀ n id, a = .proceed n → s.phase? n = some (.admitted (.register id)) →
      s.prospects.length < s.limits.maxSubscribers) : s'.Roomy := by
  intro before id after hsplit
  rw [hlimits]
  cases hflow with
  | rest _ _ hmailbox hregistered =>
    rw [hregistered]
    exact h before id after (hmailbox ▸ hsplit)
  | written hmailbox hregistered =>
    rw [hregistered]
    rcases eq_or_exists_of_concat_eq (hmailbox.symm.trans hsplit) with ⟨-, hcommand⟩ | ⟨_, hold⟩
    · cases hcommand
    · exact h before id _ hold
  | posted hphase hmailbox hregistered =>
    rw [hregistered]
    rcases eq_or_exists_of_concat_eq (hmailbox.symm.trans hsplit) with
      ⟨hwaits, hcommand⟩ | ⟨_, hold⟩
    · subst hcommand
      rw [← hwaits]
      exact hposted _ _ rfl hphase
    · exact h before id _ hold
  | @handled c _ hmailbox hsub =>
    -- who was given up left room for those that come after it
    have hbefore := h (c :: before) id after (by rw [hmailbox, hsplit]; rfl)
    exact Nat.lt_of_le_of_lt (outlook_sublist hsub before).length_le hbefore

/-- Nobody has two places in prospect. -/
theorem nodup_prospects {tr : Trace} (hregistrations : Registrations tr s) (hmail : Mail tr s)
    (hopen : s.isOpen = true) : s.prospects.Nodup := by
  have hwaiting := hmail.waiting (task_ne_ended_of_isOpen hopen)
  have honce (id : Nat) := hregistrations.once id
  simp only [hwaiting, List.count_append] at honce
  refine nodup_outlook hregistrations.nodup (fun id => ?_) fun id hid hmem => ?_
  · have hid := honce id
    omega
  · -- who has a place asked for it before
    have hasked := List.count_pos_iff.2 (hregistrations.asked hid)
    have hagain := List.count_pos_iff.2 hmem
    have hboth := honce id
    omega

end

end State

end SyslogCollector.Hub
