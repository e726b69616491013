import SyslogCollector.Proofs.Hub.Mailbox
/-!
# One subscriber

What a step does to the queue of one subscriber and to its registration (`Change`). A handled
command treats every subscriber by a rule of its own (`State.treat`), the client takes or closes,
and the end of the dispatch task releases all queues.
-/

namespace SyslogCollector.Hub

theorem Subscriber.held_receive (q : Subscriber) : q.receive.2.held = q.held := by
  unfold receive
  split
  · rfl
  · split <;> rfl

theorem Subscriber.length_queue_receive_le (q : Subscriber) :
    q.receive.2.queue.length ≤ q.queue.length := by
  unfold receive
  split
  · exact Nat.le_refl _
  · split
    · rename_i hqueue
      simp [hqueue]
    · exact Nat.le_refl _

namespace State

/-- What a handled command does to the queue of a subscriber. -/
def treat (s : State) (c : Nat) : Command → Subscriber → Subscriber
  | .register id, q =>
    if c = id ∧ s.limits.maxSubscribers ≤ s.registered.length then q.release.leave else q
  | .unregister id, q => if c = id ∧ c ∈ s.registered then q.release else q
  | .broadcast m, q => if c ∈ s.registered then q.handed m else q
  | .count _, q => q

/-- Whether a subscriber is registered once a command is handled. -/
def Keeps (s : State) (c : Nat) : Command → Prop
  | .register id =>
    c ∈ s.registered ∨ (c = id ∧ s.registered.length < s.limits.maxSubscribers)
  | .unregister id => c ∈ s.registered ∧ c ≠ id
  | .broadcast _ => c ∈ s.registered ∧ ∀ q ∈ s.subscriber? c, q.takes = true
  | .count _ => c ∈ s.registered

theorem subscriber?_perform {s : State} (h : s.registered.Nodup) (command : Command) (c : Nat) :
    (s.perform command).subscriber? c = (s.subscriber? c).map (s.treat c command) := by
  cases command with
  | register id =>
    simp only [perform]
    split
    · rename_i hfull
      rw [subscriber?_acknowledge, subscriber?_modify]
      congr 1
      funext q
      simp [treat, hfull]
    · rename_i hroom
      have htreat : s.treat c (.register id) = fun q => q := by
        funext q
        simp [treat, hroom]
      rw [subscriber?_acknowledge, htreat, Option.map_id']
      rfl
  | unregister id =>
    simp only [perform]
    split
    · rename_i hmem
      refine (subscriber?_modify s id c _).trans ?_
      congr 1
      funext q
      by_cases hc : c = id
      · subst hc
        simp [treat, hmem]
      · simp [treat, hc]
    · rename_i hmem
      have htreat : s.treat c (.unregister id) = fun q => q := by
        funext q
        refine if_neg ?_
        rintro ⟨rfl, hc⟩
        exact hmem hc
      rw [htreat, Option.map_id']
  | broadcast m => exact subscriber?_broadcast h s m c
  | count id =>
    have htreat : s.treat c (.count id) = fun q => q := rfl
    rw [perform, subscriber?_acknowledge, htreat, Option.map_id']

theorem mem_registered_perform {s : State} (h : s.registered.Nodup) (command : Command) (c : Nat) :
    c ∈ (s.perform command).registered ↔ s.Keeps c command := by
  cases command with
  | register id =>
    simp only [perform]
    split
    · rename_i hfull
      rw [registered_acknowledge]
      simp [Keeps, modify, Nat.not_lt.2 hfull]
    · rename_i hroom
      rw [registered_acknowledge]
      simp [Keeps, Nat.not_le.1 hroom]
  | unregister id =>
    simp only [perform]
    split
    · simp [Keeps, giveUp]
    · rename_i hmem
      refine ⟨fun hc => ⟨hc, ?_⟩, And.left⟩
      rintro rfl
      exact hmem hc
  | broadcast m =>
    refine (mem_registered_broadcast h s m c).trans ⟨fun hc => ⟨hc.1, hc.2 hc.1⟩, fun hc => ?_⟩
    exact ⟨hc.1, fun _ => hc.2⟩
  | count id =>
    rw [perform, registered_acknowledge]
    exact Iff.rfl

/-- What a client may do without being asked: nothing, take no more, or give up its end. -/
def Withdraws (f : Subscriber → Subscriber) : Prop :=
  f = id ∨ f = Subscriber.close ∨ f = Subscriber.leave

/-- After a client is gone it does not matter what it did before. -/
theorem Withdraws.leave_eq {f : Subscriber → Subscriber} (h : Withdraws f) (q : Subscriber) :
    (f q).leave = q.leave := by
  rcases h with rfl | rfl | rfl
  · rfl
  · unfold Subscriber.close
    split <;> rfl
  · rfl

theorem Withdraws.held_eq {f : Subscriber → Subscriber} (h : Withdraws f) (q : Subscriber) :
    (f q).held = q.held := by
  rcases h with rfl | rfl | rfl
  · rfl
  · unfold Subscriber.close
    split <;> rfl
  · rfl

theorem Withdraws.length_queue_le {f : Subscriber → Subscriber} (h : Withdraws f)
    (q : Subscriber) : (f q).queue.length ≤ q.queue.length := by
  rcases h with rfl | rfl | rfl
  · exact Nat.le_refl _
  · unfold Subscriber.close
    split <;> exact Nat.le_refl _
  · exact Nat.zero_le _

/-- Whether all that happens to a subscriber is that its client may go away. -/
def Spared (c : Nat) (s s' : State) : Prop :=
  ∃ f, Withdraws f ∧ s'.subscriber? c = (s.subscriber? c).map f

section

variable {c : Nat} {s s' : State}

theorem Spared.of_eq (h : s'.subscriber? c = s.subscriber? c) : s.Spared c s' :=
  ⟨id, .inl rfl, by rw [h, Option.map_id]; rfl⟩

theorem spared_modify {f : Subscriber → Subscriber} (hf : Withdraws f) (id : Nat) (s : State) :
    s.Spared c (s.modify id f) := by
  by_cases hc : c = id
  · refine ⟨f, hf, ?_⟩
    simp [subscriber?_modify, hc]
  · exact .of_eq (subscriber?_modify_of_ne hc s f)

theorem Spared.leave (h : s.Spared c s') (id : Nat) :
    s.Spared c (s'.modify id Subscriber.leave) := by
  by_cases hc : c = id
  · obtain ⟨f, hf, heq⟩ := h
    refine ⟨Subscriber.leave, .inr (.inr rfl), ?_⟩
    rw [subscriber?_modify, heq, Option.map_map]
    congr 1
    funext q
    simp [hc, hf.leave_eq]
  · obtain ⟨f, hf, heq⟩ := h
    exact ⟨f, hf, (subscriber?_modify_of_ne hc s' _).trans heq⟩

theorem spared_discard (s : State) : s.Spared c s.discard := by
  have hfold : ∀ (ids : List Nat) (s' : State), s.Spared c s' →
      s.Spared c (ids.foldl (fun s id => s.fail id .stopped) s') := by
    intro ids
    induction ids with
    | nil => exact fun _ h => h
    | cons id rest ih => exact fun s' h => ih _ (h.leave id)
  exact hfold _ _ (.of_eq rfl)

theorem spared_abandon (s : State) (id : Nat) : s.Spared c (s.abandon id) := by
  simp only [abandon]
  split
  · exact .of_eq rfl
  · exact .of_eq rfl
  · exact spared_modify (.inr (.inr rfl)) id s

theorem spared_proceed (s : State) (id : Nat) (phase : Phase) :
    s.Spared c (s.proceed id phase) := by
  cases phase with
  | posting command =>
    simp only [proceed]
    split
    · exact .of_eq rfl
    · exact spared_modify (.inr (.inr rfl)) id s
  | admitted command => cases command <;> exact .of_eq rfl
  | _ => exact .of_eq rfl

end

/-- What a step does to one subscriber. -/
inductive Change (c : Nat) (s : State) : Action → State → Prop
  /-- Its client may go away. -/
  | spared {a : Action} {s' : State} :
      (a ≠ .handle ∧ a ≠ .receive c ∧ a ≠ .leave ∧ ∀ k, a ≠ .call c (.subscribe k)) →
        s.Spared c s' → s'.registered = s.registered → Change c s a s'
  /-- It comes into being. -/
  | opened {k : Nat} {s' : State} :
      s.subscriber? c = none → s'.subscriber? c = some (.withCapacity k) →
        s'.registered = s.registered → Change c s (.call c (.subscribe k)) s'
  /-- Its client asks for a message. -/
  | received {s' : State} :
      s'.subscriber? c = (s.subscriber? c).map (·.receive.2) → s'.registered = s.registered →
        Change c s (.receive c) s'
  /-- A command is handled. -/
  | handled {command : Command} {rest : List Command} {s' : State} :
      s.mailbox = command :: rest →
        s'.subscriber? c = (s.subscriber? c).map (s.treat c command) →
          (c ∈ s'.registered ↔ s.Keeps c command) → Change c s .handle s'
  /-- The dispatch task leaves its loop. -/
  | left {s' : State} :
      s'.subscriber? c =
          (s.subscriber? c).map (fun q => if c ∈ s.registered then q.release else q) →
        s'.registered = [] → Change c s .leave s'

theorem change_next {s : State} {a : Action} (hnodup : s.registered.Nodup)
    (henabled : s.enabled a = true) (c : Nat) : Change c s a (s.next a) := by
  cases a with
  | write m =>
    -- a message goes to the mailbox and no further
    refine .spared (by simp) ?_ ?_
    · simp only [next, write]
      split <;> exact .of_eq rfl
    · simp only [next, write]
      split <;> rfl
  | call id call =>
    obtain ⟨_, _, hframe⟩ := s.begin_frame id call
    have hregistered : (s.next (.call id call)).registered = s.registered := by
      simp only [next, hframe]
    simp only [enabled, Bool.and_eq_true, Option.isNone_iff_eq_none] at henabled
    cases call with
    | subscribe k =>
      -- the number of the caller is that of its subscriber
      by_cases hc : c = id
      · subst hc
        exact .opened henabled.2 (Numbered.lookup_assign_self c _ s.subscribers) hregistered
      · have hsame := Numbered.lookup_assign_of_ne hc (.withCapacity k) s.subscribers
        exact .spared (by simp [Ne.symm hc]) (.of_eq hsame) hregistered
    | wait =>
      refine .spared (by simp) ?_ hregistered
      simp only [next, begin]
      split <;> exact .of_eq rfl
    | _ => exact .spared (by simp) (.of_eq rfl) hregistered
  | proceed id =>
    obtain ⟨phase, hphase, -⟩ := (Option.any_eq_true _ _).1 henabled
    obtain ⟨_, _, _, hframe, -⟩ := s.proceed_frame id phase
    have hnext : s.next (.proceed id) = s.proceed id phase := by simp only [next, hphase]
    refine .spared (by simp) (hnext ▸ s.spared_proceed id phase) ?_
    rw [hnext, hframe]
  | abandon id =>
    obtain ⟨_, _, hframe⟩ := s.abandon_frame id
    refine .spared (by simp) (s.spared_abandon id) ?_
    simp only [next, hframe]
  | receive id =>
    by_cases hc : c = id
    · subst hc
      refine .received ?_ rfl
      simp [next, subscriber?_modify]
    · have hsame := subscriber?_modify_of_ne hc s fun q => q.receive.2
      exact .spared (by simp [Ne.symm hc]) (.of_eq hsame) rfl
  | close id =>
    exact .spared (by simp) (spared_modify (.inr (.inl rfl)) id s) rfl
  | drop id =>
    exact .spared (by simp) (spared_modify (.inr (.inr rfl)) id s) rfl
  | start => exact .spared (by simp) (.of_eq rfl) rfl
  | stop => exact .spared (by simp) (.of_eq rfl) rfl
  | handle =>
    obtain ⟨command, rest, hmailbox, hnext⟩ := exists_next_handle henabled
    rw [hnext]
    refine .handled hmailbox ?_ ?_
    · exact subscriber?_perform (s := { s with mailbox := rest }) hnodup command c
    · exact mem_registered_perform (s := { s with mailbox := rest }) hnodup command c
  | leave =>
    refine .left ?_ rfl
    -- the queues are changed entry by entry, so the lookup goes through the map
    have hentries : s.leave.subscribers =
        s.subscribers.map fun e => (e.1, if e.1 ∈ s.registered then e.2.release else e.2) := by
      refine List.map_congr_left fun e _ => ?_
      by_cases hn : e.1 ∈ s.registered <;> simp [hn]
    change s.leave.subscribers.lookup c = _
    rw [hentries]
    exact Numbered.lookup_map (fun n q => if n ∈ s.registered then q.release else q) c s.subscribers
  | conclude =>
    obtain ⟨_, _, hframe⟩ := s.conclude_frame
    refine .spared (by simp) (spared_discard { s with task := .ended }) ?_
    simp only [next, hframe]

end State

end SyslogCollector.Hub
