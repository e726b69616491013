import Mathlib.Algebra.BigOperators.Group.List.Basic
import Mathlib.Algebra.GroupWithZero.Nat
import SyslogCollector.Proofs.Hub.Room
import SyslogCollector.Proofs.Hub.Tally
/-!
# The counters agree with the subscribers

As long as the dispatch task has not left its loop, the counters of a hub tell how many subscribers
it has, what became of every message that was written, and how much was queued for all subscribers
together. No queue and no mailbox is ever longer than it may be (`counters_match_subscribers`).

`Census` is the invariant. Its step has one case for a message that is written, one for a handled
command, which `Proofs/Hub/Tally.lean` counts, and one for everything else.
-/

namespace SyslogCollector.Hub

/-! ### Queues -/

namespace Subscriber

/-- Whether a queue has room for at least one message and holds no more than it may. -/
def Fits (q : Subscriber) : Prop := 0 < q.capacity ∧ q.queue.length ≤ q.capacity

variable {q : Subscriber}

theorem Fits.withdraw (h : q.Fits) {f : Subscriber → Subscriber} (hf : State.Withdraws f) :
    (f q).Fits := by
  have hcapacity : (f q).capacity = q.capacity := by
    rcases hf with rfl | rfl | rfl
    · rfl
    · unfold close
      split <;> rfl
    · rfl
  unfold Fits at h ⊢
  rw [hcapacity]
  exact ⟨h.1, Nat.le_trans (hf.length_queue_le q) h.2⟩

theorem Fits.receive (h : q.Fits) : q.receive.2.Fits := by
  have hcapacity : q.receive.2.capacity = q.capacity := by
    unfold Subscriber.receive
    split
    · rfl
    · split <;> rfl
  unfold Fits at h ⊢
  rw [hcapacity]
  exact ⟨h.1, Nat.le_trans q.length_queue_receive_le h.2⟩

/-- A message is queued only where there is room for it. -/
theorem Fits.treat (h : q.Fits) (s : State) (c : Nat) (command : Command) :
    (s.treat c command q).Fits := by
  cases command with
  | register id =>
    simp only [State.treat]
    split
    · exact ⟨h.1, Nat.zero_le _⟩
    · exact h
  | unregister id =>
    simp only [State.treat]
    split
    · exact h
    · exact h
  | broadcast m =>
    simp only [State.treat, handed]
    split
    · split
      · rename_i htakes
        simp only [takes, Bool.and_eq_true, decide_eq_true_eq] at htakes
        refine ⟨h.1, ?_⟩
        rw [List.length_append, List.length_singleton]
        exact htakes.2
      · exact h
    · exact h
  | count id => exact h

end Subscriber

/-! ### Steps -/

namespace State

variable {s s' : State} {a : Action} {c : Nat}

theorem Change.fits (hchange : Change c s a s') (h : ∀ q, s.subscriber? c = some q → q.Fits)
    {q : Subscriber} (hq : s'.subscriber? c = some q) : q.Fits := by
  cases hchange with
  | spared _ hspared =>
    obtain ⟨f, hf, heq⟩ := hspared
    obtain ⟨p, hp, rfl⟩ := Option.map_eq_some_iff.1 (heq.symm.trans hq)
    exact (h p hp).withdraw hf
  | @opened k _ _ hsome =>
    cases hsome.symm.trans hq
    exact ⟨Subscriber.capacity_pos k, Nat.zero_le _⟩
  | received heq =>
    obtain ⟨p, hp, rfl⟩ := Option.map_eq_some_iff.1 (heq.symm.trans hq)
    exact (h p hp).receive
  | handled _ heq =>
    obtain ⟨p, hp, rfl⟩ := Option.map_eq_some_iff.1 (heq.symm.trans hq)
    exact (h p hp).treat s c _
  | left heq =>
    obtain ⟨p, hp, rfl⟩ := Option.map_eq_some_iff.1 (heq.symm.trans hq)
    split
    · exact h p hp
    · exact h p hp

/-- No command takes more subscribers than there are places. -/
theorem places_perform (h : s.registered.length ≤ s.limits.maxSubscribers) (command : Command) :
    (s.perform command).registered.length ≤ s.limits.maxSubscribers := by
  cases command with
  | register id =>
    simp only [perform]
    split
    · rw [registered_acknowledge]
      exact h
    · rw [registered_acknowledge, List.length_append, List.length_singleton]
      omega
  | unregister id =>
    simp only [perform]
    split
    · exact Nat.le_trans (List.length_filter_le _ _) h
    · exact h
  | broadcast m =>
    obtain ⟨_, _, _, heq, hsub⟩ := s.broadcast_frame s.registered m
    have hperform : s.perform (.broadcast m) = _ := heq
    rw [hperform]
    exact Nat.le_trans hsub.length_le h
  | count id =>
    rw [perform, registered_acknowledge]
    exact h

/-- A message that is written is posted, or counted as dropped. -/
theorem write_eq (s : State) (m : Message) :
    s.write m =
        { s with
          mailbox := s.mailbox ++ [.broadcast m]
          metrics := { s.metrics with received := s.metrics.received + 1 } } ∨
      s.write m =
        { s with
          metrics := { s.metrics with
            received := s.metrics.received + 1
            dropped := s.metrics.dropped + 1 } } := by
  unfold write
  split
  · exact .inl rfl
  · exact .inr rfl

/-- A step that handles no command counts messages only. -/
theorem exists_metrics_next (ha : a ≠ .handle) :
    ∃ received dropped, (s.next a).metrics = { s.metrics with received, dropped } := by
  by_cases hwrite : ∃ m, a = .write m
  · obtain ⟨m, rfl⟩ := hwrite
    simp only [next]
    rcases s.write_eq m with h | h
    · exact ⟨s.metrics.received + 1, s.metrics.dropped, by rw [h]⟩
    · exact ⟨s.metrics.received + 1, s.metrics.dropped + 1, by rw [h]⟩
  · exact ⟨_, _, metrics_next_of_ne (fun m hm => hwrite ⟨m, hm⟩) ha s⟩

/-- No message is posted but by a write. -/
theorem messages_posted_of_ne (hflow : MailFlow s a s')
    (hposts : ∀ n c, s.unposted? n = some c → c.message? = none)
    (hwrite : ∀ m, a ≠ .write m) : messages (Transition.posted ⟨s, a, s'⟩) = [] := by
  cases hflow with
  | kept _ hmailbox => simp [Transition.posted, hmailbox, messages]
  | written => exact absurd rfl (hwrite _)
  | posted hphase hmailbox =>
    simp [Transition.posted, hmailbox, messages, hposts _ _ (unposted?_eq hphase)]
  | handled hmailbox =>
    rw [Transition.posted_of_handled hmailbox]
    rfl
  | cleared hmailbox => simp [Transition.posted, hmailbox, messages]

/-- How many subscribers take the message that a command hands to them. -/
def takers (s : State) : Command → Nat
  | .broadcast _ => s.registered.countP s.takesAt
  | _ => 0

/-- A handled command counts neither messages that were written nor messages that were dropped. -/
theorem counted_received (s : State) (command : Command) :
    (s.counted command).received = s.metrics.received ∧
      (s.counted command).dropped = s.metrics.dropped := by
  cases command with
  | register id | unregister id =>
    simp only [counted]
    split <;> exact ⟨rfl, rfl⟩
  | broadcast m =>
    rw [counted, Metrics.foldl_countOffer]
    exact ⟨rfl, rfl⟩
  | count id => exact ⟨rfl, rfl⟩

/-- A handled command counts a delivery for each subscriber that takes its message. -/
theorem counted_deliveries (s : State) (command : Command) :
    (s.counted command).deliveries = s.metrics.deliveries + s.takers command := by
  cases command with
  | register id | unregister id =>
    simp only [counted]
    split <;> rfl
  | broadcast m => rw [counted, Metrics.foldl_countOffer, count_sent_offers, takers]
  | count id => rfl

/-- A step counts a message that is written once more among those received, and posts it or counts
it among those dropped. -/
theorem received_next (hnodup : s.registered.Nodup) (henabled : s.enabled a = true)
    (hposts : ∀ n c, s.unposted? n = some c → c.message? = none) :
    (s.next a).metrics.received + s.metrics.dropped =
      s.metrics.received + (s.next a).metrics.dropped +
        (messages (Transition.posted ⟨s, a, s.next a⟩)).length := by
  by_cases hwrite : ∃ m, a = .write m
  · obtain ⟨m, rfl⟩ := hwrite
    simp only [next]
    rcases s.write_eq m with hposted | hdropped
    · have hone : messages (Transition.posted ⟨s, .write m, s.write m⟩) = [m] := by
        simp [Transition.posted, hposted, messages, Command.message?]
      rw [hone, hposted, List.length_singleton]
      dsimp only
      omega
    · have hnone : messages (Transition.posted ⟨s, .write m, s.write m⟩) = [] := by
        simp [Transition.posted, hdropped, messages]
      rw [hnone, hdropped, List.length_nil]
      dsimp only
      omega
  · have hwrite' (m : Message) : a ≠ .write m := fun hm => hwrite ⟨m, hm⟩
    rw [messages_posted_of_ne (mailFlow_next henabled) hposts hwrite', List.length_nil,
      Nat.add_zero]
    by_cases ha : a = .handle
    · subst ha
      obtain ⟨command, rest, -, hnext⟩ := exists_next_handle henabled
      rw [hnext, metrics_perform (s := { s with mailbox := rest }) hnodup]
      obtain ⟨hreceived, hdropped⟩ := counted_received { s with mailbox := rest } command
      rw [hreceived, hdropped]
    · rw [metrics_next_of_ne hwrite' ha]

end State

/-- Lists of at most one element are as long together as there are lists with one. -/
theorem sum_length_eq_countP {f : Nat → List Message} {p : Nat → Bool} {numbers : List Nat}
    (h : ∀ c ∈ numbers, (f c).length = if p c then 1 else 0) :
    (numbers.map fun c => (f c).length).sum = numbers.countP p := by
  induction numbers with
  | nil => rfl
  | cons c rest ih =>
    rw [List.map_cons, List.sum_cons, List.countP_cons, h c (.head _),
      ih fun d hd => h d (.tail _ hd), Nat.add_comm]

/-- What a handled command queues for all subscribers together: a message for each that takes it. -/
theorem sum_queued_of_handled {s s' : State} {command : Command} {rest : List Command}
    (hnumbers : s.numbers.Nodup) (hregistered : s.registered.Nodup)
    (hpresent : ∀ c ∈ s.registered, (s.subscriber? c).isSome = true)
    (hmailbox : s.mailbox = command :: rest) (hchange : ∀ c, State.Change c s .handle s') :
    (s.numbers.map fun c => (Transition.queued ⟨s, .handle, s'⟩ c).length).sum =
      s.takers command := by
  have hgiven {c : Nat} {q : Subscriber} (hq : s.subscriber? c = some q) :
      Transition.queued ⟨s, .handle, s'⟩ c = s.given c q command := by
    cases hchange c with
    | spared hquiet => exact absurd rfl hquiet.1
    | handled hmailbox' heq =>
      cases hmailbox.symm.trans hmailbox'
      rw [Transition.queued_of_some hq (by rw [heq, hq]; rfl), State.drop_queue_treat]
  have hcount {p : Nat → Bool}
      (h : ∀ c q, s.subscriber? c = some q →
        (s.given c q command).length = if p c then 1 else 0) :
      (s.numbers.map fun c => (Transition.queued ⟨s, .handle, s'⟩ c).length).sum =
        s.numbers.countP p := by
    refine sum_length_eq_countP fun c hc => ?_
    obtain ⟨q, hq⟩ := Option.isSome_iff_exists.1 ((s.mem_numbers_iff c).1 hc)
    rw [hgiven hq, h c q hq]
  cases command with
  | broadcast m =>
    rw [hcount (p := fun c => decide (c ∈ s.registered) && s.takesAt c) ?_]
    · -- the subscribers that are registered and take it are the registered ones that take it
      rw [State.takers, List.countP_eq_length_filter, List.countP_eq_length_filter]
      refine List.Perm.length_eq ?_
      refine (List.perm_ext_iff_of_nodup (hnumbers.filter _) (hregistered.filter _)).2 fun c => ?_
      have hknown : c ∈ s.registered → c ∈ s.numbers := fun hc =>
        (s.mem_numbers_iff c).2 (hpresent c hc)
      simp only [List.mem_filter, Bool.and_eq_true, decide_eq_true_eq]
      exact ⟨And.right, fun hc => ⟨hknown hc.1, hc⟩⟩
    · intro c q hq
      by_cases hmem : c ∈ s.registered <;> cases htakes : q.takes <;>
        simp [State.given, State.takesAt, hq, hmem, htakes]
  | _ =>
    rw [hcount (p := fun _ => false) fun c q _ => rfl, List.countP_false]
    rfl

/-- A step counts a delivery for every message that it queues, for all subscribers together. -/
theorem State.deliveries_next {s : State} {a : Action} (hnumbers : s.numbers.Nodup)
    (hregistered : s.registered.Nodup)
    (hpresent : ∀ c ∈ s.registered, (s.subscriber? c).isSome = true)
    (henabled : s.enabled a = true) :
    (s.next a).metrics.deliveries = s.metrics.deliveries +
      (s.numbers.map fun c => (Transition.queued ⟨s, a, s.next a⟩ c).length).sum := by
  have hchange := change_next hregistered henabled
  by_cases ha : a = .handle
  · subst ha
    obtain ⟨command, rest, hmailbox, hnext⟩ := exists_next_handle henabled
    rw [sum_queued_of_handled hnumbers hregistered hpresent hmailbox hchange, hnext,
      metrics_perform (s := { s with mailbox := rest }) hregistered]
    exact counted_deliveries { s with mailbox := rest } command
  · obtain ⟨_, _, hmetrics⟩ := exists_metrics_next (s := s) ha
    have hnone : (s.numbers.map fun c => (Transition.queued ⟨s, a, s.next a⟩ c).length).sum =
        0 := by
      refine List.sum_eq_zero fun n hn => ?_
      obtain ⟨c, -, rfl⟩ := List.mem_map.1 hn
      rw [Transition.queued_of_ne (hchange c) ha, List.length_nil]
    rw [hnone, hmetrics]
    rfl

/-- What was queued for all subscribers together after one step more. Nothing was queued for a
subscriber that is new. -/
theorem Trace.sum_queued_concat {tr : Trace} {s : State} {a : Action}
    (hunborn : ∀ c, s.subscriber? c = none → tr.queued c = [])
    (hchange : ∀ c, State.Change c s a (s.next a)) (henabled : s.enabled a = true) :
    ((s.next a).numbers.map fun c =>
        (Trace.queued (tr ++ [⟨s, a, s.next a⟩]) c).length).sum =
      (s.numbers.map fun c => (tr.queued c).length).sum +
        (s.numbers.map fun c => (Transition.queued ⟨s, a, s.next a⟩ c).length).sum := by
  have hlength (c : Nat) : (Trace.queued (tr ++ [⟨s, a, s.next a⟩]) c).length =
      (tr.queued c).length + (Transition.queued ⟨s, a, s.next a⟩ c).length := by
    rw [Trace.queued_concat, List.length_append]
  rw [← List.sum_map_add, List.map_congr_left fun c _ => hlength c]
  rcases State.numbers_next henabled with hsame | ⟨id, k, rfl, hnew, hmore⟩
  · rw [hsame]
  · have hqueued := Transition.queued_of_ne (hchange id) (by simp)
    rw [hmore, List.map_append, List.sum_append, List.map_singleton, List.sum_singleton,
      hunborn id hnew, hqueued]
    rfl

/-- A step counts one message and one registration at the most. -/
theorem State.metrics_next_le {s : State} {a : Action} (hnodup : s.registered.Nodup)
    (henabled : s.enabled a = true) :
    (s.next a).metrics.received ≤ s.metrics.received + 1 ∧
      (s.next a).metrics.registered ≤ s.metrics.registered + 1 := by
  by_cases hwrite : ∃ m, a = .write m
  · obtain ⟨m, rfl⟩ := hwrite
    simp only [next]
    rcases s.write_eq m with h | h <;>
      exact h ▸ ⟨Nat.le_refl _, Nat.le_succ _⟩
  by_cases ha : a = .handle
  · subst ha
    obtain ⟨command, rest, -, hnext⟩ := exists_next_handle henabled
    rw [hnext, metrics_perform (s := { s with mailbox := rest }) hnodup]
    refine ⟨(counted_received { s with mailbox := rest } command).1 ▸ Nat.le_succ _, ?_⟩
    cases command with
    | register id | unregister id =>
      simp only [counted]
      split <;> simp
    | broadcast m =>
      rw [counted, Metrics.foldl_countOffer]
      exact Nat.le_succ _
    | count id => exact Nat.le_succ _
  · rw [metrics_next_of_ne (fun m hm => hwrite ⟨m, hm⟩) ha]
    exact ⟨Nat.le_succ _, Nat.le_succ _⟩

/-! ### Runs -/

/-- What a hub comes to at every point of a run. -/
structure Census (limits : Limits) (tr : Trace) (s : State) : Prop where
  /-- The sizes do not change. -/
  limits : s.limits = limits
  /-- There are no more subscribers than places. -/
  places : s.registered.length ≤ s.limits.maxSubscribers
  /-- Until the dispatch task leaves its loop, every subscriber that has no place any more was
  counted. -/
  balanced : s.isOpen = true → s.Balanced
  /-- Every message that was written was posted, or counted as dropped. -/
  received : s.metrics.received = s.metrics.dropped + (messages tr.posted).length
  /-- No more commands wait or have room than may. -/
  room : s.mailboxLoad ≤ s.mailboxLimit
  /-- No number is that of two subscribers. -/
  numbers : s.numbers.Nodup
  /-- What was queued for all subscribers together was counted. -/
  deliveries : s.metrics.deliveries = (s.numbers.map fun c => (tr.queued c).length).sum
  /-- No queue is longer than it may be. -/
  queues : ∀ {c q}, s.subscriber? c = some q → q.Fits
  /-- A step counts one message and one registration at the most. -/
  steps : s.metrics.received ≤ tr.length ∧ s.metrics.registered ≤ tr.length

namespace Census

variable {limits : Limits} {tr : Trace} {s : State} {a : Action}

theorem initial (limits : Limits) : Census limits [] { limits } where
  limits := rfl
  places := Nat.zero_le _
  balanced _ := rfl
  received := rfl
  room := Nat.zero_le _
  numbers := .nil
  deliveries := rfl
  queues h := nomatch h
  steps := ⟨Nat.le_refl _, Nat.le_refl _⟩

theorem next (h : Census limits tr s) (hmail : Mail tr s) (hregistrations : Registrations tr s)
    (hunborn : ∀ c, s.subscriber? c = none → tr.queued c = [])
    (hposts : ∀ n c, s.unposted? n = some c → c.message? = none)
    (henabled : s.enabled a = true) :
    Census limits (tr ++ [⟨s, a, s.next a⟩]) (s.next a) := by
  have hlimits : (s.next a).limits = s.limits := s.limits_next a
  have hchange := State.change_next hregistrations.nodup henabled
  have hpresent : ∀ c ∈ s.registered, (s.subscriber? c).isSome = true :=
    fun c => hregistrations.present hmail
  constructor
  case limits => rw [hlimits, h.limits]
  case places =>
    rw [hlimits]
    by_cases ha : a = .handle
    · subst ha
      obtain ⟨command, rest, -, hnext⟩ := State.exists_next_handle henabled
      rw [hnext]
      exact State.places_perform (s := { s with mailbox := rest }) h.places command
    · rw [(hchange 0).registered_eq ha]
      split
      · exact Nat.zero_le _
      · exact h.places
  case balanced =>
    intro hopen
    obtain ⟨hbefore, hleave⟩ := State.isOpen_of_next henabled hopen
    by_cases ha : a = .handle
    · subst ha
      obtain ⟨command, rest, -, hnext⟩ := State.exists_next_handle henabled
      rw [hnext]
      exact State.Balanced.perform (s := { s with mailbox := rest }) (h.balanced hbefore)
        hregistrations.nodup hpresent command
    · obtain ⟨_, _, hmetrics⟩ := State.exists_metrics_next (s := s) ha
      have hregistered := (hchange 0).registered_eq ha
      rw [if_neg hleave] at hregistered
      have hbalanced := h.balanced hbefore
      unfold State.Balanced at hbalanced ⊢
      rw [hmetrics, hregistered]
      exact hbalanced
  case received =>
    have happend : messages (Trace.posted (tr ++ [⟨s, a, s.next a⟩])) =
        messages tr.posted ++ messages (Transition.posted ⟨s, a, s.next a⟩) := by
      rw [Trace.posted_concat]
      exact List.filterMap_append
    have hstep := State.received_next hregistrations.nodup henabled hposts
    have hreceived := h.received
    rw [happend, List.length_append]
    omega
  case room =>
    have hsame : (s.next a).mailboxLimit = s.mailboxLimit := by
      rw [State.mailboxLimit, hlimits]
      rfl
    rw [hsame]
    exact State.mailboxLoad_next_le henabled h.room
  case numbers =>
    rcases State.numbers_next henabled with hsame | ⟨id, k, -, hnew, hmore⟩
    · rw [hsame]
      exact h.numbers
    · rw [hmore, ← List.concat_eq_append]
      refine List.Nodup.concat (fun hmem => ?_) h.numbers
      have hold := (s.mem_numbers_iff id).1 hmem
      rw [hnew] at hold
      cases hold
  case deliveries =>
    rw [Trace.sum_queued_concat hunborn hchange henabled, ← h.deliveries]
    exact State.deliveries_next h.numbers hregistrations.nodup hpresent henabled
  case queues =>
    intro c q hq
    exact (hchange c).fits (fun _ => h.queues) hq
  case steps =>
    obtain ⟨hreceived, hregistered⟩ := State.metrics_next_le hregistrations.nodup henabled
    rw [List.length_append, List.length_singleton]
    exact ⟨Nat.le_trans hreceived (Nat.succ_le_succ h.steps.1),
      Nat.le_trans hregistered (Nat.succ_le_succ h.steps.2)⟩

end Census

section

variable {limits : Limits} {tr : Trace} {s : State}

theorem Run.census (h : Run { limits } tr s) : Census limits tr s := by
  -- the induction is on the run; what else is needed of its states is known by `Run.keeps`
  induction h with
  | refl => exact .initial limits
  | @step tr s a order hrun horder henabled ih =>
    rw [State.nextIn_eq_next horder]
    obtain ⟨hmail, hregistrations, hsubscribers⟩ := hrun.keeps
    exact ih.next hmail hregistrations (fun c hnone => ((hsubscribers c).1.unborn hnone).1)
      (fun _ _ => hrun.message?_of_unposted) henabled

namespace Census

/-- In less than 2⁶⁴ steps all counters but the deliveries are shown as they are. -/
theorem shownCount_eq (h : Census limits tr s) (hopen : s.isOpen = true)
    (hsteps : tr.length < wordSize) (count : Nat)
    (hcount : count ∈ [s.metrics.received, s.metrics.dropped, s.metrics.registered,
      s.metrics.unregistered, s.metrics.subscribersDropped]) : shownCount count = count := by
  have hbalanced := h.balanced hopen
  have hreceived := h.received
  obtain ⟨hmessages, hregistrations⟩ := h.steps
  unfold State.Balanced at hbalanced
  refine shownCount_of_lt ?_
  simp only [List.mem_cons, List.not_mem_nil, or_false] at hcount
  omega

/-- The number of active subscribers that is shown is that of the places taken. -/
theorem active_eq (h : Census limits tr s) (hopen : s.isOpen = true)
    (hsteps : tr.length < wordSize) : s.metrics.active = s.registered.length := by
  have hbalanced := h.balanced hopen
  have hshown := h.shownCount_eq hopen hsteps
  unfold State.Balanced at hbalanced
  rw [Metrics.active, hshown s.metrics.registered (by simp),
    hshown s.metrics.unregistered (by simp),
    hshown s.metrics.subscribersDropped (by simp)]
  omega

end Census

/-- A registration comes out of the mailbox before anything is queued for its subscriber. -/
theorem Run.queueOf_of_asks (h : Run { limits } tr s) (hrunning : s.task = .running) {id : Nat}
    {rest : List Command} (hmailbox : s.mailbox = .register id :: rest) : s.queueOf id = [] := by
  obtain ⟨hmail, hregistrations, hsubscribers⟩ := h.keeps
  obtain ⟨hcarried, hstanding⟩ := hsubscribers id
  have hfresh := hregistrations.fresh hmail hrunning hmailbox
  -- no registration of it was handled
  have hqueued : tr.queued id = [] := by
    generalize tr.queued id = queued at hstanding
    cases hstanding with
    | unasked => rfl
    | refused hhandled => exact absurd (by simp [hhandled]) hfresh
    | served hhandled => exact absurd (by simp [hhandled]) hfresh
    | ended hhandled => exact absurd (by simp [hhandled]) hfresh
  cases hq : s.subscriber? id with
  | none => simp [State.queueOf, hq]
  | some q =>
    have hcarries := hcarried.carries hq
    rw [State.queueOf, hq, Option.map_some, Option.getD_some]
    by_cases hgone : q.client = .gone
    · exact hcarries.emptied hgone
    · have hunread := hcarries.unread hgone
      rw [hqueued] at hunread
      exact (List.append_eq_nil_iff.1 hunread.symm).2

/-- What becomes of a registration for which there is no place. -/
structure Refusal (id : Nat) (s s' : State) : Prop where
  /-- It is taken out of the mailbox, -/
  mailbox : s.mailbox = .register id :: s'.mailbox
  /-- nobody gets a place or loses one, -/
  registered : s'.registered = s.registered
  /-- nothing is counted, -/
  metrics : s'.metrics = s.metrics
  /-- and all queues stay as they are, -/
  queues : ∀ c, s'.queueOf c = s.queueOf c
  /-- those of others with both their ends. -/
  others : ∀ c ≠ id, s'.subscriber? c = s.subscriber? c
  /-- Its caller, if it still waits, is told how many places there are, -/
  answered : ∀ c, s.phase? id = some (.awaiting c) →
    s'.phase? id = some (.returned (.failed (.maxSubscribers s.limits.maxSubscribers)))
  /-- and no other caller is told anything. -/
  callers : ∀ n ≠ id, s'.phase? n = s.phase? n

theorem Run.refusal (h : Run { limits } tr s) {id : Nat} {rest : List Command}
    (henabled : s.enabled .handle = true) (hmailbox : s.mailbox = .register id :: rest)
    (hfull : s.limits.maxSubscribers ≤ s.registered.length) : Refusal id s (s.next .handle) := by
  have hrunning := State.task_of_handle henabled
  have hempty := h.queueOf_of_asks hrunning hmailbox
  have hnext : s.next .handle =
      ({ s with mailbox := rest }.modify id fun q => q.release.leave).acknowledge id
        (.failed (.maxSubscribers s.limits.maxSubscribers)) := by
    simp only [State.next, hmailbox, State.perform, if_pos hfull]
  have hsubscriber (c : Nat) : (s.next .handle).subscriber? c =
      (s.subscriber? c).map fun q => if c = id then q.release.leave else q := by
    rw [hnext, State.subscriber?_acknowledge, State.subscriber?_modify]
    rfl
  have hother (c : Nat) (hc : c ≠ id) : (s.next .handle).subscriber? c = s.subscriber? c := by
    rw [hsubscriber]
    simp [hc]
  constructor
  case mailbox =>
    obtain ⟨_, hframe⟩ := State.acknowledge_frame
      ({ s with mailbox := rest }.modify id fun q => q.release.leave) id
        (.failed (.maxSubscribers s.limits.maxSubscribers))
    rw [hnext, hframe]
    exact hmailbox
  case registered =>
    rw [hnext, State.registered_acknowledge]
    rfl
  case metrics =>
    rw [hnext, State.metrics_acknowledge]
    rfl
  case queues =>
    intro c
    by_cases hc : c = id
    · -- nothing was queued for the subscriber that is refused, so nothing is lost
      subst hc
      rw [hempty, State.queueOf, hsubscriber]
      cases s.subscriber? c <;> simp [Subscriber.leave]
    · rw [State.queueOf, hother c hc, State.queueOf]
  case others => exact hother
  case answered =>
    intro c hphase
    rw [hnext]
    exact State.phase?_acknowledge_self
      ({ s with mailbox := rest }.modify id fun q => q.release.leave) id hphase _
  case callers =>
    intro n hn
    rw [hnext]
    exact State.phase?_acknowledge_of_ne _ id hn _

/-- The counters tell what a hub is doing. In every run of a new hub, as long as its dispatch task
has not left its loop:

* no subscriber has two places, and there are no more than places;
* whoever was registered has a place, or left, or was dropped, and each of these was counted once;
* so in less than 2⁶⁴ steps the counters show what was counted, and the number of active subscribers
  that they show is the number of places taken, which is also what a caller is told that counts
  them;
* a message that was written was dropped, or it waits in the mailbox, or was handed on;
* the deliveries are the messages that were queued for all subscribers together;
* no queue is longer than its capacity, which is 1 at least, and the mailbox is not longer than its
  size;
* a registration for which there is no place is refused and changes none of this. -/
theorem counters_match_subscribers (h : Run { limits } tr s) (hopen : s.isOpen = true)
    (hsteps : tr.length < wordSize) :
    (s.registered.Nodup ∧ s.registered.length ≤ limits.maxSubscribers) ∧
      s.metrics.registered =
        s.registered.length + s.metrics.unregistered + s.metrics.subscribersDropped ∧
      s.metrics.shown =
        [("messages_received", s.metrics.received), ("messages_dropped", s.metrics.dropped),
          ("deliveries", shownCount s.metrics.deliveries),
          ("subscribers_registered", s.metrics.registered),
          ("subscribers_unregistered", s.metrics.unregistered),
          ("subscribers_dropped", s.metrics.subscribersDropped),
          ("active", s.registered.length)] ∧
      (∀ id c, s.phase? id = some (.awaiting c) →
        (s.perform (.count id)).phase? id = some (.returned (.size s.metrics.active))) ∧
      s.metrics.received =
        s.metrics.dropped + (messages s.mailbox).length +
          (messages (tr.handled.map Handling.command)).length ∧
      s.metrics.deliveries = (s.numbers.map fun c => (tr.queued c).length).sum ∧
      (∀ c q, s.subscriber? c = some q → 0 < q.capacity ∧ q.queue.length ≤ q.capacity) ∧
      s.mailbox.length ≤ max limits.mailboxSize 1 ∧
      ∀ id rest, s.enabled .handle = true → s.mailbox = .register id :: rest →
        limits.maxSubscribers ≤ s.registered.length → Refusal id s (s.next .handle) := by
  have hcensus := h.census
  obtain ⟨hmail, hregistrations, -⟩ := h.keeps
  have hlimits := hcensus.limits
  have hactive := hcensus.active_eq hopen hsteps
  have hshown := hcensus.shownCount_eq hopen hsteps
  refine ⟨⟨hregistrations.nodup, hlimits ▸ hcensus.places⟩, hcensus.balanced hopen, ?_, ?_, ?_,
    hcensus.deliveries, fun c q => hcensus.queues, ?_, ?_⟩
  · rw [Metrics.shown, hactive, hshown s.metrics.received (by simp),
      hshown s.metrics.dropped (by simp),
      hshown s.metrics.registered (by simp),
      hshown s.metrics.unregistered (by simp),
      hshown s.metrics.subscribersDropped (by simp)]
  · intro id c hphase
    rw [hactive]
    exact s.phase?_acknowledge_self id hphase _
  · -- until the task has ended nothing that was posted is lost
    have hended := State.task_ne_ended_of_isOpen hopen
    have hposted : (messages tr.posted).length =
        (messages (tr.handled.map Handling.command)).length + (messages s.mailbox).length := by
      rw [hmail.waiting hended, messages, List.filterMap_append, List.length_append]
      rfl
    rw [hcensus.received, hposted]
    omega
  · have hroom := hcensus.room
    rw [State.mailboxLoad_eq, State.mailboxLimit, hlimits] at hroom
    exact Nat.le_trans (Nat.le_add_right _ _) hroom
  · intro id rest henabled hmailbox hfull
    exact h.refusal henabled hmailbox (hlimits.symm ▸ hfull)

/-- Of the first two subscribers one is dropped with a full queue. The third is gone before it gets
a place, and keeps it until the next message. So there is none for the fourth. -/
theorem counters_match_subscribers_no_place :
    ∃ tr s, Run { limits := { mailboxSize := 2, maxSubscribers := 2 } } tr s ∧
      s.isOpen = true ∧ tr.length < wordSize ∧ s.registered = [1, 2] ∧
      s.metrics.shown = [("messages_received", 4), ("messages_dropped", 1), ("deliveries", 3),
        ("subscribers_registered", 3), ("subscribers_unregistered", 0),
        ("subscribers_dropped", 1), ("active", s.registered.length)] ∧
      s.mailbox = [.register 3, .broadcast (noticeOf "third")] ∧
      Refusal 3 s (s.next .handle) := by
  obtain ⟨tr, s, hplay, hopen, hsteps, hregistered, henabled, hmailbox, hreceived, hdropped,
      hdeliveries, hcounts⟩ :
      ∃ tr s, Run.play
          [.start, .call 0 (.subscribe 1), .proceed 0, .proceed 0, .handle, .call 1 (.subscribe 4),
            .proceed 1, .proceed 1, .handle, .write (noticeOf "first"), .handle,
            .write (noticeOf "second"), .handle, .call 2 (.subscribe 4), .proceed 2, .proceed 2,
            .abandon 2, .handle, .call 3 (.subscribe 4), .proceed 3, .proceed 3,
            .write (noticeOf "third"), .write (noticeOf "fourth")] []
            { limits := { mailboxSize := 2, maxSubscribers := 2 } } = some (tr, s) ∧
        s.isOpen = true ∧ tr.length < wordSize ∧ s.registered = [1, 2] ∧
        s.enabled .handle = true ∧ s.mailbox = [.register 3, .broadcast (noticeOf "third")] ∧
        s.metrics.received = 4 ∧ s.metrics.dropped = 1 ∧ s.metrics.deliveries = 3 ∧
        s.metrics.registered = 3 ∧ s.metrics.unregistered = 0 ∧ s.metrics.subscribersDropped = 1 :=
    ⟨_, _, rfl, rfl, by decide, rfl, rfl, rfl, rfl, rfl, rfl, rfl, rfl, rfl⟩
  have hrun := Run.refl.of_play hplay
  obtain ⟨-, -, hshown, -, -, -, -, -, hrefusal⟩ := counters_match_subscribers hrun hopen hsteps
  rw [hreceived, hdropped, hdeliveries, hcounts.1, hcounts.2.1, hcounts.2.2] at hshown
  refine ⟨tr, s, hrun, hopen, hsteps, hregistered, ?_, hmailbox, ?_⟩
  · rw [hshown, shownCount_of_lt (n := 3) (by decide)]
  · exact hrefusal 3 _ henabled hmailbox (by simp [hregistered])

end

end SyslogCollector.Hub
