import Mathlib.Data.List.Nodup
import Mathlib.Data.List.Perm.Subperm
import SyslogCollector.Proofs.Hub.Stream
/-!
# What a step counts

A broadcast offers its message to every registered subscriber, and every offer is counted by its
result (`metrics_broadcast`): one that is sent makes a queue longer, the others give the subscriber
up. A write counts its message as received and, if there is no room for it, as dropped. No other
step but a handled command changes a counter (`metrics_next_of_ne`).
-/

namespace SyslogCollector.Hub

/-- Offers are counted by their results. -/
theorem Metrics.foldl_countOffer (x : Metrics) (offers : List Delivery) :
    offers.foldl countOffer x =
      { x with
        deliveries := x.deliveries + offers.count .sent
        subscribersDropped := x.subscribersDropped + offers.count .full
        unregistered := x.unregistered + offers.count .closed } := by
  induction offers generalizing x with
  | nil => rfl
  | cons offer rest ih =>
    rw [List.foldl_cons, ih]
    cases offer <;> simp [countOffer] <;> omega

/-- An offer has one of three results. -/
theorem length_eq_count_add (offers : List Delivery) :
    offers.length = offers.count .sent + offers.count .full + offers.count .closed := by
  induction offers with
  | nil => rfl
  | cons offer rest ih => cases offer <;> simp [ih] <;> omega

theorem Subscriber.offer_eq_sent_iff (q : Subscriber) (m : Message) :
    (q.offer m).1 = .sent ↔ q.takes = true := by
  cases htakes : q.takes with
  | true => simp [offer_of_takes htakes]
  | false => rcases offer_of_not_takes htakes m with h | h <;> simp [h]

namespace State

/-! ### Broadcasts -/

/-- Whether a subscriber that is there takes a message. -/
def takesAt (s : State) (c : Nat) : Bool := (s.subscriber? c).any Subscriber.takes

/-- The results of the offers that a broadcast makes. -/
def offers (s : State) (order : List Nat) (m : Message) : List Delivery :=
  order.filterMap fun c => (s.subscriber? c).map fun q => (q.offer m).1

section

variable {s : State} {order : List Nat}

theorem metrics_deliver (s : State) (m : Message) (id : Nat) :
    (s.deliver m id).metrics = (s.offers [id] m).foldl Metrics.countOffer s.metrics := by
  cases hq : s.subscriber? id with
  | none => simp [deliver_of_none hq, offers, hq]
  | some q => simp [deliver_of_some hq, offers, hq]

/-- A broadcast counts its offers and nothing else. -/
theorem metrics_broadcast (h : order.Nodup) (s : State) (m : Message) :
    (s.broadcast order m).metrics = (s.offers order m).foldl Metrics.countOffer s.metrics := by
  induction order generalizing s with
  | nil => rfl
  | cons id rest ih =>
    rw [List.nodup_cons] at h
    -- the first offer does not touch those that come later
    have hrest : (s.deliver m id).offers rest m = s.offers rest m := by
      refine List.filterMap_congr fun c hc => ?_
      have hne : c ≠ id := fun heq => h.1 (heq ▸ hc)
      simp [subscriber?_deliver, hne]
    have hsplit : s.offers (id :: rest) m = s.offers [id] m ++ s.offers rest m :=
      List.filterMap_append (l := [id])
    have hfirst := ih h.2 (s.deliver m id)
    rw [hrest, metrics_deliver, ← List.foldl_append, ← hsplit] at hfirst
    exact hfirst

/-- Everybody in the order gets an offer. -/
theorem length_offers (hpresent : ∀ c ∈ order, (s.subscriber? c).isSome = true) (m : Message) :
    (s.offers order m).length = order.length := by
  unfold offers
  rw [List.length_filterMap_eq_countP, List.countP_eq_length]
  exact fun c hc => by simpa using hpresent c hc

/-- The offers that are sent are those to subscribers that take a message. -/
theorem count_sent_offers (s : State) (order : List Nat) (m : Message) :
    (s.offers order m).count .sent = order.countP s.takesAt := by
  induction order with
  | nil => rfl
  | cons id rest ih =>
    unfold offers at ih ⊢
    rw [List.countP_cons, ← ih, List.filterMap_cons]
    cases hq : s.subscriber? id with
    | none => simp [takesAt, hq]
    | some q => simp [takesAt, hq, List.count_cons, q.offer_eq_sent_iff]

/-- After a broadcast those are registered that took the message. -/
theorem registered_broadcast_perm (h : s.registered.Nodup)
    (hpresent : ∀ c ∈ s.registered, (s.subscriber? c).isSome = true) (m : Message) :
    (s.broadcast s.registered m).registered.Perm (s.registered.filter s.takesAt) := by
  obtain ⟨_, registered, _, heq, hsub⟩ := s.broadcast_frame s.registered m
  have hnodup : (s.broadcast s.registered m).registered.Nodup := by
    rw [heq]
    exact h.sublist hsub
  refine (List.perm_ext_iff_of_nodup hnodup (h.filter _)).2 fun c => ?_
  rw [mem_registered_broadcast h, List.mem_filter]
  refine and_congr_right fun hc => ?_
  obtain ⟨q, hq⟩ := Option.isSome_iff_exists.1 (hpresent c hc)
  simp [takesAt, hq, hc]

/-! ### Handled commands -/

/-- The counters once a command is handled. -/
def counted (s : State) : Command → Metrics
  | .register _ =>
    if s.limits.maxSubscribers ≤ s.registered.length then s.metrics
    else { s.metrics with registered := s.metrics.registered + 1 }
  | .unregister id =>
    if id ∈ s.registered then { s.metrics with unregistered := s.metrics.unregistered + 1 }
    else s.metrics
  | .broadcast m => (s.offers s.registered m).foldl Metrics.countOffer s.metrics
  | .count _ => s.metrics

@[simp]
theorem metrics_acknowledge (s : State) (id : Nat) (outcome : Outcome) :
    (s.acknowledge id outcome).metrics = s.metrics := by
  unfold acknowledge
  split <;> rfl

theorem metrics_perform (h : s.registered.Nodup) (command : Command) :
    (s.perform command).metrics = s.counted command := by
  cases command with
  | register id =>
    simp only [perform, counted]
    split
    · rw [metrics_acknowledge]
      rfl
    · rw [metrics_acknowledge]
  | unregister id =>
    simp only [perform, counted]
    split <;> rfl
  | broadcast m => exact metrics_broadcast h s m
  | count id => rw [perform, metrics_acknowledge, counted]

/-- Whether every subscriber that was registered is still registered, or was counted as one that
left or was given up. -/
def Balanced (s : State) : Prop :=
  s.metrics.registered =
    s.registered.length + s.metrics.unregistered + s.metrics.subscribersDropped

/-- A handled command that removes subscribers counts them. -/
theorem Balanced.perform (h : s.Balanced) (hnodup : s.registered.Nodup)
    (hpresent : ∀ c ∈ s.registered, (s.subscriber? c).isSome = true) (command : Command) :
    (s.perform command).Balanced := by
  unfold Balanced at h ⊢
  rw [metrics_perform hnodup]
  cases command with
  | register id =>
    by_cases hfull : s.limits.maxSubscribers ≤ s.registered.length
    · simpa [State.perform, counted, hfull, modify] using h
    · simp only [State.perform, counted, hfull, if_false, registered_acknowledge,
        List.length_append, List.length_singleton]
      omega
  | unregister id =>
    by_cases hmem : id ∈ s.registered
    · have hlength : (s.registered.filter (· != id)).length + 1 = s.registered.length := by
        rw [← hnodup.erase_eq_filter, List.length_erase_of_mem hmem]
        have hpos := List.length_pos_of_mem hmem
        omega
      simp only [State.perform, counted, hmem, if_true, giveUp]
      omega
    · simpa [State.perform, counted, hmem] using h
  | broadcast m =>
    -- whoever has no place after the broadcast did not take the message, and that was counted
    have hkept : (s.perform (.broadcast m)).registered.length =
        (s.offers s.registered m).count .sent := by
      rw [count_sent_offers, List.countP_eq_length_filter]
      exact (registered_broadcast_perm hnodup hpresent m).length_eq
    have hall := length_offers hpresent m
    rw [length_eq_count_add] at hall
    rw [hkept, counted, Metrics.foldl_countOffer]
    dsimp only
    omega
  | count id => simpa [State.perform, counted] using h

/-! ### Other steps -/

theorem limits_next (s : State) (a : Action) : (s.next a).limits = s.limits := by
  cases a with
  | write m =>
    simp only [next, write]
    split <;> rfl
  | call id c =>
    obtain ⟨_, _, h⟩ := s.begin_frame id c
    simp only [next, h]
  | proceed id =>
    simp only [next]
    split
    · obtain ⟨_, _, _, h, -⟩ := s.proceed_frame id _
      rw [h]
    · rfl
  | abandon id =>
    obtain ⟨_, _, h⟩ := s.abandon_frame id
    simp only [next, h]
  | handle =>
    simp only [next]
    split
    · rename_i c rest _
      obtain ⟨_, _, _, _, h⟩ := perform_frame { s with mailbox := rest } c
      rw [h]
    · rfl
  | conclude =>
    obtain ⟨_, _, h⟩ := s.conclude_frame
    simp only [next, h]
  | _ => rfl

/-- Only a message that is written and a command that is handled are counted. -/
theorem metrics_next_of_ne {a : Action} (hwrite : ∀ m, a ≠ .write m) (hhandle : a ≠ .handle)
    (s : State) : (s.next a).metrics = s.metrics := by
  cases a with
  | write m => exact absurd rfl (hwrite m)
  | handle => exact absurd rfl hhandle
  | call id c =>
    obtain ⟨_, _, h⟩ := s.begin_frame id c
    simp only [next, h]
  | proceed id =>
    simp only [next]
    split
    · obtain ⟨_, _, _, h, -⟩ := s.proceed_frame id _
      rw [h]
    · rfl
  | abandon id =>
    obtain ⟨_, _, h⟩ := s.abandon_frame id
    simp only [next, h]
  | conclude =>
    obtain ⟨_, _, h⟩ := s.conclude_frame
    simp only [next, h]
  | _ => rfl

/-! ### Who ever subscribed -/

/-- The numbers of all who ever subscribed. -/
def numbers (s : State) : List Nat := s.subscribers.map Prod.fst

@[simp]
theorem numbers_modify (s : State) (id : Nat) (f : Subscriber → Subscriber) :
    (s.modify id f).numbers = s.numbers := by
  unfold numbers modify
  rw [List.map_map]
  refine List.map_congr_left fun ⟨n, q⟩ _ => ?_
  by_cases hn : n = id <;> simp [hn]

theorem mem_numbers_iff (s : State) (c : Nat) :
    c ∈ s.numbers ↔ (s.subscriber? c).isSome = true := by
  rw [← not_iff_not, numbers, ← Numbered.lookup_eq_none_iff_not_mem, Option.not_isSome_iff_eq_none,
    subscriber?]

theorem numbers_deliver (s : State) (m : Message) (id : Nat) :
    (s.deliver m id).numbers = s.numbers := by
  cases hq : s.subscriber? id with
  | none => rw [deliver_of_none hq]
  | some q =>
    rw [deliver_of_some hq]
    exact numbers_modify s id _

theorem numbers_broadcast (s : State) (order : List Nat) (m : Message) :
    (s.broadcast order m).numbers = s.numbers := by
  induction order generalizing s with
  | nil => rfl
  | cons id rest ih => exact (ih _).trans (s.numbers_deliver m id)

theorem numbers_acknowledge (s : State) (id : Nat) (outcome : Outcome) :
    (s.acknowledge id outcome).numbers = s.numbers := by
  unfold acknowledge
  split <;> rfl

theorem numbers_perform (s : State) (command : Command) :
    (s.perform command).numbers = s.numbers := by
  cases command with
  | register id =>
    simp only [perform]
    split
    · rw [numbers_acknowledge, numbers_modify]
    · rw [numbers_acknowledge]
      rfl
  | unregister id =>
    simp only [perform]
    split
    · exact numbers_modify s id _
    · rfl
  | broadcast m => exact s.numbers_broadcast _ m
  | count id => rw [perform, numbers_acknowledge]

/-- Only a subscription adds a number. -/
theorem numbers_next {a : Action} (henabled : s.enabled a = true) :
    (s.next a).numbers = s.numbers ∨
      ∃ id k, a = .call id (.subscribe k) ∧ s.subscriber? id = none ∧
        (s.next a).numbers = s.numbers ++ [id] := by
  cases a with
  | write m =>
    left
    simp only [next, write]
    split <;> rfl
  | call id c =>
    cases c with
    | subscribe k =>
      have hnew : s.subscriber? id = none := by simp_all [enabled]
      refine .inr ⟨id, k, rfl, hnew, ?_⟩
      have hassign := Numbered.assign_of_lookup_eq_none hnew (.withCapacity k)
      simp only [next, begin, move, numbers, hassign, List.map_append, List.map_singleton]
    | wait =>
      left
      simp only [next, begin]
      split <;> rfl
    | _ => exact .inl rfl
  | proceed id =>
    left
    obtain ⟨phase, hphase, -⟩ := (Option.any_eq_true _ _).1 henabled
    simp only [next, hphase]
    cases phase with
    | posting c =>
      simp only [proceed]
      split
      · rfl
      · exact numbers_modify s id _
    | admitted c => cases c <;> rfl
    | _ => rfl
  | abandon id =>
    left
    simp only [next, abandon]
    split
    · rfl
    · rfl
    · exact numbers_modify s id _
  | handle =>
    left
    simp only [next]
    split
    · exact numbers_perform _ _
    · rfl
  | leave =>
    left
    simp only [next, leave, numbers, List.map_map]
    refine List.map_congr_left ?_
    rintro ⟨n, q⟩ -
    by_cases hn : n ∈ s.registered <;> simp [hn]
  | conclude =>
    left
    have hfold (ids : List Nat) (t : State) :
        (ids.foldl (fun s id => s.fail id .stopped) t).numbers = t.numbers := by
      induction ids generalizing t with
      | nil => rfl
      | cons id rest ih => exact (ih _).trans (numbers_modify t id _)
    exact hfold _ _
  | receive id | close id | drop id => exact .inl (numbers_modify s id _)
  | start | stop => exact .inl rfl

end

end State

end SyslogCollector.Hub
