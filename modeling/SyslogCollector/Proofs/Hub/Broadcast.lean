import Mathlib.Data.List.Perm.Basic
import SyslogCollector.Hub.Step
/-!
# Broadcasts

A broadcast goes through the registered subscribers one by one. What it does to one of them depends
on that one alone (`subscriber?_broadcast`, `mem_registered_broadcast`), so the order in which it
goes through them makes no difference, not even to the counters (`broadcast_eq_of_perm`).
-/

namespace SyslogCollector.Hub

namespace Subscriber

/-- Whether a message that is offered now is queued. -/
def takes (q : Subscriber) : Bool :=
  q.isConnected && q.queue.length < q.capacity

/-- What is left of the queue of a registered subscriber after a broadcast. -/
def handed (q : Subscriber) (m : Message) : Subscriber :=
  if q.takes then { q with queue := q.queue ++ [m] } else q.release

theorem offer_of_takes {q : Subscriber} (h : q.takes = true) (m : Message) :
    q.offer m = (.sent, { q with queue := q.queue ++ [m] }) := by
  simp only [takes, Bool.and_eq_true, decide_eq_true_eq] at h
  simp [offer, h.1, h.2]

theorem offer_of_not_takes {q : Subscriber} (h : q.takes = false) (m : Message) :
    q.offer m = (.full, q) ∨ q.offer m = (.closed, q) := by
  unfold offer
  split
  · exact .inr rfl
  · rename_i hconnected
    rw [Bool.not_eq_true, Bool.not_eq_false'] at hconnected
    exact .inl (if_pos (by simpa [takes, hconnected] using h))

end Subscriber

/-- The counters after one more offer. -/
def Metrics.countOffer (x : Metrics) : Delivery → Metrics
  | .sent => { x with deliveries := x.deliveries + 1 }
  | .full => { x with subscribersDropped := x.subscribersDropped + 1 }
  | .closed => { x with unregistered := x.unregistered + 1 }

theorem Metrics.countOffer_comm (x : Metrics) (d e : Delivery) :
    (x.countOffer d).countOffer e = (x.countOffer e).countOffer d := by
  cases d <;> cases e <;> rfl

namespace State

/-! ### Changed queues -/

theorem subscriber?_modify (s : State) (id c : Nat) (f : Subscriber → Subscriber) :
    (s.modify id f).subscriber? c = (s.subscriber? c).map fun q => if c = id then f q else q := by
  have hentries : (s.modify id f).subscribers =
      s.subscribers.map fun e => (e.1, if e.1 = id then f e.2 else e.2) := by
    refine List.map_congr_left fun ⟨n, q⟩ _ => ?_
    by_cases hn : n = id <;> simp [hn]
  unfold subscriber?
  rw [hentries]
  exact Numbered.lookup_map (fun n q => if n = id then f q else q) c s.subscribers

theorem subscriber?_modify_of_ne {id c : Nat} (h : c ≠ id) (s : State)
    (f : Subscriber → Subscriber) : (s.modify id f).subscriber? c = s.subscriber? c := by
  simp [subscriber?_modify, h]

theorem modify_comm {a b : Nat} (h : a ≠ b) (s : State) (f g : Subscriber → Subscriber) :
    (s.modify a f).modify b g = (s.modify b g).modify a f := by
  unfold modify
  simp only [List.map_map, State.mk.injEq, true_and, and_true]
  refine List.map_congr_left fun ⟨n, q⟩ _ => ?_
  by_cases ha : n = a
  · simp [ha, h]
  · by_cases hb : n = b <;> simp [ha, hb, h.symm]

/-! ### One subscriber -/

theorem deliver_of_none {s : State} {id : Nat} (h : s.subscriber? id = none) (m : Message) :
    s.deliver m id = s := by
  simp [deliver, h]

/-- What a broadcast does where it comes to a subscriber. -/
theorem deliver_of_some {s : State} {id : Nat} {q : Subscriber} (h : s.subscriber? id = some q)
    (m : Message) :
    s.deliver m id =
      { s.modify id (if q.takes then fun _ => q.handed m else Subscriber.release) with
        registered := if q.takes then s.registered else s.registered.filter (· != id)
        metrics := s.metrics.countOffer (q.offer m).1 } := by
  unfold deliver
  simp only [h]
  cases htakes : q.takes with
  | true =>
    simp [Subscriber.offer_of_takes htakes, Subscriber.handed, htakes, Metrics.countOffer, modify]
  | false =>
    rcases Subscriber.offer_of_not_takes htakes m with hoffer | hoffer <;>
      simp [hoffer, Metrics.countOffer, modify, giveUp]

theorem subscriber?_deliver (s : State) (m : Message) (id c : Nat) :
    (s.deliver m id).subscriber? c =
      (s.subscriber? c).map fun q => if c = id then q.handed m else q := by
  cases h : s.subscriber? id with
  | none =>
    rw [deliver_of_none h]
    by_cases hc : c = id <;> simp [hc, h]
  | some q =>
    rw [deliver_of_some h]
    refine (subscriber?_modify s id c _).trans ?_
    by_cases hc : c = id
    · subst hc
      cases htakes : q.takes <;> simp [h, Subscriber.handed, htakes]
    · simp [hc]

theorem mem_registered_deliver (s : State) (m : Message) (id c : Nat) :
    c ∈ (s.deliver m id).registered ↔
      c ∈ s.registered ∧ (c = id → ∀ q ∈ s.subscriber? c, q.takes = true) := by
  cases h : s.subscriber? id with
  | none =>
    rw [deliver_of_none h, iff_self_and]
    rintro - rfl q hq
    cases h.symm.trans hq
  | some q =>
    rw [deliver_of_some h]
    by_cases hc : c = id
    · subst hc
      cases htakes : q.takes <;> simp [h, htakes]
    · cases htakes : q.takes <;> simp [hc]

/-- Two subscribers can be handed a message in either order. -/
theorem deliver_comm (s : State) (m : Message) (a b : Nat) :
    (s.deliver m a).deliver m b = (s.deliver m b).deliver m a := by
  by_cases hab : a = b
  · rw [hab]
  cases ha : s.subscriber? a with
  | none =>
    have ha' : (s.deliver m b).subscriber? a = none := by simp [subscriber?_deliver, ha]
    rw [deliver_of_none ha, deliver_of_none ha']
  | some p =>
    cases hb : s.subscriber? b with
    | none =>
      have hb' : (s.deliver m a).subscriber? b = none := by simp [subscriber?_deliver, hb]
      rw [deliver_of_none hb, deliver_of_none hb']
    | some q =>
      have ha' : (s.deliver m b).subscriber? a = some p := by simp [subscriber?_deliver, ha, hab]
      have hb' : (s.deliver m a).subscriber? b = some q := by
        simp [subscriber?_deliver, hb, Ne.symm hab]
      rw [deliver_of_some hb', deliver_of_some ha', deliver_of_some ha, deliver_of_some hb]
      -- only the queues, the registrations and the counters differ
      dsimp only [modify]
      congr 1
      · exact congrArg State.subscribers (modify_comm hab s _ _)
      · have hfilter : (s.registered.filter (· != a)).filter (· != b) =
            (s.registered.filter (· != b)).filter (· != a) := by
          simp only [List.filter_filter, Bool.and_comm]
        cases p.takes <;> cases q.takes <;> first | rfl | exact hfilter
      · exact s.metrics.countOffer_comm _ _

/-- Where a broadcast comes to a subscriber, it changes queues, registrations and counters only. -/
theorem deliver_frame (s : State) (m : Message) (id : Nat) :
    ∃ subscribers registered metrics,
      s.deliver m id = { s with subscribers, registered, metrics } ∧
        registered.Sublist s.registered := by
  cases h : s.subscriber? id with
  | none => exact ⟨_, _, _, deliver_of_none h m, .refl _⟩
  | some q =>
    refine ⟨_, _, _, deliver_of_some h m, ?_⟩
    cases q.takes
    · exact List.filter_sublist
    · exact .refl _

/-! ### All subscribers -/

/-- A message is handed to subscribers in some order. -/
def broadcast (s : State) (order : List Nat) (m : Message) : State :=
  order.foldl (deliver m) s

/-- A broadcast comes to the same whatever its order. -/
theorem broadcast_eq_of_perm {order order' : List Nat} (h : order.Perm order') (s : State)
    (m : Message) : s.broadcast order m = s.broadcast order' m :=
  h.foldl_eq' (fun a _ b _ s => deliver_comm s m a b) s

/-- Every subscriber is handed the message once. -/
theorem subscriber?_broadcast {order : List Nat} (h : order.Nodup) (s : State) (m : Message)
    (c : Nat) : (s.broadcast order m).subscriber? c =
      (s.subscriber? c).map fun q => if c ∈ order then q.handed m else q := by
  induction order generalizing s with
  | nil => simp [broadcast]
  | cons id rest ih =>
    rw [List.nodup_cons] at h
    refine (ih h.2 (s.deliver m id)).trans ?_
    rw [subscriber?_deliver, Option.map_map]
    congr 1
    funext q
    by_cases hc : c = id
    · subst hc
      simp [h.1]
    · simp [hc]

/-- A subscriber stays registered just if it took the message. -/
theorem mem_registered_broadcast {order : List Nat} (h : order.Nodup) (s : State) (m : Message)
    (c : Nat) : c ∈ (s.broadcast order m).registered ↔
      c ∈ s.registered ∧ (c ∈ order → ∀ q ∈ s.subscriber? c, q.takes = true) := by
  induction order generalizing s with
  | nil => simp [broadcast]
  | cons id rest ih =>
    rw [List.nodup_cons] at h
    refine (ih h.2 (s.deliver m id)).trans ?_
    rw [mem_registered_deliver, subscriber?_deliver]
    by_cases hc : c = id
    · subst hc
      simp [h.1]
    · simp [hc]

/-- A broadcast changes queues, registrations and counters only. -/
theorem broadcast_frame (s : State) (order : List Nat) (m : Message) :
    ∃ subscribers registered metrics,
      s.broadcast order m = { s with subscribers, registered, metrics } ∧
        registered.Sublist s.registered := by
  induction order generalizing s with
  | nil => exact ⟨_, _, _, rfl, .refl _⟩
  | cons id rest ih =>
    obtain ⟨subscribers, registered, metrics, heq, hsub⟩ := s.deliver_frame m id
    obtain ⟨subscribers', registered', metrics', heq', hsub'⟩ := ih (s.deliver m id)
    refine ⟨subscribers', registered', metrics', heq'.trans ?_, ?_⟩
    · rw [heq]
    · rw [heq] at hsub'
      exact hsub'.trans hsub

end State

end SyslogCollector.Hub
