import SyslogCollector.Proofs.Hub.Callers
import SyslogCollector.Proofs.Hub.Outlook
import SyslogCollector.Tail.Step
/-!
# Connections and their calls

What a step of the live tail does to the hub and to the connections (`Stride`), and where a
connection stands when its two calls of the hub stand somewhere (`Seating`). A connection holds its
permit until both calls have returned.
-/

namespace SyslogCollector.Tail

theorem subscriberOf_inj {m n : Nat} : subscriberOf m = subscriberOf n ↔ m = n := by
  unfold subscriberOf
  omega

theorem leaverOf_inj {m n : Nat} : leaverOf m = leaverOf n ↔ m = n := by
  unfold leaverOf
  omega

theorem subscriberOf_ne_leaverOf (m n : Nat) : subscriberOf m ≠ leaverOf n := by
  unfold subscriberOf leaverOf
  omega

/-- Every number belongs to a connection. -/
theorem exists_connection (c : Nat) : ∃ n, c = subscriberOf n ∨ c = leaverOf n := by
  unfold subscriberOf leaverOf
  exact ⟨c / 2, by omega⟩

/-! ### Steps -/

namespace State

variable {s : State}

/-- What a step does to the hub and to the connections. -/
inductive Stride (s : State) : Hub.State → List (Nat × Phase) → Prop
  /-- The hub goes on. -/
  | hub {b : Hub.Action} :
      isHubsOwn b = true → s.hub.enabled b = true → Stride s (s.hub.next b) s.connections
  /-- Neither hub nor connections do anything. -/
  | rest : Stride s s.hub s.connections
  /-- A client gets a permit, and its connection subscribes. -/
  | admitted {n : Nat} :
      s.phase? n = none → s.permitsHeld < s.options.permits →
        Stride s
          (s.hub.next (.call (subscriberOf n) (.subscribe s.hub.limits.subscriberBuffer)))
          (Numbered.assign n .subscribing s.connections)
  /-- A client finds no permit. -/
  | turnedAway {n : Nat} :
      s.phase? n = none → Stride s s.hub (Numbered.assign n .turnedAway s.connections)
  /-- A connection is subscribed. -/
  | subscribed {n : Nat} :
      s.phase? n = some .subscribing →
        s.hub.phase? (subscriberOf n) = some (.returned .done) →
          Stride s s.hub (Numbered.assign n .streaming s.connections)
  /-- A connection is not subscribed. -/
  | refused {n : Nat} {outcome : Hub.Outcome} :
      s.phase? n = some .subscribing →
        s.hub.phase? (subscriberOf n) = some (.returned outcome) → outcome ≠ .done →
          Stride s s.hub (Numbered.assign n .ended s.connections)
  /-- A connection takes a message. -/
  | took {n : Nat} {m : Message} :
      s.phase? n = some .streaming → (s.hub.subscriber? (subscriberOf n)).isSome = true →
        Stride s (s.hub.next (.receive (subscriberOf n)))
          (Numbered.assign n (.sending m) s.connections)
  /-- A connection has written its line. -/
  | wrote {n : Nat} {m : Message} :
      s.phase? n = some (.sending m) →
        Stride s s.hub (Numbered.assign n .streaming s.connections)
  /-- A connection takes leave. -/
  | left {n : Nat} :
      s.phase? n = some .streaming ∨ (∃ m, s.phase? n = some (.sending m)) →
        Stride s (s.hub.next (.call (leaverOf n) (.unsubscribe (subscriberOf n))))
          (Numbered.assign n .leaving s.connections)
  /-- A connection comes to its end. -/
  | concluded {n : Nat} {outcome : Hub.Outcome} :
      s.phase? n = some .leaving → s.hub.phase? (leaverOf n) = some (.returned outcome) →
        Stride s (s.hub.next (.drop (subscriberOf n)))
          (Numbered.assign n .ended s.connections)

/-- A subscription that the hub has decided has returned. -/
theorem phase?_of_subscription? {n : Nat} {outcome : Hub.Outcome}
    (h : s.subscription? n = some outcome) :
    s.hub.phase? (subscriberOf n) = some (.returned outcome) := by
  unfold subscription? at h
  split at h
  · rename_i hphase
    rw [hphase, Option.some.inj h]
  · cases h

theorem stride_takeLeave {n : Nat}
    (h : s.phase? n = some .streaming ∨ ∃ m, s.phase? n = some (.sending m)) :
    Stride s (s.takeLeave n).hub (s.takeLeave n).connections := .left h

theorem isSending_iff {n : Nat} :
    s.isSending n = true ↔ ∃ m, s.phase? n = some (.sending m) := by
  unfold isSending
  split
  · rename_i m hphase
    simp [hphase]
  · rename_i hphase
    simpa using hphase

theorem stride_next {a : Action} (henabled : s.enabled a = true) :
    Stride s (s.next a).hub (s.next a).connections := by
  have hstreaming {n : Nat} (h : s.isStreaming n = true) : s.phase? n = some .streaming := by
    simpa [isStreaming] using h
  cases a with
  | hub b =>
    simp only [enabled, Bool.and_eq_true] at henabled
    exact .hub henabled.1 henabled.2
  | connect n =>
    simp only [enabled, Bool.and_eq_true, Option.isNone_iff_eq_none] at henabled
    simp only [next, connect]
    split
    · rename_i hroom
      exact .admitted henabled.2 hroom
    · exact .turnedAway henabled.2
  | subscribed n =>
    simp only [enabled, Bool.and_eq_true, beq_iff_eq] at henabled
    obtain ⟨hphase, hdecided⟩ := henabled
    obtain ⟨outcome, houtcome⟩ := Option.isSome_iff_exists.1 hdecided
    have hreturned := phase?_of_subscription? houtcome
    simp only [next, houtcome, Option.some.injEq]
    split
    · rename_i hdone
      exact .subscribed hphase (hdone ▸ hreturned)
    · rename_i hfailed
      exact .refused hphase hreturned hfailed
  | take n =>
    simp only [enabled, Bool.and_eq_true] at henabled
    have hpresent : (s.hub.subscriber? (subscriberOf n)).isSome = true := by
      cases hq : s.hub.subscriber? (subscriberOf n) with
      | none => simp [receipt, hq] at henabled
      | some q => rfl
    simp only [next]
    split
    · exact .took (hstreaming henabled.1) hpresent
    · exact .rest
  | sent n =>
    obtain ⟨m, hphase⟩ := isSending_iff.1 henabled
    simp only [next, hphase]
    exact .wrote hphase
  | sendFailed n => exact stride_takeLeave (.inr (isSending_iff.1 henabled))
  | clientLeft n => exact stride_takeLeave (.inl (hstreaming henabled))
  | givenUp n =>
    simp only [enabled, Bool.and_eq_true] at henabled
    exact stride_takeLeave (.inl (hstreaming henabled.1))
  | halt n =>
    simp only [enabled, Bool.and_eq_true, Bool.or_eq_true] at henabled
    exact stride_takeLeave (henabled.2.imp hstreaming isSending_iff.1)
  | conclude n =>
    simp only [enabled, Bool.and_eq_true, beq_iff_eq] at henabled
    obtain ⟨hphase, hback⟩ := henabled
    unfold isGivenBack at hback
    split at hback
    · rename_i hreturned
      exact .concluded hphase hreturned
    · cases hback
  | stop | close => exact .rest

theorem options_next (s : State) (a : Action) : (s.next a).options = s.options := by
  cases a with
  | connect n =>
    simp only [next, connect]
    split <;> rfl
  | take n =>
    simp only [next]
    split <;> rfl
  | sent n =>
    simp only [next]
    split <;> rfl
  | _ => rfl

end State

/-! ### Seats -/

/-- Where a connection can stand, by how far its subscription and its leave are with a hub whose
mailbox is open or not. -/
inductive Seating (n : Nat) (isOpen : Bool) :
    Option Phase → Option Hub.Phase → Option Hub.Phase → Prop
  /-- There is no such connection. -/
  | unknown : Seating n isOpen none none none
  /-- It has no permit and calls nobody. -/
  | turnedAway : Seating n isOpen (some .turnedAway) none none
  /-- It asks for a place. An open hub has no other answer than that it has one. -/
  | subscribing {p : Hub.Phase} :
      p.unposted? = some (.register (subscriberOf n)) ∨ p = .awaiting (.register (subscriberOf n)) ∨
          (∃ outcome, p = .returned outcome ∧ (outcome = .done ∨ isOpen = false)) →
        Seating n isOpen (some .subscribing) (some p) none
  /-- It waits for a message. -/
  | streaming : Seating n isOpen (some .streaming) (some (.returned .done)) none
  /-- It writes a message. -/
  | sending {m : Message} : Seating n isOpen (some (.sending m)) (some (.returned .done)) none
  /-- It gives its place back. -/
  | leaving {p : Hub.Phase} :
      p.unposted? = some (.unregister (subscriberOf n)) ∨ (∃ outcome, p = .returned outcome) →
        Seating n isOpen (some .leaving) (some (.returned .done)) (some p)
  /-- It got no place because the hub is not open any more. -/
  | refused {outcome : Hub.Outcome} :
      isOpen = false → Seating n isOpen (some .ended) (some (.returned outcome)) none
  /-- It gave its place back. -/
  | ended {outcome : Hub.Outcome} :
      Seating n isOpen (some .ended) (some (.returned .done)) (some (.returned outcome))

namespace Seating

variable {n : Nat} {isOpen : Bool} {phase : Option Phase} {p q : Option Hub.Phase}

/-- A connection with a place that it has not given back holds a permit. -/
theorem holdsPermit (h : Seating n isOpen phase p q) (hopen : isOpen = true) (hasked : p ≠ none)
    (hkept : ∀ outcome, q ≠ some (.returned outcome)) : phase.any Phase.holdsPermit = true := by
  cases h with
  | unknown | turnedAway => exact absurd rfl hasked
  | refused hclosed => cases hclosed.symm.trans hopen
  | @ended outcome => exact absurd rfl (hkept outcome)
  | _ => rfl

/-- A connection has a registration to post only as long as it subscribes. -/
theorem of_unposted_register (h : Seating n isOpen phase p q) {c : Nat}
    (hp : p.bind Hub.Phase.unposted? = some (.register c)) :
    c = subscriberOf n ∧ phase = some .subscribing ∧ q = none := by
  cases h with
  | subscribing hphase =>
    rcases hphase with hphase | rfl | ⟨_, rfl, -⟩
    · cases hphase.symm.trans hp
      exact ⟨rfl, rfl, rfl⟩
    · cases hp
    · cases hp
  | _ => cases hp

/-- All that a connection posts is its registration and its removal. -/
theorem eq_of_unposted (h : Seating n isOpen phase p q) {c : Hub.Command} :
    (p.bind Hub.Phase.unposted? = some c → c = .register (subscriberOf n)) ∧
      (q.bind Hub.Phase.unposted? = some c → c = .unregister (subscriberOf n)) := by
  refine ⟨fun hp => ?_, fun hq => ?_⟩
  · cases h with
    | subscribing hphase =>
      rcases hphase with hphase | rfl | ⟨_, rfl, -⟩
      · cases hphase.symm.trans hp
        rfl
      · cases hp
      · cases hp
    | _ => cases hp
  · cases h with
    | leaving hphase =>
      rcases hphase with hphase | ⟨_, rfl⟩
      · cases hphase.symm.trans hq
        rfl
      · cases hq
    | ended => cases hq
    | _ => cases hq

/-- Who is not there, or found no permit, called nobody. -/
theorem of_none (h : Seating n isOpen none p q) : p = none ∧ q = none := by
  cases h
  exact ⟨rfl, rfl⟩

/-- Who is served has a place and has not given it back. -/
theorem of_served (h : Seating n isOpen phase p q)
    (hphase : phase = some .streaming ∨ ∃ m, phase = some (.sending m)) :
    p = some (.returned .done) ∧ q = none := by
  rcases hphase with rfl | ⟨m, rfl⟩ <;> cases h <;> exact ⟨rfl, rfl⟩

/-- Who takes leave had a place. -/
theorem of_leaving (h : Seating n isOpen (some .leaving) p q) : p = some (.returned .done) := by
  cases h
  rfl

/-- An open hub gives a place to who subscribes. -/
theorem of_subscribing (h : Seating n isOpen (some .subscribing) p q) {outcome : Hub.Outcome}
    (hp : p = some (.returned outcome)) :
    q = none ∧ (outcome = .done ∨ isOpen = false) := by
  cases h with
  | subscribing hphase =>
    cases hp
    rcases hphase with hphase | hphase | ⟨_, hphase, houtcome⟩ <;> cases hphase
    exact ⟨rfl, houtcome⟩

/-- Who waits for the answer to its registration subscribes. -/
theorem of_awaiting (h : Seating n isOpen phase p q) {c : Hub.Command}
    (hp : p = some (.awaiting c)) : phase = some .subscribing := by
  cases h <;> cases hp
  rfl

/-- An open hub gives everybody a place. -/
theorem of_returned (h : Seating n isOpen phase p q) (hopen : isOpen = true)
    {outcome : Hub.Outcome} (hp : p = some (.returned outcome)) : outcome = .done := by
  cases h with
  | subscribing hphase =>
    cases hp
    rcases hphase with hphase | hphase | ⟨_, hphase, houtcome⟩ <;> cases hphase
    exact houtcome.resolve_right (by simp [hopen])
  | refused hclosed => cases hclosed.symm.trans hopen
  | unknown | turnedAway => cases hp
  | streaming | sending | leaving | ended =>
    cases hp
    rfl

/-- Who has come to its end while the hub is open has posted its removal. -/
theorem of_ended (h : Seating n isOpen (some .ended) p q) (hopen : isOpen = true) :
    ∃ outcome, q = some (.returned outcome) := by
  cases h with
  | refused hclosed => cases hclosed.symm.trans hopen
  | ended => exact ⟨_, rfl⟩

/-- Nobody waits for the answer to a removal. -/
theorem not_awaiting (h : Seating n isOpen phase p q) (c : Hub.Command) :
    q ≠ some (.awaiting c) := by
  rintro rfl
  cases h with
  | leaving hphase => rcases hphase with hphase | ⟨_, hphase⟩ <;> cases hphase

/-- A connection that moves has the seat of its new phase, and the others have theirs. -/
theorem assign {hub : Hub.State} {connections : List (Nat × Phase)} {m n : Nat} {p : Phase}
    (hmoved : Seating m hub.isOpen (some p) (hub.phase? (subscriberOf m)) (hub.phase? (leaverOf m)))
    (hother : n ≠ m → Seating n hub.isOpen (connections.lookup n) (hub.phase? (subscriberOf n))
      (hub.phase? (leaverOf n))) :
    Seating n hub.isOpen ((Numbered.assign m p connections).lookup n)
      (hub.phase? (subscriberOf n)) (hub.phase? (leaverOf n)) := by
  by_cases hn : n = m
  · subst hn
    rw [Numbered.lookup_assign_self]
    exact hmoved
  · rw [Numbered.lookup_assign_of_ne hn]
    exact hother hn

end Seating

/-- A caller that has returned stays so, whatever the hub does. -/
theorem eq_of_turn_of_returned {c : Nat} {hub : Hub.State} {b : Hub.Action}
    {outcome : Hub.Outcome} {phase : Option Hub.Phase} (hturn : Hub.State.Turn c hub b phase)
    (hphase : hub.phase? c = some (.returned outcome)) (hb : ∀ m, b ≠ .abandon m) :
    phase = some (.returned outcome) := by
  cases hturn with
  | kept => exact hphase
  | begun hbefore | admitted hbefore | posted hbefore | refused hbefore | waited hbefore
  | answered _ _ hbefore | lost hbefore => cases hphase.symm.trans hbefore
  | gone => exact absurd rfl (hb c)

/-- A caller that is not there stays away until it makes a call. -/
theorem eq_of_turn_of_none {c : Nat} {hub : Hub.State} {b : Hub.Action}
    {phase : Option Hub.Phase} (hturn : Hub.State.Turn c hub b phase) (hphase : hub.phase? c = none)
    (hb : ∀ call, b ≠ .call c call) : phase = none := by
  cases hturn with
  | kept => exact hphase
  | @begun call => exact absurd rfl (hb call)
  | admitted hbefore | posted hbefore | refused hbefore | waited hbefore | answered _ _ hbefore
  | lost hbefore => cases hphase.symm.trans hbefore
  | gone => rfl

/-- A removal goes on to be posted, and then it has returned. -/
theorem removal_of_turn {c : Nat} {hub : Hub.State} {b : Hub.Action} {p : Hub.Phase}
    {phase : Option Hub.Phase} {id : Nat} (hturn : Hub.State.Turn c hub b phase)
    (hphase : hub.phase? c = some p) (hb : ∀ m, b ≠ .abandon m)
    (hp : p.unposted? = some (.unregister id) ∨ ∃ outcome, p = .returned outcome) :
    ∃ p', phase = some p' ∧
      (p'.unposted? = some (.unregister id) ∨ ∃ outcome, p' = .returned outcome) := by
  rcases hp with hpost | ⟨outcome, rfl⟩
  · cases hturn with
    | kept => exact ⟨_, hphase, .inl hpost⟩
    | admitted hbefore =>
      cases hphase.symm.trans hbefore
      exact ⟨_, rfl, .inl hpost⟩
    | posted hbefore =>
      cases hphase.symm.trans hbefore
      cases hpost
      exact ⟨_, rfl, .inr ⟨_, rfl⟩⟩
    | refused => exact ⟨_, rfl, .inr ⟨_, rfl⟩⟩
    | begun hbefore | waited hbefore | answered _ _ hbefore | lost hbefore =>
      cases hphase.symm.trans hbefore <;> cases hpost
    | gone => exact absurd rfl (hb c)
  · exact ⟨_, eq_of_turn_of_returned hturn hphase hb, .inr ⟨_, rfl⟩⟩

/-- A registration goes on to be posted and to be answered. It succeeds if the hub has a place for
it when it comes to it, unless the hub is closed. -/
theorem registration_of_turn {c : Nat} {hub : Hub.State} {b : Hub.Action} {p : Hub.Phase}
    {phase : Option Hub.Phase} (hturn : Hub.State.Turn c hub b phase)
    (hphase : hub.phase? c = some p) (hb : ∀ m, b ≠ .abandon m)
    (hopens : hub.isOpen = false → (hub.next b).isOpen = false)
    (hanswer : ∀ command rest, b = .handle → hub.mailbox = command :: rest →
      command.asker? = some c → hub.answer command = .done)
    (hp : p.unposted? = some (.register c) ∨ p = .awaiting (.register c) ∨
      ∃ outcome, p = .returned outcome ∧ (outcome = .done ∨ hub.isOpen = false)) :
    ∃ p', phase = some p' ∧ (p'.unposted? = some (.register c) ∨ p' = .awaiting (.register c) ∨
      ∃ outcome, p' = .returned outcome ∧ (outcome = .done ∨ (hub.next b).isOpen = false)) := by
  rcases hp with hpost | rfl | ⟨outcome, rfl, houtcome⟩
  · cases hturn with
    | kept => exact ⟨_, hphase, .inl hpost⟩
    | admitted hbefore =>
      cases hphase.symm.trans hbefore
      exact ⟨_, rfl, .inl hpost⟩
    | posted hbefore =>
      cases hphase.symm.trans hbefore
      cases hpost
      exact ⟨_, rfl, .inr (.inl rfl)⟩
    | refused _ hclosed => exact ⟨_, rfl, .inr (.inr ⟨_, rfl, .inr (hopens hclosed)⟩)⟩
    | begun hbefore | waited hbefore | answered _ _ hbefore | lost hbefore =>
      cases hphase.symm.trans hbefore <;> cases hpost
    | gone => exact absurd rfl (hb c)
  · cases hturn with
    | kept => exact ⟨_, hphase, .inr (.inl rfl)⟩
    | answered hmailbox hasker =>
      exact ⟨_, rfl, .inr (.inr ⟨_, rfl, .inl (hanswer _ _ rfl hmailbox hasker)⟩)⟩
    | lost => exact ⟨_, rfl, .inr (.inr ⟨_, rfl, .inr hub.isOpen_next_conclude⟩)⟩
    | begun hbefore | admitted hbefore | posted hbefore | refused hbefore | waited hbefore =>
      cases hphase.symm.trans hbefore
    | gone => exact absurd rfl (hb c)
  · exact ⟨_, eq_of_turn_of_returned hturn hphase hb,
      .inr (.inr ⟨_, rfl, houtcome.imp_right hopens⟩)⟩

/-- A connection that does not move keeps its seat while the hub goes on, if an open hub has a place
for it when it comes to its registration. -/
theorem Seating.hubNext {n : Nat} {phase : Option Phase} {hub : Hub.State} {b : Hub.Action}
    (h : Seating n hub.isOpen phase (hub.phase? (subscriberOf n)) (hub.phase? (leaverOf n)))
    (henabled : hub.enabled b = true)
    (hturn : ∀ c, Hub.State.Turn c hub b ((hub.next b).phase? c))
    (habandon : ∀ m, b ≠ .abandon m) (hsubscribe : ∀ call, b ≠ .call (subscriberOf n) call)
    (hleave : ∀ call, b ≠ .call (leaverOf n) call)
    (hanswer : ∀ command rest, b = .handle → hub.mailbox = command :: rest →
      command.asker? = some (subscriberOf n) → hub.answer command = .done) :
    Seating n (hub.next b).isOpen phase ((hub.next b).phase? (subscriberOf n))
      ((hub.next b).phase? (leaverOf n)) := by
  -- an open hub was open before
  have hopens (hclosed : hub.isOpen = false) : (hub.next b).isOpen = false := by
    by_contra hopen
    rw [Bool.not_eq_false] at hopen
    cases hclosed.symm.trans (Hub.State.isOpen_of_next henabled hopen).1
  have hsubscriber := hturn (subscriberOf n)
  have hleaver := hturn (leaverOf n)
  have hsilent (hq : hub.phase? (leaverOf n) = none) : (hub.next b).phase? (leaverOf n) = none :=
    eq_of_turn_of_none hleaver hq hleave
  have hreturned {outcome : Hub.Outcome}
      (hp : hub.phase? (subscriberOf n) = some (.returned outcome)) :
      (hub.next b).phase? (subscriberOf n) = some (.returned outcome) :=
    eq_of_turn_of_returned hsubscriber hp habandon
  generalize hp : hub.phase? (subscriberOf n) = p at h
  generalize hq : hub.phase? (leaverOf n) = q at h
  cases h with
  | unknown =>
    rw [eq_of_turn_of_none hsubscriber hp hsubscribe, hsilent hq]
    exact .unknown
  | turnedAway =>
    rw [eq_of_turn_of_none hsubscriber hp hsubscribe, hsilent hq]
    exact .turnedAway
  | streaming =>
    rw [hreturned hp, hsilent hq]
    exact .streaming
  | sending =>
    rw [hreturned hp, hsilent hq]
    exact .sending
  | refused hclosed =>
    rw [hreturned hp, hsilent hq]
    exact .refused (hopens hclosed)
  | ended =>
    rw [hreturned hp, eq_of_turn_of_returned hleaver hq habandon]
    exact .ended
  | leaving hphase =>
    obtain ⟨p, hafter, hp'⟩ := removal_of_turn hleaver hq habandon hphase
    rw [hreturned hp, hafter]
    exact .leaving hp'
  | subscribing hphase =>
    obtain ⟨p, hafter, hp'⟩ :=
      registration_of_turn hsubscriber hp habandon hopens hanswer hphase
    rw [hafter, hsilent hq]
    exact .subscribing hp'

end SyslogCollector.Tail
