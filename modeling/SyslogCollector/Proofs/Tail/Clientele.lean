import SyslogCollector.Proofs.Hub.Tally
import SyslogCollector.Proofs.Tail.Seating
/-!
# The hub of a live tail

A hub that is used by a live tail alone is asked for places by connections that subscribe, and for
their removal by connections that leave. So whoever has a place in prospect belongs to a connection
that has not posted its removal (`Clientele`).
-/

namespace SyslogCollector.Tail

open Hub (Run Command)

/-- The actions of a hub that is used by a live tail alone. -/
structure IsTails (b : Hub.Action) : Prop where
  /-- Callers stay until their calls have returned. -/
  abandon : ∀ c, b ≠ .abandon c
  /-- Connections subscribe and remove their subscribers. -/
  call : ∀ c call, b = .call c call →
    (∃ n k, c = subscriberOf n ∧ call = .subscribe k) ∨
      ∃ n, c = leaverOf n ∧ call = .unsubscribe (subscriberOf n)

namespace IsTails

theorem subscribe (n k : Nat) : IsTails (.call (subscriberOf n) (.subscribe k)) where
  abandon := by simp
  call := by
    rintro c call ⟨⟩
    exact .inl ⟨n, k, rfl, rfl⟩

theorem unsubscribe (n : Nat) : IsTails (.call (leaverOf n) (.unsubscribe (subscriberOf n))) where
  abandon := by simp
  call := by
    rintro c call ⟨⟩
    exact .inr ⟨n, rfl, rfl⟩

/-- A hub does nothing by itself that is not a live tail's. -/
theorem of_isHubsOwn {b : Hub.Action} (h : isHubsOwn b = true) : IsTails b where
  abandon := by
    rintro c rfl
    cases h
  call := by
    rintro c call rfl
    cases h

theorem receive (c : Nat) : IsTails (.receive c) := ⟨by simp, by simp⟩

theorem drop (c : Nat) : IsTails (.drop c) := ⟨by simp, by simp⟩

end IsTails

/-- What a hub keeps that is used by a live tail alone. -/
structure Clientele (hub : Hub.State) : Prop where
  /-- There is a queue for every connection that called. -/
  queues : ∀ c, (hub.subscriber? c).isSome = true ↔
    (∃ n, c = subscriberOf n) ∧ (hub.phase? c).isSome = true
  /-- All that is to be answered are registrations, and their connections wait for it. -/
  asked : hub.isOpen = true → ∀ command ∈ hub.mailbox, ∀ c, command.asker? = some c →
    (∃ n, c = subscriberOf n) ∧ command = .register c ∧ hub.phase? c = some (.awaiting command)
  /-- Who has a place in prospect has posted its registration, and not its removal. -/
  prospects : hub.isOpen = true → ∀ c ∈ hub.prospects, ∃ n, c = subscriberOf n ∧
    hub.phase? c ≠ none ∧ hub.unposted? c = none ∧
      ∀ outcome, hub.phase? (leaverOf n) ≠ some (.returned outcome)
  /-- There is a place for every registration when its turn comes. -/
  roomy : hub.isOpen = true → hub.Roomy

section

variable {hub : Hub.State} {b : Hub.Action} {c : Nat} {phase : Option Hub.Phase}

/-- Somebody is a caller who was one before, or makes a call. -/
theorem isSome_of_turn_iff (hturn : Hub.State.Turn c hub b phase) (hb : IsTails b) :
    phase.isSome = true ↔ (hub.phase? c).isSome = true ∨ ∃ call, b = .call c call := by
  cases hturn with
  | kept hcall =>
    refine ⟨.inl, fun h => h.resolve_right ?_⟩
    rintro ⟨call, ha⟩
    exact hcall call ha
  | begun => simp
  | admitted hbefore | posted hbefore | refused hbefore | waited hbefore | answered _ _ hbefore
  | lost hbefore => simp [hbefore]
  | gone => exact absurd rfl (hb.abandon c)

/-- There is a queue for whom there was one before, or who subscribes. -/
theorem isSome_of_change_iff {hub' : Hub.State} (hchange : Hub.State.Change c hub b hub') :
    (hub'.subscriber? c).isSome = true ↔
      (hub.subscriber? c).isSome = true ∨ ∃ k, b = .call c (.subscribe k) := by
  cases hchange with
  | spared hquiet hspared =>
    obtain ⟨f, -, heq⟩ := hspared
    rw [heq, Option.isSome_map]
    refine ⟨.inl, fun h => h.resolve_right ?_⟩
    rintro ⟨k, ha⟩
    exact hquiet.2.2.2 k ha
  | opened _ heq => simp [heq]
  | received heq => simp [heq]
  | handled _ heq => simp [heq]
  | left heq => simp [heq]

/-- Who waits for an answer goes on waiting, or is answered, or the task comes to its end. -/
theorem eq_or_exists_of_turn_of_awaiting (hturn : Hub.State.Turn c hub b phase) (hb : IsTails b)
    {command : Command} (hphase : hub.phase? c = some (.awaiting command)) :
    phase = some (.awaiting command) ∨ b = .conclude ∨
      b = .handle ∧ ∃ head rest, hub.mailbox = head :: rest ∧ head.asker? = some c := by
  cases hturn with
  | kept => exact .inl hphase
  | begun hbefore | admitted hbefore | posted hbefore | refused hbefore | waited hbefore =>
    cases hphase.symm.trans hbefore
  | gone => exact absurd rfl (hb.abandon c)
  | answered hmailbox hasker => exact .inr (.inr ⟨rfl, _, _, hmailbox, hasker⟩)
  | lost => exact .inr (.inl rfl)

/-- Who has posted its command does not post it again. -/
theorem past_posting_of_turn (hturn : Hub.State.Turn c hub b phase) (hb : IsTails b)
    (hnone : hub.phase? c ≠ none) (hpast : hub.unposted? c = none) :
    phase ≠ none ∧ phase.bind Hub.Phase.unposted? = none := by
  cases hturn with
  | kept => exact ⟨hnone, hpast⟩
  | begun hbefore => exact absurd hbefore hnone
  | admitted hbefore | posted hbefore => cases hpast.symm.trans (Hub.State.unposted?_eq hbefore)
  | refused | waited | answered | lost => exact ⟨nofun, rfl⟩
  | gone => exact absurd rfl (hb.abandon c)

end

namespace Clientele

variable {limits : Hub.Limits} {tr : Hub.Trace} {hub : Hub.State} {b : Hub.Action}

/-- An open hub whose turn it is to answer gives a place. -/
theorem answer_eq_done (h : Clientele hub) (henabled : hub.enabled .handle = true)
    {command : Command} {rest : List Command} (hmailbox : hub.mailbox = command :: rest) {c : Nat}
    (hasker : command.asker? = some c) :
    hub.registered.length < hub.limits.maxSubscribers ∧ hub.answer command = .done := by
  have hopen := Hub.State.isOpen_of_handle henabled
  obtain ⟨-, rfl, -⟩ := h.asked hopen command (hmailbox ▸ .head _) c hasker
  have hroom := h.roomy hopen [] c rest hmailbox
  exact ⟨hroom, if_neg (Nat.not_le.2 hroom)⟩

/-- A registration that comes out of the mailbox is accepted. -/
theorem accepts (h : Clientele hub) (henabled : hub.enabled .handle = true) {c : Nat}
    {rest : List Command} (hmailbox : hub.mailbox = .register c :: rest) :
    (hub.next .handle).registered = hub.registered ++ [c] ∧
      (hub.next .handle).phase? c = some (.returned .done) := by
  have hopen := Hub.State.isOpen_of_handle henabled
  obtain ⟨-, -, hawaits⟩ := h.asked hopen (.register c) (hmailbox ▸ .head _) c rfl
  have hroom := (h.answer_eq_done henabled hmailbox rfl).1
  simp only [Hub.State.next, hmailbox, Hub.State.perform, if_neg (Nat.not_le.2 hroom)]
  refine ⟨by rw [Hub.State.registered_acknowledge], ?_⟩
  exact Hub.State.phase?_acknowledge_self
    { hub with
      mailbox := rest
      registered := hub.registered ++ [c]
      metrics := { hub.metrics with registered := hub.metrics.registered + 1 } } c hawaits _

section

variable (h : Clientele hub) (hrun : Run { limits } tr hub) (hb : IsTails b)
  (henabled : hub.enabled b = true)
  (hseated : ∀ n, ∃ phase, Seating n hub.isOpen phase (hub.phase? (subscriberOf n))
    (hub.phase? (leaverOf n)))

include hseated in
/-- A connection that subscribes posts its registration, one that leaves the removal. -/
theorem eq_of_unposted {m : Nat} {command : Command} (hpost : hub.unposted? m = some command) :
    (∃ n, m = subscriberOf n ∧ command = .register (subscriberOf n)) ∨
      ∃ n, m = leaverOf n ∧ command = .unregister (subscriberOf n) := by
  obtain ⟨n, rfl | rfl⟩ := exists_connection m
  · obtain ⟨_, hseat⟩ := hseated n
    exact .inl ⟨n, rfl, hseat.eq_of_unposted.1 hpost⟩
  · obtain ⟨_, hseat⟩ := hseated n
    exact .inr ⟨n, rfl, hseat.eq_of_unposted.2 hpost⟩

include hrun henabled in
/-- A caller whose command is posted waits for the answer if there will be one. -/
theorem phase?_of_posted {m : Nat} {command : Command} (hb : b = .proceed m)
    (hphase : hub.phase? m = some (.admitted command)) :
    (hub.next b).phase? m = some (Hub.State.postedPhase command) := by
  have hturn := hrun.turn henabled m
  generalize (hub.next b).phase? m = after at hturn
  cases hturn with
  | kept _ hproceed => exact absurd hb hproceed
  | posted hposted =>
    cases hphase.symm.trans hposted
    rfl
  | admitted hbefore | refused hbefore | waited hbefore => cases hphase.symm.trans hbefore
  | begun | gone | answered | lost => cases hb

include h hrun hb henabled in
theorem queues_next (c : Nat) : ((hub.next b).subscriber? c).isSome = true ↔
    (∃ n, c = subscriberOf n) ∧ ((hub.next b).phase? c).isSome = true := by
  obtain ⟨-, hregistrations, -⟩ := hrun.keeps
  rw [isSome_of_change_iff (Hub.State.change_next hregistrations.nodup henabled c),
    isSome_of_turn_iff (hrun.turn henabled c) hb, h.queues]
  constructor
  · rintro (⟨hc, hphase⟩ | ⟨k, rfl⟩)
    · exact ⟨hc, .inl hphase⟩
    · rcases hb.call c _ rfl with ⟨n, _, rfl, -⟩ | ⟨_, _, hcall⟩
      · exact ⟨⟨n, rfl⟩, .inr ⟨_, rfl⟩⟩
      · cases hcall
  · rintro ⟨⟨n, rfl⟩, hphase | ⟨call, rfl⟩⟩
    · exact .inl ⟨⟨n, rfl⟩, hphase⟩
    · rcases hb.call _ _ rfl with ⟨_, k, _, rfl⟩ | ⟨m, hm, -⟩
      · exact .inr ⟨k, rfl⟩
      · exact absurd hm (subscriberOf_ne_leaverOf n m)

include hrun hb henabled in
/-- Who waited for an answer goes on waiting if the command that is handled is not its own. -/
theorem awaiting_next (hopen : (hub.next b).isOpen = true) {command : Command} {c : Nat}
    (hphase : hub.phase? c = some (.awaiting command))
    (hother : ∀ head rest, b = .handle → hub.mailbox = head :: rest → head.asker? ≠ some c) :
    (hub.next b).phase? c = some (.awaiting command) := by
  rcases eq_or_exists_of_turn_of_awaiting (hrun.turn henabled c) hb hphase with
    hsame | rfl | ⟨ha, head, rest, hmailbox, hhead⟩
  · exact hsame
  · cases hopen.symm.trans hub.isOpen_next_conclude
  · exact absurd hhead (hother head rest ha hmailbox)

include h hrun hb henabled hseated in
theorem asked_next (hopen : (hub.next b).isOpen = true) {command : Command} {c : Nat}
    (hmem : command ∈ (hub.next b).mailbox) (hasker : command.asker? = some c) :
    (∃ n, c = subscriberOf n) ∧ command = .register c ∧
      (hub.next b).phase? c = some (.awaiting command) := by
  obtain ⟨hmail, hregistrations, -⟩ := hrun.keeps
  have hstill := h.asked (Hub.State.isOpen_of_next henabled hopen).1
  have hwaits (hold : command ∈ hub.mailbox)
      (hother : ∀ head rest, b = .handle → hub.mailbox = head :: rest → head.asker? ≠ some c) :
      (∃ n, c = subscriberOf n) ∧ command = .register c ∧
        (hub.next b).phase? c = some (.awaiting command) := by
    obtain ⟨hc, hcommand, hphase⟩ := hstill command hold c hasker
    exact ⟨hc, hcommand, awaiting_next hrun hb henabled hopen hphase hother⟩
  have hposted (m : Nat) (ha : b = .proceed m) (hphase : hub.phase? m = some (.admitted command)) :
      (hub.next b).phase? m = some (Hub.State.postedPhase command) :=
    phase?_of_posted hrun henabled ha hphase
  have hflow := Hub.State.flow_next hregistrations.nodup henabled hopen
  generalize hub.next b = hub' at hflow hmem hwaits hposted
  cases hflow with
  | rest _ hhandle hmailbox _ =>
    exact hwaits (hmailbox ▸ hmem) fun _ _ ha => absurd ha hhandle
  | written hmailbox _ =>
    rw [hmailbox, List.mem_append, List.mem_singleton] at hmem
    rcases hmem with hmem | rfl
    · exact hwaits hmem fun _ _ ha => by cases ha
    · cases hasker
  | @posted m command' _ hphase hmailbox _ =>
    rw [hmailbox, List.mem_append, List.mem_singleton] at hmem
    rcases hmem with hmem | rfl
    · exact hwaits hmem fun _ _ ha => by cases ha
    · -- of what connections post, only a registration is to be answered
      have hafter := hposted m rfl hphase
      have hpost := Hub.State.unposted?_eq hphase
      rcases eq_of_unposted hseated hpost with ⟨n, rfl, rfl⟩ | ⟨n, -, rfl⟩
      · cases hasker
        exact ⟨⟨n, rfl⟩, rfl, hafter⟩
      · cases hasker
  | @handled head _ hmailbox _ =>
    refine hwaits (hmailbox ▸ .tail _ hmem) fun head' rest _ hmailbox' hhead => ?_
    -- a registration that is answered does not wait once more
    cases hmailbox.symm.trans hmailbox'
    obtain ⟨-, rfl, -⟩ := hstill head (hmailbox ▸ .head _) c hhead
    obtain ⟨-, rfl, -⟩ := hstill command (hmailbox ▸ .tail _ hmem) c hasker
    have hended : hub.task ≠ .ended := by
      intro hended
      simp [Hub.State.enabled, hended] at henabled
    have honce := hregistrations.once c
    rw [hmail.waiting hended, hmailbox, List.count_append, List.count_cons_self] at honce
    have hagain := List.count_pos_iff.2 hmem
    omega

include hrun hb henabled hseated in
/-- A removal that was not posted is posted only by the connection that takes leave. -/
theorem not_returned_next (hopen : (hub.next b).isOpen = true) {n : Nat}
    (hthere : ∀ outcome, hub.phase? (leaverOf n) ≠ some (.returned outcome))
    (hkept : ∀ m, b = .proceed m →
      hub.phase? m ≠ some (.admitted (.unregister (subscriberOf n)))) (outcome : Hub.Outcome) :
    (hub.next b).phase? (leaverOf n) ≠ some (.returned outcome) := by
  have hbefore := (Hub.State.isOpen_of_next henabled hopen).1
  have hturn := hrun.turn henabled (leaverOf n)
  obtain ⟨_, hseat⟩ := hseated n
  generalize (hub.next b).phase? (leaverOf n) = after at hturn
  cases hturn with
  | kept => exact hthere outcome
  | begun =>
    rcases hb.call _ _ rfl with ⟨m, _, hm, -⟩ | ⟨_, _, rfl⟩
    · exact absurd hm.symm (subscriberOf_ne_leaverOf m n)
    · simp [Hub.State.firstPhase, Hub.Call.command?]
  | admitted => simp
  | posted hadmitted =>
    cases hseat.eq_of_unposted.2 (Hub.State.unposted?_eq hadmitted)
    exact absurd hadmitted (hkept _ rfl)
  | refused _ hclosed => cases hclosed.symm.trans hbefore
  | waited _ hended => exact absurd hended (Hub.State.task_ne_ended_of_isOpen hbefore)
  | gone => simp
  | answered _ _ hawaits => exact absurd hawaits (hseat.not_awaiting _)
  | lost => cases hopen.symm.trans hub.isOpen_next_conclude

include h hrun hb henabled hseated in
theorem prospects_next (hopen : (hub.next b).isOpen = true) {c : Nat}
    (hc : c ∈ (hub.next b).prospects) : ∃ n, c = subscriberOf n ∧
      (hub.next b).phase? c ≠ none ∧
      (hub.next b).unposted? c = none ∧
      ∀ outcome, (hub.next b).phase? (leaverOf n) ≠ some (.returned outcome) := by
  obtain ⟨-, hregistrations, -⟩ := hrun.keeps
  have hbefore := (Hub.State.isOpen_of_next henabled hopen).1
  have hflow := Hub.State.flow_next hregistrations.nodup henabled hopen
  rcases hflow.mem_prospects hc with ⟨hold, hkept⟩ | ⟨m, hproceed, hphase⟩
  · obtain ⟨n, rfl, hnone, hpast, hthere⟩ := h.prospects hbefore c hold
    obtain ⟨hnone', hpast'⟩ :=
      past_posting_of_turn (hrun.turn henabled (subscriberOf n)) hb hnone hpast
    exact ⟨n, rfl, hnone', hpast',
      not_returned_next hrun hb henabled hseated hopen hthere hkept⟩
  · have hpost := Hub.State.unposted?_eq hphase
    rcases eq_of_unposted hseated hpost with ⟨n, rfl, hcommand⟩ | ⟨_, _, hcommand⟩
    · cases hcommand
      obtain ⟨_, hseat⟩ := hseated n
      obtain ⟨-, -, hleaver⟩ := hseat.of_unposted_register hpost
      have hafter := phase?_of_posted hrun henabled hproceed hphase
      have hstays := eq_of_turn_of_none (hrun.turn henabled (leaverOf n)) hleaver
        (by simp [hproceed])
      refine ⟨n, rfl, ?_⟩
      rw [Hub.State.unposted?_eq hafter, hafter, hstays]
      simp [Hub.State.postedPhase, Command.asker?, Hub.Phase.unposted?]
    · cases hcommand

include h hrun hb henabled hseated in
theorem next (hroom : ∀ n, hub.isOpen = true →
      hub.unposted? (subscriberOf n) = some (.register (subscriberOf n)) →
        hub.prospects.length < hub.limits.maxSubscribers) : Clientele (hub.next b) where
  queues := queues_next h hrun hb henabled
  asked hopen _ hmem _ hasker := asked_next h hrun hb henabled hseated hopen hmem hasker
  prospects hopen _ hc := prospects_next h hrun hb henabled hseated hopen hc
  roomy hopen := by
    obtain ⟨-, hregistrations, -⟩ := hrun.keeps
    have hbefore := (Hub.State.isOpen_of_next henabled hopen).1
    have hflow := Hub.State.flow_next hregistrations.nodup henabled hopen
    refine (h.roomy hbefore).next hflow (hub.limits_next b) fun m id _ hphase => ?_
    have hpost := Hub.State.unposted?_eq hphase
    rcases eq_of_unposted hseated hpost with ⟨n, rfl, hcommand⟩ | ⟨_, _, hcommand⟩
    · exact hroom n hbefore (hcommand ▸ hpost)
    · cases hcommand

end

end Clientele

end SyslogCollector.Tail
