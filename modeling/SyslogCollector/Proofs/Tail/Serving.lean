import SyslogCollector.Proofs.Hub.Room
import SyslogCollector.Proofs.Tail.Admission
/-!
# How an admitted client comes to be served

Whoever gets a permit asks the hub for a place. As long as the hub has not left its loop it can
answer: those who have got room in its mailbox post their commands, and it handles what waits there,
so that there is room for the registration; and then it handles that. So a connection that
subscribes can go on to stream, whatever happened before (`Service.exists_streaming`).

All queues of a live tail have the room that the hub is set up with (`State.Reachable.capacity_eq`).
-/

namespace SyslogCollector

namespace Hub

variable {s : State}

/-! ## Queues of one size -/

namespace State

/-- Whether all queues may hold the same number of messages. -/
def Uniform (k : Nat) (s : State) : Prop :=
  ∀ e ∈ s.subscribers, e.2.capacity = k

namespace Uniform

variable {k : Nat}

theorem modify (h : s.Uniform k) (id : Nat) {f : Subscriber → Subscriber}
    (hf : ∀ q, q.capacity = k → (f q).capacity = k) : (s.modify id f).Uniform k := by
  intro e he
  obtain ⟨⟨n, q⟩, hq, rfl⟩ := List.mem_map.1 he
  have hcapacity := h _ hq
  dsimp only
  split
  · exact hf q hcapacity
  · exact hcapacity

theorem acknowledge (h : s.Uniform k) (id : Nat) (outcome : Outcome) :
    (s.acknowledge id outcome).Uniform k := by
  unfold State.acknowledge
  split <;> exact h

theorem deliver (h : s.Uniform k) (m : Message) (id : Nat) : (s.deliver m id).Uniform k := by
  have hgiveUp : (s.giveUp id).Uniform k := h.modify id fun _ hq => hq
  unfold State.deliver
  split
  · exact h
  · rename_i q hq
    have hcapacity : q.capacity = k := h (id, q) (Numbered.mem_of_lookup_eq_some hq)
    have hoffered : (q.offer m).2.capacity = k := by
      unfold Subscriber.offer
      split
      · exact hcapacity
      · split <;> exact hcapacity
    split
    · rename_i q' hsent
      rw [hsent] at hoffered
      exact h.modify id fun _ _ => hoffered
    · exact hgiveUp
    · exact hgiveUp

theorem perform (h : s.Uniform k) (c : Command) : (s.perform c).Uniform k := by
  cases c with
  | register id =>
    have hreleased : (s.modify id fun q => q.release.leave).Uniform k := h.modify id fun _ hq => hq
    have hadded : State.Uniform k
        { s with
          registered := s.registered ++ [id]
          metrics := { s.metrics with registered := s.metrics.registered + 1 } } := h
    simp only [State.perform]
    split
    · exact hreleased.acknowledge id _
    · exact hadded.acknowledge id _
  | unregister id =>
    simp only [State.perform]
    split
    · exact h.modify id fun _ hq => hq
    · exact h
  | broadcast m =>
    simp only [State.perform]
    generalize s.registered = order
    induction order generalizing s with
    | nil => exact h
    | cons id rest ih => exact ih (h.deliver m id)
  | count id => exact h.acknowledge id _

theorem discard (h : s.Uniform k) : s.discard.Uniform k := by
  unfold State.discard
  generalize s.callers.filterMap _ = unanswered
  have hstart : State.Uniform k { s with mailbox := [] } := h
  generalize { s with mailbox := [] } = t at hstart
  induction unanswered generalizing t with
  | nil => exact hstart
  | cons id rest ih => exact ih _ (hstart.modify id fun _ hq => hq)

/-- Queues stay of one size if those that come into being have it. -/
theorem next (h : s.Uniform k) {a : Action}
    (hnew : ∀ c size, a = .call c (.subscribe size) → max size 1 = k) : (s.next a).Uniform k := by
  cases a with
  | write m =>
    simp only [State.next, State.write]
    split <;> exact h
  | call id call =>
    cases call with
    | subscribe size =>
      intro e he
      rcases Numbered.of_mem_assign he with rfl | hold
      · exact hnew id size rfl
      · exact h e hold
    | wait =>
      simp only [State.next, State.begin]
      split <;> exact h
    | unsubscribe | count => exact h
  | proceed id =>
    simp only [State.next]
    split
    · rename_i phase _
      cases phase with
      | posting c =>
        simp only [State.proceed]
        split
        · exact h
        · exact h.modify id fun _ hq => hq
      | admitted c => cases c <;> exact h
      | _ => exact h
    · exact h
  | abandon id =>
    simp only [State.next, State.abandon]
    split
    · exact h
    · exact h
    · exact h.modify id fun _ hq => hq
  | receive id =>
    refine h.modify id fun q hq => ?_
    unfold Subscriber.receive
    split
    · exact hq
    · split <;> exact hq
  | close id =>
    refine h.modify id fun q hq => ?_
    unfold Subscriber.close
    split <;> exact hq
  | drop id => exact h.modify id fun _ hq => hq
  | handle =>
    simp only [State.next]
    split
    · rename_i c rest _
      have hrest : State.Uniform k { s with mailbox := rest } := h
      exact hrest.perform c
    · exact h
  | leave =>
    intro e he
    obtain ⟨⟨n, q⟩, hq, rfl⟩ := List.mem_map.1 he
    have hcapacity := h _ hq
    dsimp only
    split <;> exact hcapacity
  | conclude =>
    have hended : State.Uniform k { s with task := .ended } := h
    exact hended.discard
  | start | stop => exact h

end Uniform

end State

end Hub

namespace Tail

open Hub (Run Command)

variable {options : Options} {limits : Hub.Limits} {s s' start : State} {n : Nat}

/-! ## The queues of clients -/

/-- The hub keeps its limits, and every queue has the room that they say. -/
theorem State.Reachable.uniform (h : State.Reachable (.initial options limits) s) :
    s.hub.limits.subscriberBuffer = limits.subscriberBuffer ∧
      s.hub.Uniform (max limits.subscriberBuffer 1) := by
  induction h with
  | refl => exact ⟨rfl, nofun⟩
  | @step s _ a _ hstep ih =>
    obtain ⟨henabled, rfl⟩ := hstep
    obtain ⟨hlimits, huniform⟩ := ih
    have hstride := State.stride_next henabled
    have hgoesOn (b : Hub.Action)
        (hb : ∀ c size, b = .call c (.subscribe size) → size = limits.subscriberBuffer) :
        (s.hub.next b).limits.subscriberBuffer = limits.subscriberBuffer ∧
          (s.hub.next b).Uniform (max limits.subscriberBuffer 1) :=
      ⟨by rw [s.hub.limits_next b, hlimits],
        huniform.next fun c size hcall => by rw [hb c size hcall]⟩
    generalize (s.next a).hub = hub at hstride ⊢
    generalize (s.next a).connections = connections at hstride
    -- a queue comes into being only where a client is admitted, with the size that the hub keeps
    cases hstride with
    | rest | turnedAway | subscribed | refused | wrote => exact ⟨hlimits, huniform⟩
    | hub hown =>
      refine hgoesOn _ ?_
      rintro c size rfl
      cases hown
    | admitted =>
      refine hgoesOn _ ?_
      rintro c size ⟨⟩
      exact hlimits
    | took | left | concluded =>
      refine hgoesOn _ ?_
      rintro c size ⟨⟩

/-- Every queue has the room that the hub is set up with, at least for one message. -/
theorem State.Reachable.capacity_eq (h : State.Reachable (.initial options limits) s) {c : Nat}
    {q : Hub.Subscriber} (hq : s.hub.subscriber? c = some q) :
    q.capacity = max limits.subscriberBuffer 1 :=
  h.uniform.2 (c, q) (Numbered.mem_of_lookup_eq_some hq)

/-! ## Progress -/

theorem State.Reachable.trans (h : State.Reachable start s) (h' : State.Reachable s s') :
    State.Reachable start s' := by
  induction h' with
  | refl => exact h
  | step _ hstep ih => exact ih.step hstep

/-- The hub can go on by itself. -/
theorem State.reachable_onHub {b : Hub.Action} (hown : isHubsOwn b = true)
    (henabled : s.hub.enabled b = true) : State.Reachable s (s.onHub b) :=
  .step .refl ⟨by rw [State.enabled, hown, henabled]; rfl, rfl⟩

/-- A hub that runs can take the commands of all who have got room, and handle all that waits in its
mailbox. No connection moves meanwhile. -/
theorem State.exists_idle (hkeys : (s.hub.callers.map Prod.fst).Nodup)
    (hrunning : s.hub.task = .running) :
    ∃ hub, State.Reachable s { s with hub } ∧ hub.task = .running ∧ hub.mailboxLoad = 0 := by
  generalize hwork : 2 * s.hub.admittedCount + s.hub.mailbox.length = work
  -- on what is to be done: to post a command and to handle one takes two steps
  induction work using Nat.strongRecOn generalizing s with
  | ind work ih =>
    have hstep {b : Hub.Action} (hown : isHubsOwn b = true) (henabled : s.hub.enabled b = true)
        (htask : (s.hub.next b).task = .running)
        (hless : 2 * (s.hub.next b).admittedCount + (s.hub.next b).mailbox.length < work) :
        ∃ hub, State.Reachable s { s with hub } ∧ hub.task = .running ∧ hub.mailboxLoad = 0 := by
      obtain ⟨hub, hreach, hidle⟩ :=
        ih _ hless (s := s.onHub b) (Hub.State.nodup_callers_next hkeys b) htask rfl
      exact ⟨hub, (State.reachable_onHub hown henabled).trans hreach, hidle⟩
    by_cases hadmitted : 0 < s.hub.admittedCount
    · obtain ⟨n, c, hphase⟩ := Hub.State.exists_admitted hkeys hadmitted
      have henabled : s.hub.enabled (.proceed n) = true := by
        simp [Hub.State.enabled, hphase, Hub.State.canProceed]
      refine hstep rfl henabled ((s.hub.task_next _).trans hrunning) ?_
      have hcount := Hub.State.admittedCount_next_lt hphase
      rw [Hub.State.mailbox_next_of_admitted hphase, List.length_append, List.length_singleton]
      omega
    · by_cases hempty : s.hub.mailbox = []
      · refine ⟨s.hub, .refl, hrunning, ?_⟩
        rw [Hub.State.mailboxLoad_eq, hempty, List.length_nil]
        omega
      · have henabled : s.hub.enabled .handle = true := by
          simp [Hub.State.enabled, hrunning, hempty]
        refine hstep rfl henabled ((s.hub.task_next _).trans hrunning) ?_
        have hcount := s.hub.admittedCount_next_le (a := .handle) (by simp)
        have hflow := Hub.State.mailFlow_next henabled
        generalize s.hub.next .handle = hub' at hflow hcount ⊢
        cases hflow with
        | kept ha => exact absurd rfl ha
        | handled hmailbox =>
          rw [hmailbox, List.length_cons] at hwork
          omega

/-- A hub that has not left its loop can be running. No connection moves meanwhile. -/
theorem State.exists_running (hopen : s.hub.isOpen = true) :
    ∃ hub, State.Reachable s { s with hub } ∧ hub.task = .running := by
  rw [Hub.State.isOpen, Bool.or_eq_true, beq_iff_eq, beq_iff_eq] at hopen
  rcases hopen with habsent | hrunning
  · have henabled : s.hub.enabled .start = true := by simp [Hub.State.enabled, habsent]
    exact ⟨_, State.reachable_onHub rfl henabled, rfl⟩
  · exact ⟨s.hub, .refl, hrunning⟩

namespace Service

/-- A connection whose subscription an open hub has decided goes on to stream. -/
theorem streaming_of_returned (h : Service options limits s) (hopen : s.hub.isOpen = true)
    (hphase : s.phase? n = some .subscribing) {outcome : Hub.Outcome}
    (hreturned : s.hub.phase? (subscriberOf n) = some (.returned outcome)) :
    State.Reachable s (s.next (.subscribed n)) ∧
      (s.next (.subscribed n)).phase? n = some .streaming := by
  obtain rfl := (h.seated n).of_returned hopen hreturned
  have hdone : s.subscription? n = some .done := by rw [State.subscription?, hreturned]
  refine ⟨.step .refl ⟨by simp [State.enabled, hphase, hdone], rfl⟩, ?_⟩
  simp only [State.next, hdone, if_true]
  exact Numbered.lookup_assign_self n _ _

/-- A hub that has not left its loop can come to run with nothing left to do. -/
theorem exists_idle (hmax : 1 ≤ options.maxConnections)
    (h : State.Reachable (.initial options limits) s) (hopen : s.hub.isOpen = true) :
    ∃ hub, State.Reachable s { s with hub } ∧ hub.task = .running ∧ hub.mailboxLoad = 0 := by
  obtain ⟨running, hstarted, hrunning⟩ := State.exists_running hopen
  obtain ⟨tr, hhub⟩ := ((h.trans hstarted).service hmax).run
  obtain ⟨hub, hworked, hidle⟩ :=
    State.exists_idle (s := { s with hub := running }) hhub.nodup_callers hrunning
  exact ⟨hub, hstarted.trans hworked, hidle⟩

/-- A running hub with nothing in its mailbox takes a registration that has room there and gives it
a place. No connection moves meanwhile. -/
theorem exists_returned_of_admitted (hmax : 1 ≤ options.maxConnections)
    (h : State.Reachable (.initial options limits) s) (hrunning : s.hub.task = .running)
    (hempty : s.hub.mailbox = [])
    (hadmitted : s.hub.phase? (subscriberOf n) = some (.admitted (.register (subscriberOf n)))) :
    ∃ hub, State.Reachable s { s with hub } ∧ hub.task = .running ∧
      hub.phase? (subscriberOf n) = some (.returned .done) := by
  have hproceed : s.hub.enabled (.proceed (subscriberOf n)) = true := by
    simp [Hub.State.enabled, hadmitted, Hub.State.canProceed]
  -- the registration is posted, and is all that the mailbox holds
  have hposted := State.reachable_onHub rfl hproceed
  have hservice := (h.trans hposted).service hmax
  have htask : (s.hub.next (.proceed (subscriberOf n))).task = .running :=
    (s.hub.task_next _).trans hrunning
  have hmailbox : (s.hub.next (.proceed (subscriberOf n))).mailbox =
      .register (subscriberOf n) :: [] := by
    rw [Hub.State.mailbox_next_of_admitted hadmitted, hempty]
    rfl
  have hhandle : (s.hub.next (.proceed (subscriberOf n))).enabled .handle = true := by
    simp [Hub.State.enabled, htask, hmailbox]
  obtain ⟨-, hreturned⟩ := hservice.clientele.accepts hhandle hmailbox
  exact ⟨_, hposted.trans (State.reachable_onHub rfl hhandle),
    (Hub.State.task_next _ .handle).trans htask, hreturned⟩

/-- A running hub with nothing to do gives room to a registration, takes it and gives it a place. No
connection moves meanwhile. -/
theorem exists_returned_of_posting (hmax : 1 ≤ options.maxConnections)
    (h : State.Reachable (.initial options limits) s) (hrunning : s.hub.task = .running)
    (hidle : s.hub.mailboxLoad = 0)
    (hposting : s.hub.phase? (subscriberOf n) = some (.posting (.register (subscriberOf n)))) :
    ∃ hub, State.Reachable s { s with hub } ∧ hub.task = .running ∧
      hub.phase? (subscriberOf n) = some (.returned .done) := by
  have hopen : s.hub.isOpen = true := by rw [Hub.State.isOpen, hrunning]; rfl
  have hempty : s.hub.mailbox = [] := by
    rw [Hub.State.mailboxLoad_eq] at hidle
    exact List.eq_nil_of_length_eq_zero (by omega)
  have hproceed : s.hub.enabled (.proceed (subscriberOf n)) = true := by
    have hroom : s.hub.isFull = false := by simp [Hub.State.isFull, Hub.State.mailboxLimit, hidle]
    simp [Hub.State.enabled, hposting, Hub.State.canProceed, hroom]
  have hnext : s.hub.next (.proceed (subscriberOf n)) =
      s.hub.move (subscriberOf n) (.admitted (.register (subscriberOf n))) := by
    simp only [Hub.State.next, hposting, Hub.State.proceed, hopen, if_true]
  have hmoved := State.reachable_onHub rfl hproceed
  rw [State.onHub, hnext] at hmoved
  obtain ⟨hub, hreach, hreturned⟩ :=
    exists_returned_of_admitted hmax (h.trans hmoved) hrunning hempty
      (s.hub.phase?_move_self (subscriberOf n) _)
  exact ⟨hub, hmoved.trans hreach, hreturned⟩

/-- A connection that subscribes can go on to stream as long as the hub has not left its loop. -/
theorem exists_streaming (hmax : 1 ≤ options.maxConnections)
    (h : State.Reachable (.initial options limits) s) (hopen : s.hub.isOpen = true)
    (hphase : s.phase? n = some .subscribing) :
    ∃ s', State.Reachable s s' ∧ s'.phase? n = some .streaming := by
  obtain ⟨hub, hreach, hrunning, hidle⟩ := exists_idle hmax h hopen
  have hservice := (h.trans hreach).service hmax
  have hstill : hub.isOpen = true := by rw [Hub.State.isOpen, hrunning]; rfl
  obtain ⟨tr, hhub⟩ := hservice.run
  have hseat := hservice.seated_of_phase? (s := { s with hub }) hphase
  -- where its call stands now that nobody has room in the mailbox and nothing waits there
  generalize hcall : hub.phase? (subscriberOf n) = p at hseat
  generalize hub.phase? (leaverOf n) = q at hseat
  rw [Hub.State.mailboxLoad_eq] at hidle
  cases hseat with
  | @subscribing p hstands =>
    cases p with
    | posting c =>
      obtain rfl : c = .register (subscriberOf n) := by simpa [Hub.Phase.unposted?] using hstands
      obtain ⟨hub', hanswered, hrunning', hreturned⟩ :=
        exists_returned_of_posting (s := { s with hub }) hmax (h.trans hreach) hrunning
          (by rw [Hub.State.mailboxLoad_eq]; exact hidle) hcall
      have hreach' := hreach.trans hanswered
      have hstill' : hub'.isOpen = true := by rw [Hub.State.isOpen, hrunning']; rfl
      obtain ⟨hlast, hstreaming⟩ :=
        ((h.trans hreach').service hmax).streaming_of_returned hstill' hphase hreturned
      exact ⟨_, hreach'.trans hlast, hstreaming⟩
    | admitted c =>
      have hcount := Hub.State.admittedCount_next_lt hcall
      omega
    | awaiting c =>
      -- its command would still be in the mailbox
      have hlength : 0 < hub.mailbox.length :=
        List.length_pos_of_mem (hhub.mem_mailbox_of_awaiting hcall).2
      omega
    | waiting => simp [Hub.Phase.unposted?] at hstands
    | returned outcome =>
      obtain ⟨hlast, hstreaming⟩ := hservice.streaming_of_returned hstill hphase hcall
      exact ⟨_, hreach.trans hlast, hstreaming⟩

end Service

end Tail

end SyslogCollector
