import SyslogCollector.Proofs.Hub.Registration
/-!
# Streams without gaps

A subscriber is handed a segment of the messages in the mailbox: from its registration up to the
first message that it does not take, its removal or the end of the hub, nothing left out, nothing
twice. Its client reads the segment in order and sees the end after all of it
(`streams_without_gaps`).

The proof has two invariants for every subscriber. `Carries` relates what was queued and what the
client got to the queue, and `Standing` relates what was queued to the handled commands.
-/

namespace SyslogCollector.Hub

/-! ### Between the queue and the client -/

/-- A queue holds what was queued and not yet taken by the client. -/
structure Subscriber.Carries (q : Subscriber) (queued : List Message) (receipts : List Receipt) :
    Prop where
  /-- What was queued was taken or waits. -/
  unread : q.client ≠ .gone → queued = messagesOf receipts ++ q.queue
  /-- What was taken was queued, in the same order. -/
  inOrder : messagesOf receipts <+: queued
  /-- Nothing waits for a client that is gone. -/
  emptied : q.client = .gone → q.queue = []
  /-- A client that saw the end has taken everything, and nothing more is queued for it. -/
  ended : .closed ∈ receipts →
    messagesOf receipts = queued ∧ q.queue = [] ∧
      (q.held = false ∨ q.client ≠ .open)

namespace Subscriber.Carries

variable {q : Subscriber} {queued : List Message} {receipts : List Receipt}

theorem opened (k : Nat) : (withCapacity k).Carries [] [] where
  unread _ := rfl
  inOrder := List.nil_prefix
  emptied _ := rfl
  ended h := absurd h List.not_mem_nil

theorem leave (h : q.Carries queued receipts) : q.leave.Carries queued receipts where
  unread hgone := absurd rfl hgone
  inOrder := h.inOrder
  emptied _ := rfl
  ended hclosed := ⟨(h.ended hclosed).1, rfl, .inr nofun⟩

theorem close (h : q.Carries queued receipts) : q.close.Carries queued receipts := by
  unfold Subscriber.close
  split
  · exact h
  · rename_i hgone
    exact ⟨fun _ => h.unread hgone, h.inOrder, nofun,
      fun hclosed => ⟨(h.ended hclosed).1, (h.ended hclosed).2.1, .inr nofun⟩⟩

theorem withdraw (h : q.Carries queued receipts) {f : Subscriber → Subscriber}
    (hf : State.Withdraws f) : (f q).Carries queued receipts := by
  rcases hf with rfl | rfl | rfl
  · exact h
  · exact h.close
  · exact h.leave

theorem release (h : q.Carries queued receipts) : q.release.Carries queued receipts where
  unread := h.unread
  inOrder := h.inOrder
  emptied := h.emptied
  ended hclosed := ⟨(h.ended hclosed).1, (h.ended hclosed).2.1, .inl rfl⟩

/-- A message is queued for a client that takes it. -/
theorem queue (h : q.Carries queued receipts) (hheld : q.held = true) (htakes : q.takes = true)
    (m : Message) : { q with queue := q.queue ++ [m] }.Carries (queued ++ [m]) receipts := by
  have hopen : q.client = .open := by
    simp only [takes, isConnected, Bool.and_eq_true, beq_iff_eq] at htakes
    exact htakes.1
  refine ⟨fun hgone => ?_, h.inOrder.trans (List.prefix_append _ _), fun hgone => ?_,
    fun hclosed => ?_⟩
  · rw [h.unread hgone, List.append_assoc]
  · cases hopen.symm.trans hgone
  · -- the end was not to be seen yet
    rcases (h.ended hclosed).2.2 with hreleased | hleft
    · cases hheld.symm.trans hreleased
    · exact absurd hopen hleft

/-- A client that asks for a message and gets none has taken nothing. -/
theorem ask (h : q.Carries queued receipts) {r : Receipt} (hnone : r.message? = none)
    (hclosed : r = .closed → messagesOf receipts = queued ∧ q.queue = [] ∧
      (q.held = false ∨ q.client ≠ .open)) : q.Carries queued (receipts ++ [r]) := by
  have hmessages : messagesOf (receipts ++ [r]) = messagesOf receipts := by
    rw [messagesOf_concat, hnone, Option.toList_none, List.append_nil]
  refine ⟨fun hgone => ?_, ?_, h.emptied, fun hmem => ?_⟩
  · rw [hmessages]
    exact h.unread hgone
  · rw [hmessages]
    exact h.inOrder
  · rw [hmessages]
    rcases List.mem_append.1 hmem with hmem | hmem
    · exact h.ended hmem
    · exact hclosed (List.mem_singleton.1 hmem).symm

/-- The client takes the oldest message. -/
theorem take (h : q.Carries queued receipts) {m : Message} {rest : List Message}
    (hgone : q.client ≠ .gone) (hqueue : q.queue = m :: rest) :
    { q with queue := rest }.Carries queued (receipts ++ [Receipt.message m]) := by
  have hunread : queued = messagesOf (receipts ++ [Receipt.message m]) ++ rest := by
    rw [messagesOf_concat, h.unread hgone, hqueue, List.append_assoc]
    rfl
  refine ⟨fun _ => hunread, ⟨rest, hunread.symm⟩, fun hc => absurd hc hgone, fun hmem => ?_⟩
  -- who saw the end would have found nothing
  have hempty := (h.ended (by simpa using hmem)).2.1
  cases hqueue.symm.trans hempty

theorem receive (h : q.Carries queued receipts) :
    q.receive.2.Carries queued (receipts ++ [q.receive.1]) := by
  unfold Subscriber.receive
  split
  · exact h.ask rfl nofun
  · rename_i hgone
    split
    · rename_i hqueue
      exact h.take hgone hqueue
    · rename_i hqueue
      refine h.ask ?_ fun hclosed => ?_
      · split <;> rfl
      · have hunread := h.unread hgone
        rw [hqueue, List.append_nil] at hunread
        refine ⟨hunread.symm, hqueue, ?_⟩
        cases hheld : q.held
        · exact .inl rfl
        · simpa [hheld, isConnected] using hclosed

end Subscriber.Carries

namespace State

/-- The messages that a handled command adds to the queue of a subscriber. -/
def given (s : State) (c : Nat) (q : Subscriber) : Command → List Message
  | .broadcast m => if c ∈ s.registered ∧ q.takes = true then [m] else []
  | _ => []

theorem drop_queue_treat (s : State) (c : Nat) (q : Subscriber) (command : Command) :
    (s.treat c command q).queue.drop q.queue.length = s.given c q command := by
  cases command with
  | register id =>
    simp only [treat, given]
    split
    · simp [Subscriber.leave]
    · simp
  | unregister id =>
    simp only [treat, given]
    split <;> simp [Subscriber.release]
  | broadcast m =>
    by_cases hmem : c ∈ s.registered
    · cases htakes : q.takes <;>
        simp [treat, given, hmem, htakes, Subscriber.handed, Subscriber.release]
    · simp [treat, given, hmem]
  | count id => simp [treat, given]

end State

/-- A handled command keeps what the queue of a subscriber holds, whatever it does to it. -/
theorem Subscriber.Carries.treat {q : Subscriber} {queued : List Message} {receipts : List Receipt}
    (h : q.Carries queued receipts) {s : State} {c : Nat} (hheld : c ∈ s.registered → q.held = true)
    (command : Command) :
    (s.treat c command q).Carries (queued ++ s.given c q command) receipts := by
  cases command with
  | register id =>
    simp only [State.treat, State.given, List.append_nil]
    split
    · exact h.release.leave
    · exact h
  | unregister id =>
    simp only [State.treat, State.given, List.append_nil]
    split
    · exact h.release
    · exact h
  | broadcast m =>
    by_cases hmem : c ∈ s.registered
    · cases htakes : q.takes with
      | true =>
        have hqueue := h.queue (hheld hmem) htakes m
        simpa [State.treat, State.given, hmem, handed, htakes] using hqueue
      | false => simpa [State.treat, State.given, hmem, handed, htakes] using h.release
    · simpa [State.treat, State.given, hmem] using h
  | count id => simpa [State.treat, State.given] using h

/-! ### One subscriber along a run -/

namespace Transition

variable {s s' : State} {a : Action} {c : Nat}

theorem queued_of_none (h : s'.subscriber? c = none) : queued ⟨s, a, s'⟩ c = [] := by
  simp [queued, State.queueOf, h]

theorem queued_of_some {q q' : Subscriber} (h : s.subscriber? c = some q)
    (h' : s'.subscriber? c = some q') : queued ⟨s, a, s'⟩ c = q'.queue.drop q.queue.length := by
  simp [queued, State.queueOf, h, h']

theorem receipts_of_ne (h : a ≠ .receive c) : receipts ⟨s, a, s'⟩ c = [] :=
  if_neg h

/-- A step that handles nothing queues nothing. -/
theorem queued_of_ne (hchange : State.Change c s a s') (ha : a ≠ .handle) :
    queued ⟨s, a, s'⟩ c = [] := by
  cases hsome : s'.subscriber? c with
  | none => exact queued_of_none hsome
  | some q' =>
    cases hchange with
    | spared _ hspared =>
      obtain ⟨f, hf, heq⟩ := hspared
      obtain ⟨q, hq, rfl⟩ := Option.map_eq_some_iff.1 (heq.symm.trans hsome)
      rw [queued_of_some hq hsome, List.drop_eq_nil_of_le (hf.length_queue_le q)]
    | opened hnone heq => simp [queued, State.queueOf, hnone, heq, Subscriber.withCapacity]
    | received heq =>
      obtain ⟨q, hq, rfl⟩ := Option.map_eq_some_iff.1 (heq.symm.trans hsome)
      rw [queued_of_some hq hsome, List.drop_eq_nil_of_le q.length_queue_receive_le]
    | handled => exact absurd rfl ha
    | left heq =>
      obtain ⟨q, hq, rfl⟩ := Option.map_eq_some_iff.1 (heq.symm.trans hsome)
      rw [queued_of_some hq hsome]
      split <;> simp [Subscriber.release]

end Transition

/-- What the trace of a run says of a subscriber agrees with its queue. -/
structure Carried (c : Nat) (tr : Trace) (s : State) : Prop where
  /-- There is nothing to say before the subscriber comes into being. -/
  unborn : s.subscriber? c = none → tr.queued c = [] ∧ tr.receipts c = []
  /-- After that its queue holds what is on the way. -/
  carries : ∀ {q}, s.subscriber? c = some q → q.Carries (tr.queued c) (tr.receipts c)

theorem Carried.next {c : Nat} {tr : Trace} {s s' : State} {a : Action} (h : Carried c tr s)
    (hchange : State.Change c s a s')
    (hheld : ∀ q, s.subscriber? c = some q → c ∈ s.registered → q.held = true) :
    Carried c (tr ++ [⟨s, a, s'⟩]) s' := by
  constructor
  case unborn =>
    intro hnone
    obtain ⟨hqueued, hreceipts⟩ := h.unborn (hchange.eq_none hnone).1
    rw [Trace.queued_concat, Trace.receipts_concat, hqueued, hreceipts,
      Transition.queued_of_none hnone]
    refine ⟨rfl, ?_⟩
    simp [Transition.receipts, (hchange.eq_none hnone).1]
  case carries =>
    intro q' hsome
    -- only a handled command queues anything, and only the client receives
    have hnothing := Transition.queued_of_ne hchange
    rw [Trace.queued_concat, Trace.receipts_concat]
    cases hchange with
    | spared hquiet hspared =>
      obtain ⟨f, hf, heq⟩ := hspared
      obtain ⟨q, hq, rfl⟩ := Option.map_eq_some_iff.1 (heq.symm.trans hsome)
      rw [hnothing hquiet.1, Transition.receipts_of_ne hquiet.2.1, List.append_nil, List.append_nil]
      exact (h.carries hq).withdraw hf
    | @opened k _ hnone heq =>
      cases heq.symm.trans hsome
      obtain ⟨hqueued, hreceipts⟩ := h.unborn hnone
      rw [hnothing nofun, Transition.receipts_of_ne (a := .call c (.subscribe k)) nofun, hqueued,
        hreceipts]
      exact .opened k
    | received heq =>
      obtain ⟨q, hq, rfl⟩ := Option.map_eq_some_iff.1 (heq.symm.trans hsome)
      have hreceipts : Transition.receipts ⟨s, .receive c, s'⟩ c = [q.receive.1] := by
        simp [Transition.receipts, hq]
      rw [hnothing nofun, hreceipts, List.append_nil]
      exact (h.carries hq).receive
    | @handled command _ _ _ heq =>
      obtain ⟨q, hq, rfl⟩ := Option.map_eq_some_iff.1 (heq.symm.trans hsome)
      rw [Transition.queued_of_some hq hsome, Transition.receipts_of_ne (a := .handle) nofun,
        List.append_nil, State.drop_queue_treat]
      exact (h.carries hq).treat (hheld q hq) command
    | left heq =>
      obtain ⟨q, hq, rfl⟩ := Option.map_eq_some_iff.1 (heq.symm.trans hsome)
      rw [hnothing nofun, Transition.receipts_of_ne (a := .leave) nofun, List.append_nil,
        List.append_nil]
      split
      · exact (h.carries hq).release
      · exact h.carries hq

/-! ### Between the mailbox and the queue -/

/-- Whether a subscriber is given up with a handled command: it is removed, or it does not take the
message, because its queue is full or its client takes no more. -/
def Handling.ends (h : Handling) (c : Nat) : Bool :=
  match h.command with
  | .unregister id => c == id
  | .broadcast _ => (h.hub.subscriber? c).any fun q => !q.takes
  | _ => false

/-- The messages that are handed to a subscriber by commands that are handled after its
registration. -/
def segment (c : Nat) (handlings : List Handling) : List Message :=
  messages ((handlings.takeWhile fun h => !h.ends c).map Handling.command)

/-- How a subscriber stands with the dispatch task, by the commands that were handled. -/
inductive Standing (c : Nat) (handled : List Handling) (s : State) : List Message → Prop
  /-- It has not been registered yet. -/
  | unasked :
      .register c ∉ handled.map Handling.command → c ∉ s.registered → Standing c handled s []
  /-- There was no place for it. -/
  | refused {before after : List Handling} {hub : State} :
      handled = before ++ ⟨hub, .register c⟩ :: after →
        hub.limits.maxSubscribers ≤ hub.registered.length → c ∉ s.registered →
          Standing c handled s []
  /-- It is handed every message. -/
  | served {before after : List Handling} {hub : State} :
      handled = before ++ ⟨hub, .register c⟩ :: after →
        hub.registered.length < hub.limits.maxSubscribers → (∀ h ∈ after, h.ends c = false) →
          (s.isOpen = true → c ∈ s.registered) → Standing c handled s (segment c after)
  /-- It was given up. -/
  | ended {before after : List Handling} {hub : State} :
      handled = before ++ ⟨hub, .register c⟩ :: after →
        hub.registered.length < hub.limits.maxSubscribers → (∃ h ∈ after, h.ends c = true) →
          c ∉ s.registered → Standing c handled s (segment c after)

/-- As long as a subscriber is not given up, its segment goes on. -/
theorem segment_append_of_forall {c : Nat} {handlings : List Handling}
    (hall : ∀ h ∈ handlings, h.ends c = false) (more : List Handling) :
    segment c (handlings ++ more) = segment c handlings ++ segment c more := by
  have hpos : ∀ h ∈ handlings, (!h.ends c) = true := fun h hh => by simp [hall h hh]
  have hself := @List.takeWhile_append_of_pos _ _ handlings [] hpos
  unfold segment
  rw [List.append_nil] at hself
  rw [List.takeWhile_append_of_pos hpos, hself]
  simp [messages]

/-- Once a subscriber is given up, nothing more comes to its segment. -/
theorem segment_append_of_exists {c : Nat} {handlings : List Handling}
    (hends : ∃ h ∈ handlings, h.ends c = true) (more : List Handling) :
    segment c (handlings ++ more) = segment c handlings := by
  have htake : (handlings ++ more).takeWhile (fun h => !h.ends c) =
      handlings.takeWhile (fun h => !h.ends c) := by
    induction handlings with
    | nil => simp at hends
    | cons h rest ih =>
      cases hh : h.ends c with
      | true => simp [hh]
      | false =>
        have hrest : ∃ h ∈ rest, h.ends c = true := by simpa [hh] using hends
        simp [hh, ih hrest]
  rw [segment, segment, htake]

/-! ### One more command -/

namespace State

variable {s : State} {c : Nat} {q : Subscriber} {command : Command}

/-- A subscriber that is not registered is given nothing, -/
theorem given_of_not_mem (h : c ∉ s.registered) : s.given c q command = [] := by
  cases command <;> simp [given, h]

/-- and is not registered by anything but its own request. -/
theorem not_keeps_of_not_mem (h : c ∉ s.registered) (hcommand : command ≠ .register c) :
    ¬ s.Keeps c command := by
  cases command with
  | register id =>
    rintro (hmem | ⟨rfl, -⟩)
    · exact h hmem
    · exact hcommand rfl
  | count => exact h
  | _ => exact fun hkeeps => h hkeeps.1

/-- What a registered subscriber is given goes on with its segment. -/
theorem given_of_mem (h : c ∈ s.registered) (hq : s.subscriber? c = some q) :
    s.given c q command = segment c [⟨s, command⟩] := by
  cases command with
  | broadcast m =>
    cases htakes : q.takes <;>
      simp [given, segment, Handling.ends, messages, Command.message?, h, hq, htakes]
  | unregister id =>
    by_cases hc : c = id <;>
      simp [given, segment, Handling.ends, messages, Command.message?, hc]
  | _ => simp [given, segment, Handling.ends, messages, Command.message?]

/-- A registered subscriber stays so unless it is given up. -/
theorem keeps_iff_of_mem (h : c ∈ s.registered) (hq : s.subscriber? c = some q) :
    s.Keeps c command ↔ Handling.ends ⟨s, command⟩ c = false := by
  cases command <;> simp [Keeps, Handling.ends, h, hq]

end State

namespace Standing

variable {c : Nat} {handled : List Handling} {s s' : State} {queued : List Message}

/-- Without a command handled, only the end of the task takes a subscriber away. -/
theorem rest (h : Standing c handled s queued)
    (hopen : s'.isOpen = true → s.isOpen = true ∧ s'.registered = s.registered)
    (hregistered : c ∈ s'.registered → c ∈ s.registered) : Standing c handled s' queued := by
  cases h with
  | unasked hasked hout => exact .unasked hasked fun hc => hout (hregistered hc)
  | refused hhandled hfull hout => exact .refused hhandled hfull fun hc => hout (hregistered hc)
  | served hhandled hroom hall hin =>
    refine .served hhandled hroom hall fun ho => ?_
    rw [(hopen ho).2]
    exact hin (hopen ho).1
  | ended hhandled hroom hends hout =>
    exact .ended hhandled hroom hends fun hc => hout (hregistered hc)

/-- One more command is handled. -/
theorem handle (h : Standing c handled s queued) {command : Command} (hopen : s.isOpen = true)
    (hpresent : c ∈ s.registered → (s.subscriber? c).isSome = true)
    (hfresh : command = .register c → .register c ∉ handled.map Handling.command)
    (hkeeps : c ∈ s'.registered ↔ s.Keeps c command) :
    Standing c (handled ++ [⟨s, command⟩]) s'
      (queued ++ if c ∈ s.registered then segment c [⟨s, command⟩] else []) := by
  -- a second registration is out of the question
  have hsecond {before after hub} (hhandled : handled = before ++ ⟨hub, .register c⟩ :: after) :
      command ≠ .register c := by
    rintro rfl
    exact hfresh rfl (by simp [hhandled])
  have hlonger {before after hub} (hhandled : handled = before ++ ⟨hub, .register c⟩ :: after) :
      handled ++ [⟨s, command⟩] = before ++ ⟨hub, .register c⟩ :: (after ++ [⟨s, command⟩]) := by
    simp [hhandled]
  cases h with
  | unasked hasked hout =>
    rw [if_neg hout]
    by_cases hcommand : command = .register c
    · -- it asks now, and the segment begins behind the new command
      subst hcommand
      have hlast : handled ++ [⟨s, .register c⟩] = handled ++ ⟨s, .register c⟩ :: [] := rfl
      by_cases hfull : s.limits.maxSubscribers ≤ s.registered.length
      · refine .refused hlast hfull ?_
        rw [hkeeps]
        rintro (hmem | ⟨-, hroom⟩)
        · exact hout hmem
        · omega
      · have hroom := Nat.not_le.1 hfull
        exact .served hlast hroom (by simp) fun _ => hkeeps.2 (.inr ⟨rfl, hroom⟩)
    · refine .unasked ?_ fun hc => State.not_keeps_of_not_mem hout hcommand (hkeeps.1 hc)
      simpa [hasked] using Ne.symm hcommand
  | refused hhandled hfull hout =>
    rw [if_neg hout]
    exact .refused (hlonger hhandled) hfull fun hc =>
      State.not_keeps_of_not_mem hout (hsecond hhandled) (hkeeps.1 hc)
  | served hhandled hroom hall hin =>
    obtain ⟨q, hq⟩ := Option.isSome_iff_exists.1 (hpresent (hin hopen))
    rw [if_pos (hin hopen), ← segment_append_of_forall hall]
    -- it stays registered unless the command gives it up
    have hmem := hkeeps.trans (State.keeps_iff_of_mem (hin hopen) hq)
    cases hends : Handling.ends ⟨s, command⟩ c with
    | false =>
      refine .served (hlonger hhandled) hroom (fun h hh => ?_) fun _ => hmem.2 hends
      rcases List.mem_append.1 hh with hh | hh
      · exact hall h hh
      · exact List.mem_singleton.1 hh ▸ hends
    | true =>
      exact .ended (hlonger hhandled) hroom ⟨_, List.mem_append_right _ (.head _), hends⟩
        fun hc => by simp [hmem.1 hc] at hends
  | ended hhandled hroom hends hout =>
    rw [if_neg hout, List.append_nil, ← segment_append_of_exists hends [⟨s, command⟩]]
    obtain ⟨h, hh, he⟩ := hends
    exact .ended (hlonger hhandled) hroom ⟨h, List.mem_append_left _ hh, he⟩ fun hc =>
      State.not_keeps_of_not_mem hout (hsecond hhandled) (hkeeps.1 hc)

end Standing

theorem Transition.queued_of_handled {s s' : State} {c : Nat} {command : Command}
    (hpresent : c ∈ s.registered → (s.subscriber? c).isSome = true)
    (heq : s'.subscriber? c = (s.subscriber? c).map (s.treat c command)) :
    queued ⟨s, .handle, s'⟩ c =
      if c ∈ s.registered then segment c [⟨s, command⟩] else [] := by
  cases hq : s.subscriber? c with
  | none =>
    have hout : c ∉ s.registered := fun hmem => by simpa [hq] using hpresent hmem
    rw [if_neg hout, queued_of_none (by rw [heq, hq]; rfl)]
  | some q =>
    rw [queued_of_some hq (by rw [heq, hq]; rfl), State.drop_queue_treat]
    split
    · rename_i hmem
      exact State.given_of_mem hmem hq
    · rename_i hout
      exact State.given_of_not_mem hout

/-! ### Runs -/

section

variable {limits : Limits} {tr : Trace} {s : State}

/-- An action opens nothing but what it starts. -/
theorem State.isOpen_of_next {a : Action} (henabled : s.enabled a = true)
    (hopen : (s.next a).isOpen = true) : s.isOpen = true ∧ a ≠ .leave := by
  have htask := State.task_next s a
  unfold State.isOpen at *
  cases a <;> simp_all [State.enabled]

/-- How a subscriber stands after one more step. -/
theorem Standing.next {a : Action} {c : Nat} (h : Standing c tr.handled s (tr.queued c))
    (hmail : Mail tr s) (hregistrations : Registrations tr s) (henabled : s.enabled a = true) :
    Standing c (Trace.handled (tr ++ [⟨s, a, s.next a⟩])) (s.next a)
      (Trace.queued (tr ++ [⟨s, a, s.next a⟩]) c) := by
  have hchange := State.change_next hregistrations.nodup henabled c
  have hpresent := hregistrations.present hmail (c := c)
  rw [Trace.handled_concat, Trace.queued_concat]
  by_cases ha : a = .handle
  · subst ha
    have hrunning := State.task_of_handle henabled
    cases hchange with
    | spared hquiet => exact absurd rfl hquiet.1
    | handled hmailbox heq hkeeps =>
      rw [Transition.handled_of_mailbox hmailbox, Transition.queued_of_handled hpresent heq]
      refine h.handle (State.isOpen_of_handle henabled) hpresent ?_ hkeeps
      rintro rfl
      exact hregistrations.fresh hmail hrunning hmailbox
  · rw [Transition.handled_of_ne ha, Transition.queued_of_ne hchange ha, List.append_nil,
      List.append_nil]
    -- the registrations stay, or the task leaves its loop and they all go
    have hregistered := hchange.registered_eq ha
    refine h.rest (fun hopen => ?_) fun hmem => ?_
    · obtain ⟨hbefore, hleave⟩ := State.isOpen_of_next henabled hopen
      rw [if_neg hleave] at hregistered
      exact ⟨hbefore, hregistered⟩
    · rw [hregistered] at hmem
      split at hmem
      · cases hmem
      · exact hmem

/-- What every run of a new hub keeps. -/
theorem Run.keeps (h : Run { limits } tr s) :
    Mail tr s ∧ Registrations tr s ∧
      ∀ c, Carried c tr s ∧ Standing c tr.handled s (tr.queued c) := by
  refine h.invariant (P := fun tr s => Mail tr s ∧ Registrations tr s ∧
    ∀ c, Carried c tr s ∧ Standing c tr.handled s (tr.queued c)) ?_ ?_
  · refine ⟨.initial limits, .initial limits, fun c => ⟨⟨fun _ => ⟨rfl, rfl⟩, nofun⟩, ?_⟩⟩
    exact .unasked List.not_mem_nil List.not_mem_nil
  · intro tr s a ⟨hmail, hregistrations, hsubscribers⟩ henabled
    refine ⟨hmail.next henabled, hregistrations.next hmail henabled, fun c => ?_⟩
    obtain ⟨hcarried, hstanding⟩ := hsubscribers c
    refine ⟨hcarried.next (State.change_next hregistrations.nodup henabled c) ?_,
      hstanding.next hmail hregistrations henabled⟩
    intro q hq hmem
    by_contra hheld
    -- one that was given up is not registered
    exact (hregistrations.released hq (by simpa using hheld)).1 hmem

/-- The segment of a subscriber is a segment of what was posted. -/
theorem Mail.segment_infix (h : Mail tr s) {c : Nat} {before after : List Handling}
    {handling : Handling} (hhandled : tr.handled = before ++ handling :: after) :
    segment c after <:+: messages tr.posted := by
  have hprefix : segment c after <+: messages (after.map Handling.command) :=
    ((List.takeWhile_prefix _).map _).filterMap _
  have hsuffix : after <:+ tr.handled := by
    rw [hhandled]
    exact (List.suffix_cons handling after).trans (List.suffix_append _ _)
  have hposted : after.map Handling.command <:+: tr.posted :=
    (hsuffix.map _).isInfix.trans h.inOrder.isInfix
  exact hprefix.isInfix.trans (hposted.filterMap _)

/-- A subscriber is registered once at the most. -/
theorem Registrations.not_mem_of_handled (h : Registrations tr s) (hmail : Mail tr s) {c : Nat}
    {hub : State} {before after : List Handling}
    (hhandled : tr.handled = before ++ ⟨hub, .register c⟩ :: after) :
    .register c ∉ (before ++ after).map Handling.command := by
  have honce := Nat.le_trans (hmail.inOrder.sublist.count_le (.register c)) (h.once c)
  rw [hhandled, List.map_append, List.map_cons, List.count_append, List.count_cons_self] at honce
  -- the registration that is cut out is the only one
  refine List.count_eq_zero.1 ?_
  rw [List.map_append, List.count_append]
  omega

/-- Streams have no gaps. In every run of a new hub, for every subscriber:

* the commands are handled in the order in which they were posted, and none once the dispatch task
  has left its loop;
* what was queued for the subscriber is a segment of the messages that were posted;
* nothing is queued before its registration is handled, which happens once at the most; if there is
  a place for it, the segment begins with the first message after the registration and ends with
  the first command by which the subscriber is given up, or goes on to the last one handled;
* its client takes the segment in order, and as long as the client is there, what it has not taken
  waits in the queue;
* a client that sees the end has taken all of it. -/
theorem streams_without_gaps (h : Run { limits } tr s) (c : Nat) :
    tr.handled.map Handling.command <+: tr.posted ∧ tr.sinceLeft.handled = [] ∧
      tr.queued c <:+: messages tr.posted ∧
      ((.register c ∉ tr.handled.map Handling.command ∧ tr.queued c = []) ∨
        ∃ before hub after, tr.handled = before ++ ⟨hub, .register c⟩ :: after ∧
          .register c ∉ (before ++ after).map Handling.command ∧
          tr.queued c = if hub.limits.maxSubscribers ≤ hub.registered.length then []
            else segment c after) ∧
      tr.taken c <+: tr.queued c ∧
      (∀ q ∈ s.subscriber? c, q.client ≠ .gone → tr.queued c = tr.taken c ++ q.queue) ∧
      (.closed ∈ tr.receipts c → tr.taken c = tr.queued c) := by
  obtain ⟨hmail, hregistrations, hsubscribers⟩ := h.keeps
  obtain ⟨hcarried, hstanding⟩ := hsubscribers c
  refine ⟨hmail.inOrder, hmail.silent, ?_, ?_, ?_, ?_, ?_⟩
  -- what was queued follows from how the subscriber stands with the dispatch task
  · generalize tr.queued c = queued at hstanding
    cases hstanding with
    | unasked => exact List.nil_infix
    | refused => exact List.nil_infix
    | served hhandled => exact hmail.segment_infix hhandled
    | ended hhandled => exact hmail.segment_infix hhandled
  · generalize tr.queued c = queued at hstanding
    cases hstanding with
    | unasked hasked => exact .inl ⟨hasked, rfl⟩
    | refused hhandled hfull =>
      have honce := hregistrations.not_mem_of_handled hmail hhandled
      exact .inr ⟨_, _, _, hhandled, honce, (if_pos hfull).symm⟩
    | served hhandled hroom =>
      have honce := hregistrations.not_mem_of_handled hmail hhandled
      exact .inr ⟨_, _, _, hhandled, honce, (if_neg (Nat.not_le.2 hroom)).symm⟩
    | ended hhandled hroom =>
      have honce := hregistrations.not_mem_of_handled hmail hhandled
      exact .inr ⟨_, _, _, hhandled, honce, (if_neg (Nat.not_le.2 hroom)).symm⟩
  -- what was taken follows from what its queue carries
  · cases hq : s.subscriber? c with
    | none =>
      rw [Trace.taken, (hcarried.unborn hq).2]
      exact List.nil_prefix
    | some q => exact (hcarried.carries hq).inOrder
  · exact fun q hq => (hcarried.carries hq).unread
  · intro hclosed
    cases hq : s.subscriber? c with
    | none => simp [(hcarried.unborn hq).2] at hclosed
    | some q => exact ((hcarried.carries hq).ended hclosed).1

/-- A message of a program, sent at the epoch. -/
def noticeOf (body : String) : Message :=
  { timestamp := ⟨0, 0⟩, hostname := "host", severity := .info, facility := .user,
    appName := "app", body, dialect := .rfc5424 }

/-- A client with room for one message takes the first, leaves the second where it is and so has
no room for the third. The message before its registration and the one after the third are not for
it. -/
theorem streams_without_gaps_slow_client :
    ∃ tr s, Run { limits := { mailboxSize := 2 } } tr s ∧
      messages tr.posted = ["early", "first", "second", "third", "late"].map noticeOf ∧
      tr.queued 0 = ["first", "second"].map noticeOf ∧
      tr.queued 0 <:+: messages tr.posted ∧
      tr.receipts 0 = [.message (noticeOf "first"), .message (noticeOf "second"), .closed] ∧
      tr.taken 0 = tr.queued 0 := by
  obtain ⟨tr, s, hplay, hposted, hqueued, hreceipts⟩ :
      ∃ tr s, Run.play
          [.start, .write (noticeOf "early"), .call 0 (.subscribe 1), .proceed 0, .proceed 0,
            .handle, .handle, .write (noticeOf "first"), .handle, .receive 0,
            .write (noticeOf "second"), .write (noticeOf "third"), .handle, .handle,
            .write (noticeOf "late"), .handle, .receive 0, .receive 0] [] { limits := { mailboxSize := 2 } } = some (tr, s) ∧
        messages tr.posted = ["early", "first", "second", "third", "late"].map noticeOf ∧
        tr.queued 0 = ["first", "second"].map noticeOf ∧
        tr.receipts 0 = [.message (noticeOf "first"), .message (noticeOf "second"), .closed] :=
    ⟨_, _, rfl, rfl, rfl, rfl⟩
  have hrun := Run.refl.of_play hplay
  obtain ⟨-, -, hinfix, -, -, -, hall⟩ := streams_without_gaps hrun 0
  exact ⟨tr, s, hrun, hposted, hqueued, hinfix, hreceipts, hall (by simp [hreceipts])⟩

end

end SyslogCollector.Hub
