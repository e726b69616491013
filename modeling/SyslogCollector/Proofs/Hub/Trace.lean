import SyslogCollector.Proofs.Hub.Broadcast
/-!
# What a run of a hub shows

A trace is the list of the steps of a run. Everything a bystander can see is read off it: what was
posted into the mailbox, what was handled, what the queue of a subscriber gained and what its
client got. A broadcast may go through the subscribers in any order (`State.nextIn`); a run does
not depend on it (`Run.step_next`).
-/

namespace SyslogCollector.Hub

/-- One step of a run, with the states around it. -/
structure Transition where
  /-- The hub before the step. -/
  before : State
  /-- What happens. -/
  action : Action
  /-- The hub after the step. -/
  after : State

/-- The steps of a run, the oldest first. -/
abbrev Trace := List Transition

/-- A command that was handled, and the hub that handled it. -/
structure Handling where
  /-- The hub when it took the command out of the mailbox. -/
  hub : State
  /-- The command. -/
  command : Command

/-- The message that a client gets by a receipt. -/
def Receipt.message? : Receipt → Option Message
  | .message m => some m
  | _ => none

/-- The messages among some receipts, in their order. -/
def messagesOf (receipts : List Receipt) : List Message :=
  receipts.filterMap Receipt.message?

theorem messagesOf_concat (receipts : List Receipt) (r : Receipt) :
    messagesOf (receipts ++ [r]) = messagesOf receipts ++ r.message?.toList := by
  cases r <;> simp [messagesOf, Receipt.message?]

/-- The message that is handed on by a command. -/
def Command.message? : Command → Option Message
  | .broadcast m => some m
  | _ => none

/-- The messages among some commands, in their order. -/
def messages (commands : List Command) : List Message :=
  commands.filterMap Command.message?

/-- The messages that wait for the client of a subscriber. -/
def State.queueOf (s : State) (c : Nat) : List Message :=
  ((s.subscriber? c).map Subscriber.queue).getD []

namespace Transition

variable (x : Transition) (c : Nat)

/-- What the mailbox gained at its end. -/
def posted : List Command := x.after.mailbox.drop x.before.mailbox.length

/-- The command that the dispatch task handled, if it handled one. -/
def handled : List Handling :=
  if x.action = .handle then (x.before.mailbox.take 1).map (⟨x.before, ·⟩) else []

/-- What the queue of a subscriber gained at its end. -/
def queued : List Message := (x.after.queueOf c).drop (x.before.queueOf c).length

/-- What the client of a subscriber got, if it asked for a message. -/
def receipts : List Receipt :=
  if x.action = .receive c then ((x.before.subscriber? c).map (·.receive.1)).toList else []

theorem handled_of_ne {x : Transition} (h : x.action ≠ .handle) : x.handled = [] :=
  if_neg h

theorem handled_of_mailbox {s s' : State} {command : Command} {rest : List Command}
    (h : s.mailbox = command :: rest) :
    handled ⟨s, .handle, s'⟩ = [⟨s, command⟩] := by
  simp [handled, h]

end Transition

namespace Trace

variable (tr : Trace) (c : Nat)

/-- The commands that were posted, in their order. -/
def posted : List Command := tr.flatMap Transition.posted

/-- The commands that were handled, in their order. -/
def handled : List Handling := tr.flatMap Transition.handled

/-- The messages that were queued for a subscriber, in their order. -/
def queued : List Message := tr.flatMap (·.queued c)

/-- What the client of a subscriber got, in its order. -/
def receipts : List Receipt := tr.flatMap (·.receipts c)

/-- The messages that the client of a subscriber took, in their order. -/
def taken : List Message := messagesOf (tr.receipts c)

/-- The steps since the dispatch task left its loop. -/
def sinceLeft : Trace := tr.dropWhile (·.action != .leave)

variable (x : Transition)

theorem posted_concat : posted (tr ++ [x]) = tr.posted ++ x.posted := by simp [posted]

theorem handled_concat : handled (tr ++ [x]) = tr.handled ++ x.handled := by simp [handled]

theorem queued_concat : queued (tr ++ [x]) c = tr.queued c ++ x.queued c := by simp [queued]

theorem receipts_concat : receipts (tr ++ [x]) c = tr.receipts c ++ x.receipts c := by
  simp [receipts]

theorem sinceLeft_concat : sinceLeft (tr ++ [x]) =
    if tr.sinceLeft = [] then (if x.action = .leave then [x] else []) else tr.sinceLeft ++ [x] := by
  unfold sinceLeft
  rw [List.dropWhile_append]
  by_cases hleave : x.action = .leave <;> simp [hleave]

end Trace

namespace State

/-- What an action does, if a broadcast goes through the subscribers in some order. -/
def nextIn (s : State) (order : List Nat) (a : Action) : State :=
  match a, s.mailbox with
  | .handle, .broadcast m :: rest => { s with mailbox := rest }.broadcast order m
  | _, _ => s.next a

/-- The order of the subscribers makes no difference. -/
theorem nextIn_eq_next {s : State} {order : List Nat} (h : order.Perm s.registered) (a : Action) :
    s.nextIn order a = s.next a := by
  unfold nextIn
  split
  · rename_i m rest hmailbox
    rw [broadcast_eq_of_perm h]
    simp [next, hmailbox, perform, broadcast]
  · rfl

end State

/-- A run from a state with its trace. At every step the subscribers stand in some order. -/
inductive Run (start : State) : Trace → State → Prop
  /-- A run of no steps. -/
  | refl : Run start [] start
  /-- One step more. -/
  | step {tr : Trace} {s : State} {a : Action} {order : List Nat} :
      Run start tr s → order.Perm s.registered → s.enabled a = true →
        Run start (tr ++ [⟨s, a, s.nextIn order a⟩]) (s.nextIn order a)

namespace Run

variable {start : State} {tr : Trace} {s : State}

/-- What is shown of all steps in the usual order is shown of all runs. -/
theorem invariant {P : Trace → State → Prop} (h : Run start tr s) (hstart : P [] start)
    (hstep : ∀ {tr s a}, P tr s → s.enabled a = true → P (tr ++ [⟨s, a, s.next a⟩]) (s.next a)) :
    P tr s := by
  induction h with
  | refl => exact hstart
  | step _ horder henabled ih =>
    rw [State.nextIn_eq_next horder]
    exact hstep ih henabled

/-- One step more, in the usual order. -/
theorem step_next (h : Run start tr s) {a : Action} (henabled : s.enabled a = true) :
    Run start (tr ++ [⟨s, a, s.next a⟩]) (s.next a) := by
  have hstep := h.step (.refl _) henabled
  rwa [State.nextIn_eq_next (.refl _)] at hstep

/-- Carries out a list of actions, if all of them are possible in their turn. -/
def play : List Action → Trace → State → Option (Trace × State)
  | [], tr, s => some (tr, s)
  | a :: rest, tr, s =>
    if s.enabled a then play rest (tr ++ [⟨s, a, s.next a⟩]) (s.next a) else none

/-- What is carried out after a run is a run. -/
theorem of_play {actions : List Action} {tr' : Trace} {s' : State} (h : Run start tr s)
    (hplay : play actions tr s = some (tr', s')) : Run start tr' s' := by
  induction actions generalizing tr s with
  | nil =>
    cases hplay
    exact h
  | cons a rest ih =>
    unfold play at hplay
    split at hplay
    · rename_i henabled
      exact ih (h.step_next henabled) hplay
    · cases hplay

end Run

end SyslogCollector.Hub
