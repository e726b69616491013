import SyslogCollector.Hub.Basic
/-!
# The hub: its steps

A run of a hub is a sequence of actions. `enabled` says which actions are possible in a state,
`next` what they do. So the runs are all interleavings of producers, callers, clients and the
dispatch task.
-/

namespace SyslogCollector.Hub

/-- Something that happens to a hub. -/
inductive Action where
  /-- A producer writes a message. -/
  | write (m : Message)
  /-- A new caller makes a call. -/
  | call (id : Nat) (c : Call)
  /-- A caller goes on to its next phase. -/
  | proceed (id : Nat)
  /-- A caller is gone before its call comes to an end. -/
  | abandon (id : Nat)
  /-- A client takes a message, if there is one. -/
  | receive (subscriber : Nat)
  /-- A client takes no more than what is queued. -/
  | close (subscriber : Nat)
  /-- A client gives up its end. -/
  | drop (subscriber : Nat)
  /-- The dispatch task is started. -/
  | start
  /-- The dispatch task is asked to stop. -/
  | stop
  /-- The dispatch task handles the oldest command. -/
  | handle
  /-- The dispatch task sees that it shall stop, and leaves its loop. -/
  | leave
  /-- The dispatch task comes to its end. -/
  | conclude
  deriving DecidableEq, Repr

namespace State

/-- A message is posted, or lost if there is no room for it. -/
def write (s : State) (m : Message) : State :=
  let received := s.metrics.received + 1
  if s.isOpen && !s.isFull then
    { s with mailbox := s.mailbox ++ [.broadcast m], metrics := { s.metrics with received } }
  else
    { s with metrics := { s.metrics with received, dropped := s.metrics.dropped + 1 } }

/-- A new call. -/
def begin (s : State) (id : Nat) : Call → State
  | .subscribe capacity =>
    { s with subscribers := Numbered.assign id (.withCapacity capacity) s.subscribers }.move id
      (.posting (.register id))
  | .unsubscribe subscriber => s.move id (.posting (.unregister subscriber))
  | .count => s.move id (.posting (.count id))
  | .wait => if s.task = .absent then s.finish id .done else s.move id .waiting

/-- The client of a caller that gets no subscription is gone. -/
def fail (s : State) (id : Nat) (error : HubError) : State :=
  (s.modify id Subscriber.leave).finish id (.failed error)

/-- A caller has posted its command. Nobody waits for the end of a removal. -/
def afterPost (s : State) (id : Nat) (c : Command) : State :=
  match c with
  | .unregister _ => s.finish id .done
  | _ => s.move id (.awaiting c)

/-- Whether a caller in a phase can go on. -/
def canProceed (s : State) : Phase → Bool
  | .posting _ => !s.isOpen || !s.isFull
  | .admitted _ => true
  | .waiting => s.task == .ended
  | .awaiting _ | .returned _ => false

/-- A caller goes on from a phase. One that has got room posts its command whatever has become of
the mailbox meanwhile. -/
def proceed (s : State) (id : Nat) : Phase → State
  | .posting c => if s.isOpen then s.move id (.admitted c) else s.fail id .stopped
  | .admitted c => { s with mailbox := s.mailbox ++ [c] }.afterPost id c
  | .waiting => s.finish id .done
  | .awaiting _ | .returned _ => s

/-- A caller is gone, and so is its client's end if it was about to subscribe. The end of a
subscriber whose call has come to an end belongs to the client. -/
def abandon (s : State) (id : Nat) : State :=
  let s := match s.phase? id with
    | some (.returned _) | none => s
    | _ => s.modify id Subscriber.leave
  { s with callers := Numbered.erase id s.callers }

/-! ## The dispatch task -/

/-- Gives up a subscriber. -/
def giveUp (s : State) (id : Nat) : State :=
  { s.modify id Subscriber.release with registered := s.registered.filter (· != id) }

/-- Hands a message to one subscriber, and gives the subscriber up if it does not take it. -/
def deliver (m : Message) (s : State) (id : Nat) : State :=
  match s.subscriber? id with
  | none => s
  | some q =>
    match q.offer m with
    | (.sent, q) =>
      { s.modify id fun _ => q with
        metrics := { s.metrics with deliveries := s.metrics.deliveries + 1 } }
    | (.full, _) =>
      { s.giveUp id with
        metrics := { s.metrics with subscribersDropped := s.metrics.subscribersDropped + 1 } }
    | (.closed, _) =>
      { s.giveUp id with
        metrics := { s.metrics with unregistered := s.metrics.unregistered + 1 } }

/-- Answers a caller, if it still waits. -/
def acknowledge (s : State) (id : Nat) (outcome : Outcome) : State :=
  match s.phase? id with
  | some (.awaiting _) => s.finish id outcome
  | _ => s

/-- Handles a command. -/
def perform (s : State) : Command → State
  | .register id =>
    if s.limits.maxSubscribers ≤ s.registered.length then
      (s.modify id fun q => q.release.leave).acknowledge id
        (.failed (.maxSubscribers s.limits.maxSubscribers))
    else
      { s with
        registered := s.registered ++ [id]
        metrics := { s.metrics with registered := s.metrics.registered + 1 } }.acknowledge id .done
  | .unregister id =>
    if id ∈ s.registered then
      { s.giveUp id with
        metrics := { s.metrics with unregistered := s.metrics.unregistered + 1 } }
    else s
  | .broadcast m => s.registered.foldl (deliver m) s
  | .count id => s.acknowledge id (.size s.registered.length)

/-- The dispatch task leaves its loop: it takes no more commands and gives up all subscribers. -/
def leave (s : State) : State :=
  { s with
    task := .leaving
    registered := []
    subscribers := s.subscribers.map fun (id, q) =>
      if id ∈ s.registered then (id, q.release) else (id, q) }

/-- The commands that wait are dropped, and whoever waits for an answer learns that there will be
none. -/
def discard (s : State) : State :=
  let unanswered := s.callers.filterMap fun (id, phase) =>
    match phase with
    | .awaiting _ => some id
    | _ => none
  unanswered.foldl (fun s id => s.fail id .stopped) { s with mailbox := [] }

/-- The dispatch task comes to its end, and the commands that it leaves are dropped. -/
def conclude (s : State) : State := { s with task := .ended }.discard

/-! ## Actions -/

/-- Whether an action is possible. -/
def enabled (s : State) : Action → Bool
  | .write _ | .stop => true
  | .call id _ => (s.phase? id).isNone && (s.subscriber? id).isNone
  | .proceed id => (s.phase? id).any s.canProceed
  | .abandon id => (s.phase? id).isSome
  | .receive id | .close id | .drop id => (s.subscriber? id).isSome
  | .start => s.task == .absent
  | .handle => s.task == .running && !s.mailbox.isEmpty
  | .leave => s.task == .running && s.stopping
  | .conclude => s.task == .leaving

/-- What an action does. -/
def next (s : State) : Action → State
  | .write m => s.write m
  | .call id c => s.begin id c
  | .proceed id =>
    match s.phase? id with
    | some phase => s.proceed id phase
    | none => s
  | .abandon id => s.abandon id
  | .receive id => s.modify id fun q => q.receive.2
  | .close id => s.modify id Subscriber.close
  | .drop id => s.modify id Subscriber.leave
  | .start => { s with task := .running }
  | .stop => { s with stopping := true }
  | .handle =>
    match s.mailbox with
    | c :: rest => { s with mailbox := rest }.perform c
    | [] => s
  | .leave => s.leave
  | .conclude => s.conclude

/-- One step of a run. -/
def Step (s : State) (a : Action) (s' : State) : Prop :=
  s.enabled a = true ∧ s' = s.next a

/-- The states that a run leads to. -/
inductive Reachable (start : State) : State → Prop
  /-- A run of no steps. -/
  | refl : Reachable start start
  /-- One step more. -/
  | step {s s' : State} {a : Action} : Reachable start s → Step s a s' → Reachable start s'

end State

end SyslogCollector.Hub
