import SyslogCollector.Tail.Basic
/-!
# The live tail: its steps

A run of the live tail is a sequence of actions. `enabled` says which actions are possible in a
state, `next` what they do. The hub goes on by itself between any two of them.
-/

namespace SyslogCollector.Tail

/-- Something that happens to a live tail. -/
inductive Action where
  /-- The hub goes on, or somebody writes a message to it. -/
  | hub (a : Hub.Action)
  /-- A client connects. -/
  | connect (id : Nat)
  /-- A connection learns whether it is subscribed. -/
  | subscribed (id : Nat)
  /-- A connection takes the next message of its queue. -/
  | take (id : Nat)
  /-- A connection has written its line. -/
  | sent (id : Nat)
  /-- A connection could not write its line, or not in time. -/
  | sendFailed (id : Nat)
  /-- A connection sees that its client has left. -/
  | clientLeft (id : Nat)
  /-- A connection sees that the hub has given it up. -/
  | givenUp (id : Nat)
  /-- A connection sees that it shall stop. -/
  | halt (id : Nat)
  /-- A connection comes to its end and gives its permit back. -/
  | conclude (id : Nat)
  /-- The tail is asked to stop. -/
  | stop
  /-- No new clients are let in. -/
  | close
  deriving Repr

/-- Whether the hub, or a producer, may do this by itself. Calls are made by connections only, and
what becomes of a queue is up to its connection. -/
def isHubsOwn : Hub.Action → Bool
  | .write _ | .proceed _ | .start | .stop | .handle | .leave | .conclude => true
  | .call .. | .abandon _ | .receive _ | .close _ | .drop _ => false

namespace State

/-- The hub goes on. -/
def onHub (s : State) (a : Hub.Action) : State :=
  { s with hub := s.hub.next a }

/-- A connection takes leave: it gives its subscription back. -/
def takeLeave (s : State) (id : Nat) : State :=
  (s.onHub (.call (leaverOf id) (.unsubscribe (subscriberOf id)))).move id .leaving

/-- A client connects: it gets a permit, or is turned away. -/
def connect (s : State) (id : Nat) : State :=
  if s.permitsHeld < s.options.permits then
    (s.onHub (.call (subscriberOf id) (.subscribe s.hub.limits.subscriberBuffer))).move id
      .subscribing
  else s.move id .turnedAway

/-- Whether a connection waits for a message. -/
def isStreaming (s : State) (id : Nat) : Bool := s.phase? id == some .streaming

/-- Whether a connection writes a message. -/
def isSending (s : State) (id : Nat) : Bool :=
  match s.phase? id with
  | some (.sending _) => true
  | _ => false

/-- Whether an action is possible. -/
def enabled (s : State) : Action → Bool
  | .hub a => isHubsOwn a && s.hub.enabled a
  | .connect id => s.accepting && (s.phase? id).isNone
  | .subscribed id => s.phase? id == some .subscribing && (s.subscription? id).isSome
  | .take id => s.isStreaming id && (s.receipt id matches .message _)
  | .sent id | .sendFailed id => s.isSending id
  | .clientLeft id => s.isStreaming id
  | .givenUp id => s.isStreaming id && s.receipt id == .closed
  | .halt id => s.stopping && (s.isStreaming id || s.isSending id)
  | .conclude id => s.phase? id == some .leaving && s.isGivenBack id
  | .stop => true
  | .close => s.stopping && s.accepting

/-- What an action does. -/
def next (s : State) : Action → State
  | .hub a => s.onHub a
  | .connect id => s.connect id
  | .subscribed id =>
    s.move id (if s.subscription? id = some .done then .streaming else .ended)
  | .take id =>
    match s.receipt id with
    | .message m => (s.onHub (.receive (subscriberOf id))).move id (.sending m)
    | _ => s
  | .sent id =>
    match s.phase? id with
    | some (.sending m) => { s with written := s.written ++ [(id, line m)] }.move id .streaming
    | _ => s
  | .sendFailed id | .clientLeft id | .givenUp id | .halt id => s.takeLeave id
  | .conclude id => (s.onHub (.drop (subscriberOf id))).move id .ended
  | .stop => { s with stopping := true }
  | .close => { s with accepting := false }

/-- One step of a run. -/
def Step (s : State) (a : Action) (s' : State) : Prop :=
  s.enabled a = true ∧ s' = s.next a

/-- The states that a run leads to. -/
inductive Reachable (start : State) : State → Prop
  /-- A run of no steps. -/
  | refl : Reachable start start
  /-- One step more. -/
  | step {s s' : State} {a : Action} : Reachable start s → Step s a s' → Reachable start s'

end State

/-- A new live tail whose hub has as many subscribers as there are permits. -/
def State.initial (options : Options) (limits : Hub.Limits) : State :=
  { options, hub := { limits := limits.withMaxSubscribers options.maxConnections } }

end SyslogCollector.Tail
