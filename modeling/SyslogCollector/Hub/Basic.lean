import SyslogCollector.Counter
import SyslogCollector.Hub.Error
import SyslogCollector.Hub.Subscriber
import SyslogCollector.Numbered
/-!
# The hub: its state

The hub hands every message to all its subscribers. Whoever wants something of it posts a command
into a mailbox of bounded length; one dispatch task handles the commands in order and alone owns
the set of subscribers. A message is only posted, never waited with: if the mailbox is full, it is
lost. A subscriber whose queue is full is given up.

Everybody who posts a command and waits is a caller with a number of its own, and a caller that
subscribes gives its number to its subscriber. A caller first gets room in the mailbox and then
posts its command; meanwhile the mailbox may be closed, and may even have lost its reader.
`Hub/Step.lean` says how everything goes on.
-/

namespace SyslogCollector.Hub

/-- The sizes of a hub. -/
structure Limits where
  /-- How many commands the mailbox may hold. -/
  mailboxSize : Nat := 4096
  /-- How many messages a subscriber's queue may hold, unless the subscriber says otherwise. -/
  subscriberBuffer : Nat := 256
  /-- How many subscribers there may be. -/
  maxSubscribers : Nat := 100
  deriving DecidableEq, Repr

namespace Limits

/-- The limits with another length of the mailbox, at least 1. -/
def withMailboxSize (l : Limits) (size : Nat) : Limits := { l with mailboxSize := max size 1 }

/-- The limits with another length of the queues, at least 1. -/
def withSubscriberBuffer (l : Limits) (size : Nat) : Limits :=
  { l with subscriberBuffer := max size 1 }

/-- The limits with another number of subscribers. -/
def withMaxSubscribers (l : Limits) (count : Nat) : Limits := { l with maxSubscribers := count }

end Limits

/-- What a hub counts. -/
structure Metrics where
  /-- Messages that it was handed. -/
  received : Nat := 0
  /-- Messages lost because the mailbox was full or closed. -/
  dropped : Nat := 0
  /-- Messages queued for a subscriber, counted for each subscriber. -/
  deliveries : Nat := 0
  /-- Subscribers registered. -/
  registered : Nat := 0
  /-- Subscribers that left or were found to have left. -/
  unregistered : Nat := 0
  /-- Subscribers given up as too slow. -/
  subscribersDropped : Nat := 0
  deriving DecidableEq, Repr, Inhabited

namespace Metrics

/-- How many subscribers there are by the counters. -/
def active (m : Metrics) : Nat :=
  shownCount m.registered - shownCount m.unregistered - shownCount m.subscribersDropped

/-- The counters as they are shown, with their names. -/
def shown (m : Metrics) : List (String × Nat) :=
  [("messages_received", shownCount m.received), ("messages_dropped", shownCount m.dropped),
    ("deliveries", shownCount m.deliveries), ("subscribers_registered", shownCount m.registered),
    ("subscribers_unregistered", shownCount m.unregistered),
    ("subscribers_dropped", shownCount m.subscribersDropped), ("active", m.active)]

end Metrics

/-- What the dispatch task may be asked for. -/
inductive Command where
  /-- Add the subscriber of a caller. -/
  | register (id : Nat)
  /-- Remove a subscriber. -/
  | unregister (subscriber : Nat)
  /-- Hand a message to all subscribers. -/
  | broadcast (m : Message)
  /-- Tell a caller how many subscribers there are. -/
  | count (id : Nat)
  deriving DecidableEq, Repr

/-- What a caller may ask of a hub. -/
inductive Call where
  /-- Become a subscriber whose queue may hold so many messages. -/
  | subscribe (capacity : Nat)
  /-- Remove a subscriber. -/
  | unsubscribe (subscriber : Nat)
  /-- Count the subscribers. -/
  | count
  /-- Wait for the end of the dispatch task, if there is one. -/
  | wait
  deriving DecidableEq, Repr

/-- What a call comes to. -/
inductive Outcome where
  /-- It is done. -/
  | done
  /-- How many subscribers there are. -/
  | size (subscribers : Nat)
  /-- It failed. -/
  | failed (error : HubError)
  deriving DecidableEq, Repr

/-- Where a caller stands. -/
inductive Phase where
  /-- Waits for room in the mailbox. -/
  | posting (c : Command)
  /-- Has got room in the mailbox. -/
  | admitted (c : Command)
  /-- Waits for the answer to its command. -/
  | awaiting (c : Command)
  /-- Waits for the end of the dispatch task. -/
  | waiting
  /-- Its call has come to an end. -/
  | returned (outcome : Outcome)
  deriving DecidableEq, Repr

/-- Where the dispatch task stands. -/
inductive Task where
  /-- It was never started. -/
  | absent
  /-- It handles commands. -/
  | running
  /-- It has left its loop: nothing more is handled or posted. -/
  | leaving
  /-- It has come to its end. -/
  | ended
  deriving DecidableEq, Repr

/-- A hub and all who use it. -/
structure State where
  /-- The sizes. -/
  limits : Limits := {}
  /-- The commands that wait, the oldest first. -/
  mailbox : List Command := []
  /-- Whether the hub is asked to stop. -/
  stopping : Bool := false
  /-- The dispatch task. -/
  task : Task := .absent
  /-- The queues of all who ever subscribed, each with its number. -/
  subscribers : List (Nat × Subscriber) := []
  /-- The subscribers that messages are handed to. -/
  registered : List Nat := []
  /-- The callers, each with its number. -/
  callers : List (Nat × Phase) := []
  /-- The counters. -/
  metrics : Metrics := {}
  deriving Repr

namespace State

/-- Where a caller stands. -/
def phase? (s : State) (id : Nat) : Option Phase := s.callers.lookup id

/-- The queue of a subscriber. -/
def subscriber? (s : State) (id : Nat) : Option Subscriber := s.subscribers.lookup id

/-- Moves a caller. -/
def move (s : State) (id : Nat) (phase : Phase) : State :=
  { s with callers := Numbered.assign id phase s.callers }

/-- Ends the call of a caller. -/
def finish (s : State) (id : Nat) (outcome : Outcome) : State :=
  s.move id (.returned outcome)

/-- Changes the queue of a subscriber. -/
def modify (s : State) (id : Nat) (f : Subscriber → Subscriber) : State :=
  { s with subscribers := s.subscribers.map fun (n, q) => if n = id then (n, f q) else (n, q) }

/-- Whether the mailbox takes commands. -/
def isOpen (s : State) : Bool := s.task == .absent || s.task == .running

/-- How many commands the mailbox may hold, at least 1. -/
def mailboxLimit (s : State) : Nat := max s.limits.mailboxSize 1

/-- How many commands wait in the mailbox or have room there. -/
def mailboxLoad (s : State) : Nat :=
  s.mailbox.length + s.callers.countP fun c => c.2 matches .admitted _

/-- Whether the mailbox is full. -/
def isFull (s : State) : Bool := s.mailboxLimit ≤ s.mailboxLoad

end State

end SyslogCollector.Hub
