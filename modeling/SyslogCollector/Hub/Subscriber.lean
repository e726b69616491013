import SyslogCollector.Message.Basic
/-!
# Subscribers

A subscriber is a queue of bounded length between the hub, which offers messages and never waits,
and a client, which takes them in order.
-/

namespace SyslogCollector.Hub

/-- What becomes of a message that is offered to a subscriber. -/
inductive Delivery where
  /-- It is queued for the client. -/
  | sent
  /-- The client is too slow: the queue is full. -/
  | full
  /-- The client takes no more. -/
  | closed
  deriving DecidableEq, Repr

/-- What the client of a subscriber gets when it takes without waiting. -/
inductive Receipt where
  /-- The next message. -/
  | message (m : Message)
  /-- There is none now. -/
  | empty
  /-- There is none and there will be none. -/
  | closed
  /-- The client gave up its end. -/
  | gone
  deriving DecidableEq, Repr

/-- Where the client's end of a queue stands. -/
inductive ClientEnd where
  /-- It takes messages. -/
  | open
  /-- It takes what is queued and nothing more. -/
  | closed
  /-- It was given up. -/
  | gone
  deriving DecidableEq, Repr

/-- The queue of a subscriber. -/
structure Subscriber where
  /-- How many messages it may hold. -/
  capacity : Nat
  /-- The messages that the client has not taken yet, the oldest first. -/
  queue : List Message := []
  /-- Whether the hub's end is there. -/
  held : Bool := true
  /-- The client's end. -/
  client : ClientEnd := .open
  deriving DecidableEq, Repr

namespace Subscriber

/-- A queue with room for at least one message. -/
def withCapacity (capacity : Nat) : Subscriber := { capacity := max capacity 1 }

/-- Whether the client still takes messages. -/
def isConnected (s : Subscriber) : Bool := s.client == .open

/-- Offers a message. -/
def offer (s : Subscriber) (m : Message) : Delivery × Subscriber :=
  if !s.isConnected then (.closed, s)
  else if s.capacity ≤ s.queue.length then (.full, s)
  else (.sent, { s with queue := s.queue ++ [m] })

/-- The client takes a message. -/
def receive (s : Subscriber) : Receipt × Subscriber :=
  if s.client = .gone then (.gone, s)
  else match s.queue with
    | m :: rest => (.message m, { s with queue := rest })
    | [] => (if s.held && s.isConnected then .empty else .closed, s)

/-- The client takes no more, but may take what is queued. -/
def close (s : Subscriber) : Subscriber :=
  if s.client = .gone then s else { s with client := .closed }

/-- The client gives up its end. -/
def leave (s : Subscriber) : Subscriber :=
  { s with client := .gone, queue := [] }

/-- The hub gives up its end. -/
def release (s : Subscriber) : Subscriber :=
  { s with held := false }

theorem capacity_pos (capacity : Nat) : 0 < (withCapacity capacity).capacity :=
  Nat.lt_of_lt_of_le Nat.zero_lt_one (Nat.le_max_right capacity 1)

end Subscriber

end SyslogCollector.Hub
