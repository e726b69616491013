import SyslogCollector.Console
import SyslogCollector.Hub.Step
import SyslogCollector.Network.Address
import SyslogCollector.Time.Duration
/-!
# The live tail: its state

Every client of the live tail becomes a subscriber of the hub and gets each message as one line.
There are only so many permits; a client that finds none is turned away at once. A client that
leaves, cannot be written to in time, or is given up by the hub loses its subscription first and its
permit after that. `Tail/Step.lean` says how everything goes on.

The hub is used by the tail alone. The connection with number `n` subscribes as caller `2 * n` of
the hub, and gives its subscription back as caller `2 * n + 1`.
-/

namespace SyslogCollector.Tail

/-- How the live tail is set up. -/
structure Options where
  /-- The address that it listens on. -/
  address : String := "127.0.0.1:5515"
  /-- How many clients there may be. -/
  maxConnections : Nat := 100
  /-- How long it may take to write a line to a client. -/
  writeTimeout : Duration := .ofSeconds 10
  deriving DecidableEq, Repr

/-- How many permits there are, at least 1. -/
def Options.permits (o : Options) : Nat := max o.maxConnections 1

/-- Where a connection stands. -/
inductive Phase where
  /-- It has a permit and waits to be subscribed. -/
  | subscribing
  /-- It waits for a message, or for the end of its client. -/
  | streaming
  /-- It writes a message to its client. -/
  | sending (m : Message)
  /-- It waits for its subscription to be given back. -/
  | leaving
  /-- It has come to its end. -/
  | ended
  /-- It found no permit. -/
  | turnedAway
  deriving DecidableEq, Repr

/-- Whether a connection in a phase holds a permit. -/
def Phase.holdsPermit : Phase → Bool
  | .ended | .turnedAway => false
  | _ => true

/-- The line that a client gets for a message. -/
def line (m : Message) : String := Console.line m ++ "\n"

/-- The number with which a connection subscribes. -/
def subscriberOf (id : Nat) : Nat := 2 * id

/-- The number with which a connection gives its subscription back. -/
def leaverOf (id : Nat) : Nat := 2 * id + 1

/-- A live tail, its hub and its connections. -/
structure State where
  /-- How it is set up. -/
  options : Options := {}
  /-- The hub. -/
  hub : Hub.State := {}
  /-- Whether new clients are let in. -/
  accepting : Bool := true
  /-- Whether the tail is asked to stop. -/
  stopping : Bool := false
  /-- The connections, each with its number. -/
  connections : List (Nat × Phase) := []
  /-- The lines written so far, each with the connection it was written to. -/
  written : List (Nat × String) := []
  deriving Repr

namespace State

/-- Where a connection stands. -/
def phase? (s : State) (id : Nat) : Option Phase := s.connections.lookup id

/-- Moves a connection. -/
def move (s : State) (id : Nat) (phase : Phase) : State :=
  { s with connections := Numbered.assign id phase s.connections }

/-- How many permits are held. -/
def permitsHeld (s : State) : Nat := s.connections.countP (·.2.holdsPermit)

/-- What the hub makes of the subscription of a connection, once it has decided. -/
def subscription? (s : State) (id : Nat) : Option Hub.Outcome :=
  match s.hub.phase? (subscriberOf id) with
  | some (.returned outcome) => some outcome
  | _ => none

/-- What a connection would get from its queue now. -/
def receipt (s : State) (id : Nat) : Hub.Receipt :=
  ((s.hub.subscriber? (subscriberOf id)).map (·.receive.1)).getD .gone

/-- Whether the subscription of a connection is given back. -/
def isGivenBack (s : State) (id : Nat) : Bool :=
  match s.hub.phase? (leaverOf id) with
  | some (.returned _) => true
  | _ => false

end State

end SyslogCollector.Tail
