import SyslogCollector.Listener.Delivery
import SyslogCollector.Listener.Error
import SyslogCollector.Network.Address
import SyslogCollector.Numbered
import SyslogCollector.Time.Duration
/-!
# The listener: its state

A listener has an endpoint for connections and one for datagrams. Every connection has a task that
reads frames and hands their messages to the sink one at a time, and so has the datagram endpoint.
A frame that is no message, or a sink that refuses one, changes nothing for what comes after.
`Listener/Step.lean` says how everything goes on.
-/

namespace SyslogCollector.Listener

/-- How a listener is set up. -/
structure Options where
  /-- The address for connections, if there shall be any. -/
  tcp : Option String := some "0.0.0.0:514"
  /-- The address for datagrams, if there shall be any. -/
  udp : Option String := some "0.0.0.0:514"
  /-- Which dialects are accepted. -/
  mode : Syslog.Mode := .automatic
  /-- The most bytes a message may have. -/
  maxMessageSize : Nat := 8192
  /-- How long a connection may be idle; no time at all is for ever. -/
  idleTimeout : Duration := .ofSeconds 300
  deriving DecidableEq, Repr

/-- The address of a transport. -/
def Options.address? (o : Options) : Transport → Option String
  | .tcp => o.tcp
  | .udp => o.udp

/-- How many bytes of a datagram are taken. -/
def Options.datagramRoom (o : Options) : Nat := o.maxMessageSize + 1

/-- The address that a text means to a transport, if it can be had. Only connections keep others
off it. -/
def Transport.bind (n : Network) (text : String) : Transport → Except Network.BindError Network.Address
  | .tcp => n.listen text
  | .udp => n.own text

/-- Where an endpoint stands. -/
inductive Endpoint where
  /-- It has no address, or was not started, or could not be bound. -/
  | absent
  /-- It listens on an address. -/
  | listening (address : Network.Address)
  /-- It was closed. -/
  | closed
  deriving DecidableEq, Repr

/-- Whether an endpoint listens. -/
def Endpoint.isListening : Endpoint → Bool
  | .listening _ => true
  | _ => false

/-- Who hands messages to the sink. -/
inductive Source where
  /-- A connection. -/
  | connection (id : Nat)
  /-- The endpoint for datagrams. -/
  | datagrams
  deriving DecidableEq, Repr

/-- Where a task that hands messages to the sink stands. -/
inductive Phase where
  /-- It waits for a frame or a datagram. -/
  | reading
  /-- It waits for the sink to answer. -/
  | handing
  /-- It has come to its end. -/
  | ended
  deriving DecidableEq, Repr

/-- A connection. -/
structure Connection where
  /-- Where its task stands. -/
  phase : Phase := .reading
  /-- Where the reader stands within the next frame. -/
  reader : ReaderState := .start
  /-- What has arrived and is not read. -/
  arrived : Pieces := []
  /-- Whether the other side sends nothing more. -/
  isFinished : Bool := false
  deriving Repr

namespace Connection

/-- Whether the reader can go on: it sees the next piece or the end of the stream, or needs
neither. -/
def canRead (c : Connection) : Bool :=
  match c.reader with
  | .skip 0 | .body _ 0 => true
  | _ => !c.arrived.isEmpty || c.isFinished

end Connection

/-- A listener and its connections. -/
structure State where
  /-- How it is set up. -/
  options : Options
  /-- Whether it was started. -/
  started : Bool := false
  /-- Whether it is asked to stop. -/
  stopping : Bool := false
  /-- The endpoint for connections. -/
  tcp : Endpoint := .absent
  /-- The endpoint for datagrams. -/
  udp : Endpoint := .absent
  /-- Where the task for datagrams stands. -/
  datagrams : Phase := .ended
  /-- The connections, each with its number. -/
  connections : List (Nat × Connection) := []
  /-- The failures to listen that were reported, the oldest first. -/
  reports : List ListenerError := []
  /-- The messages handed to the sink, the oldest first, each with who handed it over. -/
  handed : List (Source × Message) := []
  /-- The counters. -/
  metrics : Metrics := {}
  deriving Repr

namespace State

/-- The endpoint of a transport. -/
def endpoint (s : State) : Transport → Endpoint
  | .tcp => s.tcp
  | .udp => s.udp

/-- The connection of a number. -/
def connection? (s : State) (id : Nat) : Option Connection := s.connections.lookup id

/-- Puts a connection in place of the one with its number. -/
def put (s : State) (id : Nat) (c : Connection) : State :=
  { s with connections := Numbered.assign id c s.connections }

/-- Counts events. -/
def count (s : State) (events : List Event) : State :=
  { s with metrics := s.metrics.countAll events }

/-- Where the task of a source stands. There is none for an unknown connection. -/
def phase? (s : State) : Source → Option Phase
  | .connection id => (s.connection? id).map (·.phase)
  | .datagrams => some s.datagrams

/-- Moves the task of a source. -/
def move (s : State) (phase : Phase) : Source → State
  | .connection id =>
    match s.connection? id with
    | some c => s.put id { c with phase }
    | none => s
  | .datagrams => { s with datagrams := phase }

/-- Whether no task is left. -/
def isQuiet (s : State) : Bool :=
  !s.tcp.isListening && s.datagrams == .ended && s.connections.all (·.2.phase == .ended)

end State

end SyslogCollector.Listener
