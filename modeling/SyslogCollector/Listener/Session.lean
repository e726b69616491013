import SyslogCollector.Listener.Step
import SyslogCollector.Sink
/-!
# The listener: sessions

In a session one peer at a time talks to a listener, and a sink answers each message at once. What
a peer sends only arrives where the network carries it.
-/

namespace SyslogCollector.Listener

/-- A listener that one peer after the other talks to. -/
structure Session (σ : Type) where
  /-- The network. -/
  network : Network
  /-- The sink of the messages. -/
  sink : Sink σ
  /-- The state of the sink. -/
  shared : σ
  /-- The listener. -/
  state : State
  /-- How many connections were made; the next one has this number. -/
  connections : Nat := 0

namespace Session

variable {σ : Type}

/-- How many bytes a connection takes at a time. -/
def pieceSize : Nat := 64 * 1024

/-- Starts the listener. A failure to listen on an address is reported, and no failure of this. -/
def start (s : Session σ) : Except ListenerError Unit × Session σ :=
  if s.state.options.tcp.isNone && s.state.options.udp.isNone then (.error .noEndpoints, s)
  else if s.state.started then (.error .alreadyStarted, s)
  else (.ok (), { s with state := s.state.next s.network .start })

/-- An action of the listener. -/
def act (s : Session σ) (a : Action) : Session σ :=
  { s with state := s.state.next s.network a }

/-- Lets the sink answer the message that a source has handed over last, if it has not yet. A sink
that does not answer leaves the source waiting. -/
def answer (s : Session σ) (source : Source) : Session σ :=
  if s.state.phase? source == some .handing then
    match s.state.handed.getLast? with
    | some (_, m) =>
      match s.sink.write m s.shared with
      | (some result, shared) => { s with shared }.act (.answer source result.isOk)
      | (none, shared) => { s with shared }
    | none => s
  else s

/-- Lets a connection read on as long as it can, at most so many steps. -/
def readOn (id : Nat) (received : Instant) : Nat → Session σ → Session σ
  | 0, s => s
  | fuel + 1, s =>
    if s.state.enabled (.read id received) then
      readOn id received fuel ((s.act (.read id received)).answer (.connection id))
    else s

/-- How many steps a connection may read on. -/
def stepsLeft (s : Session σ) (id : Nat) : Nat :=
  match s.state.connection? id with
  | some c => 4 * (c.arrived.byteCount + c.arrived.length + 2)
  | none => 0

/-- Reads on as long as a connection can. -/
def drain (s : Session σ) (id : Nat) (received : Instant) : Session σ :=
  readOn id received (s.stepsLeft id) s

/-- A peer makes a connection, sends some bytes, and either closes its side or waits until the
connection has been idle for too long. There is no outcome if nothing arrives, or if the connection
is never closed. -/
def converse (s : Session σ) (bytes : List UInt8) (closes : Bool) (received : Instant) :
    Option (Session σ) :=
  let id := s.connections
  if s.network.carries && s.state.enabled (.accept id) then
    let s := { s.act (.accept id) with connections := id + 1 }
    let s := (Pieces.ofBytes pieceSize bytes).foldl (fun s piece => s.act (.arrive id piece)) s
    let s := (if closes then s.act (.finish id) else s).drain id received
    if s.state.phase? (.connection id) == some .ended then some s
    else if s.state.enabled (.expire id) then some (s.act (.expire id))
    else none
  else none

/-- A peer sends a datagram. There is no outcome if it does not arrive. -/
def send (s : Session σ) (bytes : List UInt8) (received : Instant) : Option (Session σ) :=
  if s.network.carries && s.state.enabled (.datagram bytes received) then
    some ((s.act (.datagram bytes received)).answer .datagrams)
  else none

/-- Stops the listener, and tells whether all its tasks come to their end. -/
def stop (s : Session σ) : Bool × Session σ :=
  let s := s.act .stop
  let leaving := [Action.leave .datagrams, .close] ++
    s.state.connections.map fun (id, _) => Action.leave (.connection id)
  let s := leaving.foldl (fun s a => if s.state.enabled a then s.act a else s) s
  (s.state.isQuiet, s)

end Session

end SyslogCollector.Listener
