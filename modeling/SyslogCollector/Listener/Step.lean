import SyslogCollector.Listener.Basic
/-!
# The listener: its steps

A run of a listener is a sequence of actions. `enabled` says which actions are possible in a state,
`next` what they do. Bytes arrive in any pieces and at any time, a connection reads on whenever it
can, and the sink answers each message as it likes; so the runs are all interleavings of the
connections and the datagrams.
-/

namespace SyslogCollector.Listener

/-- Something that happens to a listener. -/
inductive Action where
  /-- The endpoints are bound. -/
  | start
  /-- The listener is asked to stop. -/
  | stop
  /-- A connection is accepted. -/
  | accept (id : Nat)
  /-- Some bytes arrive on a connection. -/
  | arrive (id : Nat) (piece : List UInt8)
  /-- The other side of a connection sends nothing more. -/
  | finish (id : Nat)
  /-- The task of a connection takes one step of its reader. -/
  | read (id : Nat) (received : Instant)
  /-- A datagram is taken. -/
  | datagram (bytes : List UInt8) (received : Instant)
  /-- The sink has taken the message of a source, or refused it. -/
  | answer (source : Source) (taken : Bool)
  /-- A connection is closed because it was idle for too long. -/
  | expire (id : Nat)
  /-- A connection is closed because the other side broke it off. -/
  | reset (id : Nat)
  /-- A connection is closed because its socket failed. -/
  | fail (id : Nat)
  /-- The task of a source sees that it shall stop. -/
  | leave (source : Source)
  /-- The endpoint for connections is closed. -/
  | close
  deriving Repr

namespace State

/-- The address of a transport is bound, or the failure is reported. -/
def bindEndpoint (n : Network) (s : State) (transport : Transport) : State :=
  match s.options.address? transport with
  | none => s
  | some text =>
    match transport.bind n text with
    | .error e => { s with reports := s.reports ++ [.bind transport text e.message] }
    | .ok address =>
      match transport with
      | .tcp => { s with tcp := .listening address }
      | .udp => { s with udp := .listening address, datagrams := .reading }

/-- The endpoints are bound. -/
def start (n : Network) (s : State) : State :=
  [Transport.tcp, .udp].foldl (bindEndpoint n) { s with started := true }

/-- Deals with what a source has read: counts it, and hands over its message if it has one. -/
def deal (s : State) (source : Source) (events : List Event) (fate : Fate) : State :=
  let s := s.count (events ++ fate.events)
  match fate.message? with
  | some m => { s with handed := s.handed ++ [(source, m)] }.move .handing source
  | none => s

/-- A connection is at its end. -/
def endConnection (s : State) (id : Nat) (events : List Event) : State :=
  (s.move .ended (.connection id)).count (events ++ [.closed])

/-- The task of a connection takes one step of its reader. -/
def read (s : State) (id : Nat) (received : Instant) (c : Connection) : State :=
  match step s.options.maxMessageSize c.reader c.arrived with
  | .more reader rest => s.put id { c with reader, arrived := rest }
  | .done reading =>
    let s := s.put id { c with reader := .start, arrived := reading.rest }
    match reading.fate? s.options.mode received with
    | some (events, fate) => s.deal (.connection id) events fate
    | none => s.endConnection id []

/-- The sink has answered the message of a source. -/
def answer (s : State) (source : Source) (taken : Bool) : State :=
  (s.count (if taken then [] else [.sinkError])).move .reading source

/-- The task of a source sees that it shall stop. -/
def leave (s : State) : Source → State
  | .connection id => s.endConnection id []
  | .datagrams => { s with udp := .closed, datagrams := .ended }

/-- Whether an action is possible. -/
def enabled (s : State) : Action → Bool
  | .start => !s.started && (s.options.tcp.isSome || s.options.udp.isSome)
  | .stop => true
  | .accept id => s.tcp.isListening && (s.connection? id).isNone
  | .arrive id piece => (s.connection? id).any (!·.isFinished) && !piece.isEmpty
  | .finish id => (s.connection? id).any (!·.isFinished)
  | .read id _ => (s.connection? id).any fun c => c.phase == .reading && c.canRead
  | .datagram .. => s.udp.isListening && s.datagrams == .reading
  | .answer source _ => s.phase? source == some .handing
  | .expire id =>
    s.phase? (.connection id) == some .reading && !s.options.idleTimeout.isZero
  | .reset id | .fail id => s.phase? (.connection id) == some .reading
  | .leave source => s.stopping && s.phase? source == some .reading
  | .close => s.stopping && s.tcp.isListening

/-- What an action does. -/
def next (n : Network) (s : State) : Action → State
  | .start => s.start n
  | .stop => { s with stopping := true }
  | .accept id => (s.put id {}).count [.opened]
  | .arrive id piece =>
    match s.connection? id with
    | some c => s.put id { c with arrived := c.arrived ++ [piece] }
    | none => s
  | .finish id =>
    match s.connection? id with
    | some c => s.put id { c with isFinished := true }
    | none => s
  | .read id received =>
    match s.connection? id with
    | some c => s.read id received c
    | none => s
  | .datagram bytes received =>
    let (events, fate) := datagramFate s.options.maxMessageSize s.options.mode received bytes
    s.deal .datagrams events fate
  | .answer source taken => s.answer source taken
  | .expire id | .reset id => s.endConnection id []
  | .fail id => s.endConnection id [.error]
  | .leave source => s.leave source
  | .close => { s with tcp := .closed }

/-- One step of a run. -/
def Step (n : Network) (s : State) (a : Action) (s' : State) : Prop :=
  s.enabled a = true ∧ s' = s.next n a

/-- The states that a run leads to. -/
inductive Reachable (n : Network) (start : State) : State → Prop
  /-- A run of no steps. -/
  | refl : Reachable n start start
  /-- One step more. -/
  | step {s s' : State} {a : Action} :
    Reachable n start s → Step n s a s' → Reachable n start s'

end State

end SyslogCollector.Listener
