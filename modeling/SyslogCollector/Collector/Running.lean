import SyslogCollector.Collector.Error
import SyslogCollector.Collector.Wiring
import SyslogCollector.Fanout.Ensemble
import SyslogCollector.Fanout.Sink
import SyslogCollector.Listener.Session
/-!
# The running collector

The listener hands every message to a fan-out, which hands it to the writer of the store, to the
hub of the live tail and, if that is wanted, to the console. The live tail gets its address before
anything runs. A listener that cannot listen on all its addresses brings the collector down.
-/

namespace SyslogCollector.Collector

open Fanout (Ensemble Member)

/-- A writer over the store of some settings that nobody has started. -/
def writer (s : Settings) (t : Store.Influx.Transport τ) (outside : τ) :
    Store.Writer.Session (MemoryStore × τ) where
  backend := s.store t
  tuning := s.writerTuning
  state := { store := ({}, outside) }

/-- The sinks of some settings. -/
def members (s : Settings) (t : Store.Influx.Transport τ) (outside : τ) :
    List (Member (MemoryStore × τ)) :=
  [.store (writer s t outside), .hub { state := { limits := s.hubLimits } }] ++
    if s.syslog.logToStdout then [.console s.console] else []

/-- The state that the listener's sink works on. -/
abbrev Shared (τ : Type) := Fanout.State × Ensemble (MemoryStore × τ)

/-- The fan-out to the sinks of an ensemble, for messages received at this time. -/
def dispatcher (e : Ensemble (MemoryStore × τ)) (received : Instant) : Sink (Shared τ) :=
  Fanout.sink (e.sinks received)

/-- A collector that runs. -/
structure Running (τ : Type) where
  /-- The address of the live tail, if there is one. -/
  tail : Option Network.Address
  /-- The listener with its sink. -/
  listener : Listener.Session (Shared τ)

/-- Where the live tail listens, if it is enabled. -/
def tailAddress (n : Network) (s : Settings) : Except CollectorError (Option Network.Address) :=
  if s.tail.enabled then
    match n.listen s.tail.address with
    | .ok address => .ok (some address)
    | .error e => .error (.tail (.bind s.tail.address e.message))
  else .ok none

/-- Starts the sinks. A sink that never starts is one that does not fail. -/
def startSinks (e : Ensemble (MemoryStore × τ)) (now : Instant) :
    Except CollectorError (Shared τ) :=
  match (dispatcher e now).start ({}, e) with
  | (some (.error error), _) => .error (.sinks error)
  | (_, shared) => .ok shared

/-- Starts the listener. Whatever it reports brings the collector down. -/
def startListener (l : Listener.Session (Shared τ)) :
    Except CollectorError (Listener.Session (Shared τ)) :=
  match l.start with
  | (.error error, _) => .error (.listenerStart error)
  | (.ok _, l) =>
    match l.state.reports with
    | error :: _ => .error (.listener error)
    | [] => .ok l

/-- Starts a collector. -/
def start (n : Network) (t : Store.Influx.Transport τ) (outside : τ) (s : Settings)
    (now : Instant) : Except CollectorError (Running τ) := do
  let tail ← tailAddress n s
  let e : Ensemble (MemoryStore × τ) := { members := members s t outside }
  let shared ← startSinks e now
  let listener ← startListener {
    network := tail.elim n n.occupy
    sink := dispatcher e now
    shared
    state := { options := s.listenerOptions } }
  return { tail, listener }

namespace Running

/-- The collector at a moment: messages are received at this time. -/
def receivingAt (r : Running τ) (now : Instant) : Running τ :=
  { r with listener := { r.listener with sink := dispatcher r.listener.shared.2 now } }

/-- A peer makes a connection, sends some bytes and closes its side. -/
def converse (r : Running τ) (bytes : List UInt8) (now : Instant) : Option (Running τ) :=
  ((r.receivingAt now).listener.converse bytes true now).map fun listener => { r with listener }

/-- A peer sends a datagram. -/
def send (r : Running τ) (bytes : List UInt8) (now : Instant) : Option (Running τ) :=
  ((r.receivingAt now).listener.send bytes now).map fun listener => { r with listener }

/-- What the console has shown. -/
def output (r : Running τ) : String :=
  String.join (r.listener.shared.2.consoles.map fun (_, c) => c.output)

/-- Stops the collector: the listener first, then the sinks, and then once more a flush, for what
came in during the last one. What becomes of that flush does not matter. -/
def stop (r : Running τ) : Running τ :=
  let listener := r.listener.stop.2
  let e := listener.shared.2.cancel
  let shared := ((dispatcher e ⟨0, 0⟩).wait (listener.shared.1, e)).2
  let e := shared.2.stores.foldl (fun e (i, s) => (e.begin.callStore i s .flush).2) shared.2
  { r with listener := { listener with shared := (shared.1, e) } }

end Running

end SyslogCollector.Collector
