import SyslogCollector.Fanout.Basic
import SyslogCollector.Sink
import SyslogCollector.Text.Literal
/-!
# The fan-out as a sink

A fan-out is a sink itself, over its own state beside the state of its sinks. Here one caller writes
at a time.
-/

namespace SyslogCollector.Fanout

variable {σ : Type}

/-- The number of the only caller. -/
def soleCaller : Nat := 0

/-- Hands the message of the caller to one sink after the other. A sink that never answers ends
the write. -/
def handAll (m : Message) : List (Sink σ) → State × σ → Bool × (State × σ)
  | [], s => (true, s)
  | sink :: rest, (s, shared) =>
    let s := s.next (.hand soleCaller)
    match sink.write m shared with
    | (some result, shared) => handAll m rest (s.next (.answer soleCaller result), shared)
    | (none, shared) => (false, (s.next (.abandon soleCaller), shared))

/-- Writes a message. -/
def write (sinks : List (Sink σ)) (m : Message) (s : State × σ) :
    Option (Except SinkError Unit) × (State × σ) :=
  match handAll m sinks (s.1.next (.begin soleCaller m), s.2) with
  | (true, (s, shared)) =>
    ((s.writes.lookup soleCaller).map Progress.result, (s.next (.conclude soleCaller), shared))
  | (false, s) => (none, s)

/-- Starts the sinks in order, up to the first that fails. -/
def startAll : List (Sink σ) → σ → Option (Except SinkError Unit) × σ
  | [], shared => (some (.ok ()), shared)
  | sink :: rest, shared =>
    match sink.start shared with
    | (some (.ok _), shared) => startAll rest shared
    | failed => failed

/-- Stops all sinks in order. The first failure is the result. -/
def stopAll : List (Sink σ) → Except SinkError Unit → σ → Option (Except SinkError Unit) × σ
  | [], result, shared => (some result, shared)
  | sink :: rest, result, shared =>
    match sink.stop shared with
    | (some r, shared) => stopAll rest (if result.isOk then r else result) shared
    | (none, shared) => (none, shared)

/-- Waits for all sinks in order. -/
def waitAll : List (Sink σ) → σ → Option (Except SinkError Unit) × σ
  | [], shared => (some (.ok ()), shared)
  | sink :: rest, shared =>
    match sink.wait shared with
    | (some _, shared) => waitAll rest shared
    | (none, shared) => (none, shared)

/-- The name of a fan-out. -/
def name : String := "aggregate"

/-- Does something with the sinks alone. -/
def onSinks (f : σ → α × σ) (s : State × σ) : α × (State × σ) :=
  let (a, shared) := f s.2
  (a, (s.1, shared))

/-- A fan-out to some sinks. -/
def sink (sinks : List (Sink σ)) : Sink (State × σ) where
  name := name
  write := write sinks
  start := onSinks (startAll sinks)
  stop := onSinks (stopAll sinks (.ok ()))
  wait := onSinks (waitAll sinks)

/-- A fan-out to sinks of these names, as it is shown to programmers. -/
def describe (names : List String) : String :=
  "AggregateWriter \x7b sinks: " ++ Literal.quoteAll names ++ " \x7d"

end SyslogCollector.Fanout
