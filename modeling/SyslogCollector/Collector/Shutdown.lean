import SyslogCollector.Listener.Step
import SyslogCollector.Store.Writer.Step
/-!
# How a collector comes down

A collector that is told to stop waits for its listener, then for the flush task of its writer, and
then flushes what is left in the buffer. All the while the tasks of the listener still hand over
what they have in hand, and the flush task serves what was requested. A run of `State` is any
interleaving of these.

Between the listener and the writer stands the fan-out, which hands every message to the writer
before all other sinks and answers the listener when they are through. None of the other sinks keeps
it waiting, and whatever they answer the message counts as taken; so they do not appear here.
-/

namespace SyslogCollector.Collector.Shutdown

open Listener (Source)

/-- Where the collector itself stands. -/
inductive Stage where
  /-- It was not told to stop. -/
  | serving
  /-- It waits for the listener to come to its end. -/
  | draining
  /-- It waits, by this call, for the flush task to come to its end. -/
  | settling (call : Nat)
  /-- It waits for the last flush, which is this call. -/
  | flushing (call : Nat)
  /-- It is down. -/
  | down
  deriving DecidableEq, Repr

/-- A collector with its listener and its writer. -/
structure State (σ : Type) where
  /-- The listener. -/
  listener : Listener.State
  /-- The writer. -/
  writer : Store.Writer.State σ
  /-- The writes under way, each with the source whose message it stores. -/
  writes : List (Source × Nat) := []
  /-- How many calls the writer got; the next one has this number. -/
  calls : Nat := 0
  /-- Where the collector itself stands. -/
  stage : Stage := .serving

/-- Something that happens to a collector. -/
inductive Action where
  /-- The listener goes on, or something comes in. -/
  | listener (a : Listener.Action)
  /-- The writer goes on, or time passes. -/
  | writer (a : Store.Writer.Action)
  /-- The message that a source has handed over goes to the writer. -/
  | deliver (source : Source) (received : Instant)
  /-- The writer is through with the message of a source, and the source learns that. -/
  | answer (source : Source)
  /-- The collector is told to stop, and so are all its parts. -/
  | stop
  /-- The collector goes on to its next stage. -/
  | proceed
  deriving Repr

/-- Whether the listener does this by itself at a stage. It is started before the collector can be
told to stop. -/
def isListenersOwn (stage : Stage) : Listener.Action → Bool
  | .start => stage == .serving
  | .answer .. | .stop => false
  | _ => true

/-- Whether the writer does this by itself at a stage. Only the sources and the collector make
calls, and nobody gives up a call. The flush task is started before the collector can be told to
stop. -/
def isWritersOwn (stage : Stage) : Store.Writer.Action → Bool
  | .start => stage == .serving
  | .call .. | .abandon _ | .openReader .. | .stop => false
  | _ => true

namespace State

variable {σ : Type}

/-- What a call of the writer came to, once it has come to its end. -/
def outcome? (s : State σ) (call : Nat) : Option Store.Writer.Outcome :=
  match s.writer.phase? call with
  | some (.returned outcome) => some outcome
  | _ => none

/-- The message that a source has handed over last. -/
def handed? (s : State σ) (source : Source) : Option Message :=
  (s.listener.handed.reverse.find? (·.1 == source)).map (·.2)

/-- Makes a call of the writer. -/
def call (s : State σ) (c : Store.Writer.Call) : State σ :=
  { s with writer := s.writer.begin s.calls c, calls := s.calls + 1 }

/-- The message of a source goes to the writer. -/
def deliver (s : State σ) (source : Source) (received : Instant) : State σ :=
  match s.handed? source with
  | some m => { s.call (.write m received) with writes := s.writes ++ [(source, s.calls)] }
  | none => s

/-- A source learns that its message is stored, or is not and never will be. -/
def answer (s : State σ) (source : Source) : State σ :=
  { s with
    listener := s.listener.answer source true
    writes := s.writes.filter (·.1 != source) }

/-- Whether the collector can go on to its next stage. -/
def canProceed (s : State σ) : Bool :=
  match s.stage with
  | .draining => s.listener.isQuiet
  | .settling call | .flushing call => (s.outcome? call).isSome
  | .serving | .down => false

/-- The collector goes on to its next stage. What becomes of the last flush does not matter. -/
def proceed (s : State σ) : State σ :=
  match s.stage with
  | .draining => { s.call .wait with stage := .settling s.calls }
  | .settling _ => { s.call .flush with stage := .flushing s.calls }
  | .flushing _ => { s with stage := .down }
  | .serving | .down => s

/-- Whether an action is possible. -/
def enabled (s : State σ) : Action → Bool
  | .listener a => isListenersOwn s.stage a && s.listener.enabled a
  | .writer a => isWritersOwn s.stage a && s.writer.enabled a
  | .deliver source _ =>
    s.listener.phase? source == some .handing && (s.writes.lookup source).isNone
  | .answer source => ((s.writes.lookup source).bind s.outcome?).isSome
  | .stop => s.stage == .serving
  | .proceed => s.canProceed

/-- What an action does. -/
def next (n : Network) (B : Store.Backend σ) (t : Store.Writer.Tuning) (s : State σ) :
    Action → State σ
  | .listener a => { s with listener := s.listener.next n a }
  | .writer a => { s with writer := s.writer.next B t a }
  | .deliver source received => s.deliver source received
  | .answer source => s.answer source
  | .stop =>
    { s with
      listener := s.listener.next n .stop
      writer := s.writer.next B t .stop
      stage := .draining }
  | .proceed => s.proceed

/-- One step of a run. -/
def Step (n : Network) (B : Store.Backend σ) (t : Store.Writer.Tuning) (s : State σ) (a : Action)
    (s' : State σ) : Prop :=
  s.enabled a = true ∧ s' = s.next n B t a

/-- The states that a run leads to. -/
inductive Reachable (n : Network) (B : Store.Backend σ) (t : Store.Writer.Tuning)
    (start : State σ) : State σ → Prop
  /-- A run of no steps. -/
  | refl : Reachable n B t start start
  /-- One step more. -/
  | step {s s' : State σ} {a : Action} :
    Reachable n B t start s → Step n B t s a s' → Reachable n B t start s'

end State

/-- A collector that nothing has come to yet. -/
def State.initial (options : Listener.Options) (store : σ) : State σ where
  listener := { options }
  writer := { store }

end SyslogCollector.Collector.Shutdown
