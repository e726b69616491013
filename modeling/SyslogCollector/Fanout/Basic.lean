import SyslogCollector.Counter
import SyslogCollector.Message.Basic
import SyslogCollector.Numbered
import SyslogCollector.Store.Error
/-!
# The fan-out: its state and its steps

The fan-out hands every message to each of its sinks, one after the other. A sink that refuses a
message is passed over, so that the others get it all the same. Several callers may write at once;
every one of them goes through the sinks in the same order.
-/

namespace SyslogCollector.Fanout

/-- What a fan-out counts. -/
structure Metrics where
  /-- Messages that it was handed. -/
  received : Nat := 0
  /-- Messages that every sink took. -/
  delivered : Nat := 0
  /-- Messages taken by a sink, counted for each sink. -/
  sinkWritesOk : Nat := 0
  /-- Messages refused by a sink, counted for each sink. -/
  sinkWritesFailed : Nat := 0
  deriving DecidableEq, Repr, Inhabited

namespace Metrics

/-- Messages that at least one sink did not take, by the counters. -/
def partiallyFailed (m : Metrics) : Nat :=
  shownCount m.received - shownCount m.delivered

/-- Counts the result of a sink. -/
def countResult (m : Metrics) : Except SinkError Unit → Metrics
  | .ok _ => { m with sinkWritesOk := m.sinkWritesOk + 1 }
  | .error _ => { m with sinkWritesFailed := m.sinkWritesFailed + 1 }

/-- The counters as they are shown, with their names. -/
def shown (m : Metrics) : List (String × Nat) :=
  [("messages_received", shownCount m.received), ("messages_delivered", shownCount m.delivered),
    ("sink_writes_success", shownCount m.sinkWritesOk),
    ("sink_writes_failed", shownCount m.sinkWritesFailed),
    ("partially_failed", m.partiallyFailed)]

end Metrics

/-- How far the write of a caller is. -/
structure Progress where
  /-- The message. -/
  message : Message
  /-- How many sinks have got it. -/
  handed : Nat := 0
  /-- How many of these have answered. -/
  answered : Nat := 0
  /-- How many of these refused it. -/
  failed : Nat := 0
  deriving Repr

/-- What a write comes to when all sinks have answered, whatever they answered. -/
def Progress.result (_ : Progress) : Except SinkError Unit := .ok ()

/-- A fan-out and all who write to it. -/
structure State where
  /-- The writes under way, each with the number of its caller. -/
  writes : List (Nat × Progress) := []
  /-- The counters. -/
  metrics : Metrics := {}
  deriving Repr

/-- Something that happens to a fan-out. -/
inductive Action where
  /-- A caller writes a message. -/
  | begin (id : Nat) (m : Message)
  /-- The message of a caller is handed to the next sink. -/
  | hand (id : Nat)
  /-- The sink that got the message of a caller last answers. -/
  | answer (id : Nat) (result : Except SinkError Unit)
  /-- The write of a caller comes to its end. -/
  | conclude (id : Nat)
  /-- A caller is gone before its write comes to an end. -/
  | abandon (id : Nat)

namespace State

/-- Whether an action is possible, with so many sinks. -/
def enabled (sinks : Nat) (s : State) : Action → Bool
  | .begin id _ => (s.writes.lookup id).isNone
  | .hand id => (s.writes.lookup id).any fun p => p.answered == p.handed && p.handed < sinks
  | .answer id _ => (s.writes.lookup id).any fun p => p.answered < p.handed
  | .conclude id => (s.writes.lookup id).any (·.answered == sinks)
  | .abandon id => (s.writes.lookup id).isSome

/-- What an action does. -/
def next (s : State) : Action → State
  | .begin id m =>
    { writes := Numbered.assign id { message := m } s.writes
      metrics := { s.metrics with received := s.metrics.received + 1 } }
  | .hand id =>
    match s.writes.lookup id with
    | none => s
    | some p => { s with writes := Numbered.assign id { p with handed := p.handed + 1 } s.writes }
  | .answer id result =>
    match s.writes.lookup id with
    | none => s
    | some p =>
      let failed := if result.isOk then p.failed else p.failed + 1
      { writes := Numbered.assign id { p with answered := p.answered + 1, failed } s.writes
        metrics := s.metrics.countResult result }
  | .conclude id =>
    match s.writes.lookup id with
    | none => s
    | some p =>
      { writes := Numbered.erase id s.writes
        metrics := if p.failed = 0 then { s.metrics with delivered := s.metrics.delivered + 1 }
          else s.metrics }
  | .abandon id => { s with writes := Numbered.erase id s.writes }

/-- One step of a run. -/
def Step (sinks : Nat) (s : State) (a : Action) (s' : State) : Prop :=
  s.enabled sinks a = true ∧ s' = s.next a

/-- The states that a run leads to. -/
inductive Reachable (sinks : Nat) (start : State) : State → Prop
  /-- A run of no steps. -/
  | refl : Reachable sinks start start
  /-- One step more. -/
  | step {s s' : State} {a : Action} :
    Reachable sinks start s → Step sinks s a s' → Reachable sinks start s'

end State

end SyslogCollector.Fanout
