import SyslogCollector.Counter
/-!
# What a listener counts

One set of counters is shared by all endpoints of a server.
-/

namespace SyslogCollector.Listener

/-- The counters of a server. -/
structure Metrics where
  /-- Connections that are open. -/
  connectionsActive : Int := 0
  /-- Connections that were ever opened. -/
  connectionsTotal : Nat := 0
  /-- Frames and datagrams read. -/
  framesReceived : Nat := 0
  /-- Bytes of these frames and datagrams. -/
  bytesReceived : Nat := 0
  /-- Frames that were messages and went to the sink. -/
  parsed : Nat := 0
  /-- Frames that were no messages. -/
  malformed : Nat := 0
  /-- Frames above the size limit. -/
  oversized : Nat := 0
  /-- Messages that the sink refused. -/
  sinkErrors : Nat := 0
  /-- Failures of sockets. -/
  errors : Nat := 0
  deriving DecidableEq, Repr, Inhabited

/-- Something that a server counts. -/
inductive Event where
  /-- A connection was opened. -/
  | opened
  /-- A connection was closed. -/
  | closed
  /-- A frame of so many bytes was read. -/
  | received (bytes : Nat)
  /-- A frame was a message. -/
  | parsed
  /-- A frame was no message. -/
  | malformed
  /-- A frame was above the size limit. -/
  | oversized
  /-- The sink refused a message. -/
  | sinkError
  /-- A socket failed. -/
  | error
  deriving DecidableEq, Repr

namespace Metrics

/-- Counts an event. -/
def count (m : Metrics) : Event → Metrics
  | .opened =>
    { m with
      connectionsActive := m.connectionsActive + 1
      connectionsTotal := m.connectionsTotal + 1 }
  | .closed => { m with connectionsActive := m.connectionsActive - 1 }
  | .received bytes =>
    { m with framesReceived := m.framesReceived + 1, bytesReceived := m.bytesReceived + bytes }
  | .parsed => { m with parsed := m.parsed + 1 }
  | .malformed => { m with malformed := m.malformed + 1 }
  | .oversized => { m with oversized := m.oversized + 1 }
  | .sinkError => { m with sinkErrors := m.sinkErrors + 1 }
  | .error => { m with errors := m.errors + 1 }

/-- Counts events in order. -/
def countAll (m : Metrics) (events : List Event) : Metrics :=
  events.foldl count m

/-- The counters as they are shown, with their names. -/
def shown (m : Metrics) : List (String × Nat) :=
  [("connections_active", shownCount m.connectionsActive),
    ("connections_total", shownCount m.connectionsTotal),
    ("frames_received", shownCount m.framesReceived),
    ("bytes_received", shownCount m.bytesReceived),
    ("messages_parsed", shownCount m.parsed),
    ("messages_malformed", shownCount m.malformed),
    ("messages_oversized", shownCount m.oversized),
    ("sink_errors", shownCount m.sinkErrors),
    ("errors", shownCount m.errors)]

end Metrics

end SyslogCollector.Listener
