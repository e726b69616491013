import SyslogCollector.Message.Basic
/-!
# Points

A point is a message as a time-series store keeps it: filed under its application, tagged with
host, severity and facility, and placed in time.
-/

namespace SyslogCollector

/-- One stored message. -/
structure Point where
  /-- The application that wrote it. -/
  measurement : String
  /-- The host it comes from; empty if unknown. -/
  hostname : String
  /-- How severe it is. -/
  severity : Severity
  /-- Which part of the system it comes from. -/
  facility : Facility
  /-- The text. -/
  body : String
  /-- Its place in time. -/
  timestamp : Instant
  deriving DecidableEq, Repr, Inhabited

namespace Point

/-- The point of a message received at a given time. -/
def ofMessage (m : Message) (received : Instant) : Point :=
  { measurement := m.appName
    hostname := m.hostname
    severity := m.severity
    facility := m.facility
    body := m.body
    timestamp := m.storageTime received }

/-- The place in time in nanoseconds since the epoch, within 64 bits. -/
def nanos (p : Point) : Int :=
  p.timestamp.toNanos

end Point

/-- One row of an answer to a query. -/
structure Row where
  /-- Nanoseconds since the epoch. -/
  nanos : Int
  /-- The name of the severity. -/
  severity : String
  /-- The text. -/
  body : String
  deriving DecidableEq, Repr, Inhabited

/-- What a query shows of a point. -/
def Point.row (p : Point) : Row :=
  ⟨p.nanos, p.severity.name, p.body⟩

end SyslogCollector
