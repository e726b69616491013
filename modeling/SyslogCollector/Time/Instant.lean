import SyslogCollector.Time.Calendar
import SyslogCollector.Text.Decimal
/-!
# Instants

Points in time, UTC, with nanoseconds. A leap second is the second 59 with a nanosecond count of
10⁹ or more.
-/

namespace SyslogCollector

/-- A point in time: seconds since 1970-01-01T00:00:00Z and nanoseconds counted forward from that
second. -/
structure Instant where
  /-- Whole seconds since the epoch; negative before it. -/
  seconds : Int
  /-- Nanoseconds within the second; 10⁹ and more within a leap second. -/
  nanos : Nat
  deriving DecidableEq, Repr, Inhabited

namespace Instant

/-- Nanoseconds in a second. -/
def nanosPerSecond : Nat := 1000000000

/-- Chronological order: seconds first, then nanoseconds. -/
def before (a b : Instant) : Bool :=
  a.seconds < b.seconds || (a.seconds == b.seconds && a.nanos < b.nanos)

/-- Chronological order, not strict. -/
def notAfter (a b : Instant) : Bool :=
  !before b a

/-- The first second that an instant may lie in. -/
def firstSecond : Int := Date.toDays ⟨Date.firstYear, 1, 1⟩ * 86400

/-- The last second that an instant may lie in. -/
def lastSecond : Int := Date.toDays ⟨Date.lastYear, 12, 31⟩ * 86400 + 86399

/-- A clock reading on a calendar day. -/
structure ClockTime where
  /-- The calendar day. -/
  date : Date
  /-- Hour, 0 to 23. -/
  hour : Nat
  /-- Minute, 0 to 59. -/
  minute : Nat
  /-- Second, 0 to 60; 60 is a leap second. -/
  second : Nat
  /-- Nanoseconds within the second, below 10⁹. -/
  nanos : Nat
  deriving DecidableEq, Repr

/-- The instant of a clock reading taken `offset` seconds east of UTC, if the reading is on the
clock and the calendar and the instant lies within the years that instants may lie in. -/
def ofClock? (t : ClockTime) (offset : Int) : Option Instant :=
  let seconds := t.date.toDays * 86400 + t.hour * 3600 + t.minute * 60 + min t.second 59
  if t.date.isValid && Date.firstYear ≤ t.date.year && t.date.year ≤ Date.lastYear &&
      t.hour < 24 && t.minute < 60 && t.second ≤ 60 &&
      firstSecond ≤ seconds - offset && seconds - offset ≤ lastSecond then
    some ⟨seconds - offset, t.nanos + if t.second = 60 then nanosPerSecond else 0⟩
  else none

/-- The clock reading of an instant, in UTC. -/
def toClock (t : Instant) : ClockTime :=
  let ofDay := (t.seconds % 86400).toNat
  { date := Date.ofDays (t.seconds / 86400)
    hour := ofDay / 3600
    minute := ofDay / 60 % 60
    second := ofDay % 60 + if t.nanos < nanosPerSecond then 0 else 1
    nanos := t.nanos % nanosPerSecond }

/-- The least nanosecond count that fits 64 bits. -/
def leastNanos : Int := -9223372036854775808

/-- The greatest nanosecond count that fits 64 bits. -/
def greatestNanos : Int := 9223372036854775807

/-- Nanoseconds since the epoch, if they fit 64 bits. Before the epoch the whole seconds are
counted toward it first, so an instant more than a second below the least count has none even
where the nanoseconds of a leap second would bring it back. -/
def nanos? (t : Instant) : Option Int :=
  let count := t.seconds * nanosPerSecond + t.nanos
  let whole := (if t.seconds < 0 then t.seconds + 1 else t.seconds) * nanosPerSecond
  if leastNanos ≤ whole ∧ whole ≤ greatestNanos ∧ leastNanos ≤ count ∧ count ≤ greatestNanos then
    some count
  else none

/-- Nanoseconds since the epoch, held at the least or the greatest count where they do not fit. -/
def toNanos (t : Instant) : Int :=
  match t.nanos? with
  | some n => n
  | none => if t.seconds < 0 then leastNanos else greatestNanos

end Instant

end SyslogCollector
