import SyslogCollector.Listener.Frame
import SyslogCollector.Listener.Metrics
import SyslogCollector.Syslog.Mode
/-!
# What becomes of a frame

A frame or a datagram is too long, blank, no message, or a message for the sink. What is not too
long comes to the same in both transports, but the limit differs: a frame is limited without the
line feed or the length that marks its end, a datagram with all its bytes, a line end among them.
-/

namespace SyslogCollector.Listener

/-- What becomes of a frame or a datagram. -/
inductive Fate where
  /-- It is above the limit and gone. -/
  | oversized
  /-- There is nothing in it. -/
  | blank
  /-- It is no message. -/
  | malformed (error : Syslog.ParseError)
  /-- It is a message for the sink. -/
  | message (m : Message)
  deriving Repr

namespace Fate

/-- What becomes of the bytes of a frame that is not too long. -/
def ofBytes (mode : Syslog.Mode) (received : Instant) (bytes : List UInt8) : Fate :=
  let body := trimLineEnd bytes
  if body.isEmpty then .blank
  else match Syslog.parse body mode received with
    | .ok m => .message m
    | .error error => .malformed error

/-- What a fate counts for, before the sink has answered. -/
def events : Fate → List Event
  | .oversized => [.oversized]
  | .blank => []
  | .malformed _ => [.malformed]
  | .message _ => [.parsed]

/-- The message for the sink, if there is one. -/
def message? : Fate → Option Message
  | .message m => some m
  | _ => none

end Fate

/-- What a complete frame counts for when it is read, and its fate. The end of a stream is no
frame. -/
def Reading.fate? (mode : Syslog.Mode) (received : Instant) (r : Reading) :
    Option (List Event × Fate) :=
  match r.frame with
  | .message size => some ([.received size], .ofBytes mode received r.buffer)
  | .tooLong => some ([], .oversized)
  | .endOfStream => none

/-- What a datagram counts for when it is taken, and its fate. Only one byte beyond the limit is
taken, enough to see that the datagram is too long. A line end counts against the limit. -/
def datagramFate (max : Nat) (mode : Syslog.Mode) (received : Instant) (bytes : List UInt8) :
    List Event × Fate :=
  let taken := bytes.take (max + 1)
  ([.received taken.length],
    if max < taken.length then .oversized else .ofBytes mode received taken)

end SyslogCollector.Listener
