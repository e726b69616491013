/-!
# Why a listener does not listen
-/

namespace SyslogCollector.Listener

/-- The two transports of syslog. -/
inductive Transport where
  | tcp | udp
  deriving DecidableEq, Repr

/-- The name, in lower case. -/
def Transport.name : Transport → String
  | .tcp => "tcp"
  | .udp => "udp"

/-- The reasons for which a listener does not start, or not on all its endpoints. -/
inductive ListenerError where
  /-- The address of an endpoint cannot be used. -/
  | bind (transport : Transport) (address : String) (reason : String)
  /-- Neither transport has an address. -/
  | noEndpoints
  /-- It was started before. -/
  | alreadyStarted
  deriving DecidableEq, Repr

/-- The text shown to people. -/
def ListenerError.message : ListenerError → String
  | .bind transport address reason =>
    "failed to bind syslog " ++ transport.name ++ " listener to " ++ address ++ ": " ++ reason
  | .noEndpoints => "no syslog listeners configured"
  | .alreadyStarted => "syslog server already started"

end SyslogCollector.Listener
