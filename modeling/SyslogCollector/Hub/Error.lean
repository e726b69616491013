/-!
# Why the hub or the live tail refuses
-/

namespace SyslogCollector.Hub

/-- The reasons for which the hub or the live tail does not do what it is asked. -/
inductive HubError where
  /-- A socket failed. -/
  | io (text : String)
  /-- The address of the live tail cannot be used. -/
  | bind (address : String) (reason : String)
  /-- As many subscribers as are allowed are there. -/
  | maxSubscribers (limit : Nat)
  /-- The hub was stopped. -/
  | stopped
  deriving DecidableEq, Repr

/-- The text shown to people. -/
def HubError.message : HubError → String
  | .io text => "I/O error: " ++ text
  | .bind address reason => "failed to bind tail server to " ++ address ++ ": " ++ reason
  | .maxSubscribers limit => "maximum subscribers reached (" ++ toString limit ++ ")"
  | .stopped => "broadcast hub not running"

end SyslogCollector.Hub
