/-!
# Why a configuration is refused
-/

namespace SyslogCollector.Settings

/-- The reasons for which a configuration is refused. -/
inductive SettingsError where
  /-- The file cannot be read. -/
  | unreadable (path : String) (reason : String)
  /-- The text is no TOML document, or a value in it has a wrong type or an unknown name. -/
  | malformed
  /-- Two listeners would share an address. -/
  | duplicateAddress (address : String) (first second : String)
  /-- A field that is needed has no value. -/
  | missingField (place : String) (field : String)
  /-- The value of a field makes no sense. -/
  | invalidValue (place : String) (field : String) (complaint : String)
  /-- Nothing would listen for syslog messages. -/
  | noListeners
  deriving DecidableEq, Repr

/-- The text shown to people. -/
def SettingsError.message : SettingsError → String
  | .unreadable path reason => "failed to read config file '" ++ path ++ "': " ++ reason
  | .malformed => "failed to parse config"
  | .duplicateAddress address first second =>
    "address " ++ address ++ " is used by both " ++ first ++ " and " ++ second
  | .missingField place field => place ++ " is missing required field '" ++ field ++ "'"
  | .invalidValue place field complaint =>
    place ++ " has invalid " ++ field ++ ": " ++ complaint
  | .noListeners => "no syslog listeners are enabled - enable syslog.tcp or syslog.udp"

end SyslogCollector.Settings
