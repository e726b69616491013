import SyslogCollector.Hub.Error
import SyslogCollector.Listener.Error
import SyslogCollector.Settings.Error
import SyslogCollector.Store.Error
/-!
# Why the collector gives up

A failure is reported as what could not be done, followed by its causes, each the cause of the one
before it.
-/

namespace SyslogCollector.Collector

open Settings (SettingsError)

/-- The reasons for which the collector ends without having done what it was asked for. -/
inductive CollectorError where
  /-- The configuration file that was named is not there. -/
  | configMissing (path : String)
  /-- The configuration cannot be used; the path is there if it was named. -/
  | configRefused (path : Option String) (error : SettingsError)
  /-- The file for the collector's own log cannot be opened. -/
  | logFile (path : String) (reason : String)
  /-- The live tail cannot listen. -/
  | tail (error : Hub.HubError)
  /-- A sink does not start. -/
  | sinks (error : SinkError)
  /-- The listener does not start. -/
  | listenerStart (error : Listener.ListenerError)
  /-- The listener cannot listen on one of its addresses. -/
  | listener (error : Listener.ListenerError)
  /-- The messages of an application cannot be read. -/
  | query (appName : String) (error : QueryError)
  /-- The applications cannot be listed. -/
  | list (error : QueryError)
  deriving DecidableEq, Repr

/-- The causes in an unusable configuration. What is wrong with a text that is no configuration at
all is not told. -/
def settingsCauses : SettingsError → List String
  | .malformed => []
  | .unreadable path reason => [(SettingsError.unreadable path reason).message, reason]
  | error => [error.message]

/-- The causes in a listener. -/
def listenerCauses : Listener.ListenerError → List String
  | .bind transport address reason =>
    [(Listener.ListenerError.bind transport address reason).message, reason]
  | error => [error.message]

/-- The causes in the live tail. -/
def tailCauses : Hub.HubError → List String
  | .bind address reason => [(Hub.HubError.bind address reason).message, reason]
  | error => [error.message]

namespace CollectorError

/-- What could not be done. -/
def headline : CollectorError → String
  | .configMissing path => "config file not found: " ++ path
  | .configRefused (some path) _ => "failed to load configuration from " ++ path
  | .configRefused none _ => "failed to load configuration"
  | .logFile path _ => "failed to open log file " ++ path
  | .tail _ => "failed to start tail server"
  | .sinks _ => "failed to start sinks"
  | .listenerStart _ => "failed to start syslog listener"
  | .listener _ => "syslog listener failed"
  | .query appName _ => "query for '" ++ appName ++ "' failed"
  | .list _ => "failed to list applications"

/-- The causes, each the cause of the one before it. -/
def causes : CollectorError → List String
  | .configMissing _ => []
  | .configRefused _ error => settingsCauses error
  | .logFile _ reason => [reason]
  | .tail error => tailCauses error
  | .sinks error => [error.message]
  | .listenerStart error | .listener error => listenerCauses error
  | .query _ error | .list error => [error.message]

/-- The report, line by line. -/
def report (e : CollectorError) : List String :=
  ("Error: " ++ e.headline) :: e.causes

/-- A cause below a report, indented. If there are several, it has a number in front. -/
def causeText (number : Option Nat) (cause : String) : String :=
  let (first, others) := match number with
    | some n =>
      let digits := toString n
      ("".pushn ' ' (5 - digits.length) ++ digits ++ ": ", "".pushn ' ' 7)
    | none => ("".pushn ' ' 4, "".pushn ' ' 4)
  first ++ String.intercalate ("\n" ++ others) (cause.splitOn "\n")

/-- The report as it is printed. -/
def reportText (e : CollectorError) : String :=
  let isNumbered := 1 < e.causes.length
  let causes := e.causes.zipIdx.map fun (cause, n) =>
    "\n" ++ causeText (if isNumbered then some n else none) cause
  "Error: " ++ e.headline ++
    (if e.causes.isEmpty then "" else "\n\nCaused by:" ++ String.join causes)

end CollectorError

end SyslogCollector.Collector
