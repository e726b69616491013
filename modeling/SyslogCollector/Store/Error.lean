import SyslogCollector.Time.Duration
/-!
# Why a sink or a store refuses
-/

namespace SyslogCollector

/-- The reasons for which a sink does not take a message or does not start. -/
inductive SinkError where
  /-- The sink could not be set up. -/
  | init (text : String)
  /-- The output refused the data. -/
  | write (text : String)
  /-- The message names no application, so there is nothing to store it under. -/
  | missingAppName
  /-- A forced flush was not acknowledged in time. -/
  | flushTimeout (after : Duration)
  /-- The store cannot be reached. -/
  | connection (text : String)
  /-- The store answered with a status that is no success. -/
  | backend (status : Nat) (body : String)
  /-- The settings make no sense. -/
  | config (text : String)
  /-- The system refused input or output. -/
  | io (text : String)
  /-- The background task of the named sink was started before. -/
  | alreadyStarted (name : String)
  /-- The other end of a queue is gone. -/
  | channelClosed
  deriving DecidableEq, Repr

/-- The text shown to people. -/
def SinkError.message : SinkError → String
  | .init text => "failed to initialize sink: " ++ text
  | .write text => "write failed: " ++ text
  | .missingAppName => "missing application name"
  | .flushTimeout after => "timed out flushing logs after " ++ after.render
  | .connection text => "connection error: " ++ text
  | .backend status body => "backend returned " ++ toString status ++ ": " ++ body
  | .config text => "configuration error: " ++ text
  | .io text => "I/O error: " ++ text
  | .alreadyStarted name => "sink " ++ name ++ " already started"
  | .channelClosed => "channel closed"

/-- The reasons for which stored messages cannot be read. -/
inductive QueryError where
  /-- The query names no application. -/
  | missingAppName
  /-- The store cannot be reached. -/
  | connection (text : String)
  /-- The store answered with a status that is no success. -/
  | backend (status : Nat) (body : String)
  /-- The store took the query and reports that it failed. -/
  | execution (text : String)
  /-- The answer of the store cannot be understood. -/
  | decode (text : String)
  deriving DecidableEq, Repr

/-- The text shown to people. -/
def QueryError.message : QueryError → String
  | .missingAppName => "missing application name"
  | .connection text => "connection error: " ++ text
  | .backend status body => "backend returned " ++ toString status ++ ": " ++ body
  | .execution text => "query failed: " ++ text
  | .decode text => "decoding results: " ++ text

end SyslogCollector
