import SyslogCollector.Store.Backend
import SyslogCollector.Store.Influx.Answer
import SyslogCollector.Store.Influx.Request
/-!
# InfluxDB as a store

A store that sends every batch and every query over some transport. What the transport does with a
request is open, so a law about this store holds for every server and every network.
-/

namespace SyslogCollector.Store.Influx

/-- What becomes of a request. -/
inductive Exchange where
  /-- Nobody answered. -/
  | failed (reason : String)
  /-- It was answered with a status and a body. -/
  | answered (status : Nat) (body : Body)
  deriving Repr

/-- A way to send requests, over states of a type. -/
structure Transport (σ : Type) where
  /-- Sends a request and waits for the answer. -/
  send : σ → Request → Exchange × σ

/-- A transport that gets nothing through. -/
def Transport.unreachable (reason : String) : Transport σ where
  send s _ := (.failed reason, s)

/-- Whether a status is a success. -/
def isSuccess (status : Nat) : Bool := 200 ≤ status && status < 300

/-- The text for a transport that gets nothing through. -/
def unreachableText (reason : String) : String := "InfluxDB connection failed: " ++ reason

/-- The name of the store. -/
def name : String := "influxdb"

variable {σ : Type}

/-- Hands over a batch. An empty one is not worth a request. -/
def submit (o : Options) (t : Transport σ) (s : σ) (batch : List Point) : Answer × σ :=
  if batch.isEmpty then (.taken, s)
  else match t.send s (writeRequest o batch) with
    | (.failed reason, s) => (.refused (.connection (unreachableText reason)), s)
    | (.answered status body, s) =>
      (if isSuccess status then .taken else .refused (.backend status body.text), s)

/-- Sends a statement and reads the answer. -/
def ask (o : Options) (t : Transport σ) (s : σ) (statement : String) :
    Except QueryError (List (Except QueryError Rows)) × σ :=
  match t.send s (queryRequest o statement) with
  | (.failed reason, s) => (.error (.connection (unreachableText reason)), s)
  | (.answered status body, s) =>
    (if isSuccess status then .ok body.results else .error (.backend status body.text), s)

/-- The applications in the documents of an answer, up to the first failure. -/
def namesIn : List (Except QueryError Rows) → Except QueryError (List String)
  | [] => .ok []
  | .error e :: _ => .error e
  | .ok rows :: rest => (namesIn rest).map (namesOf rows ++ ·)

/-- InfluxDB as a store. -/
def backend (o : Options) (t : Transport σ) : Backend σ where
  name := name
  submit := submit o t
  query s q :=
    let (answer, s) := ask o t s q.statement
    (answer.map fun results => results.map fun r => r.map fun rows => rows.map rowOf, s)
  measurements s :=
    let (answer, s) := ask o t s listStatement
    (answer.bind namesIn, s)

end SyslogCollector.Store.Influx
