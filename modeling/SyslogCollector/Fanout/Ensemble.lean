import SyslogCollector.Console
import SyslogCollector.Hub.Session
import SyslogCollector.Sink
import SyslogCollector.Store.Writer.Session
/-!
# Sinks that play together

An ensemble is a list of sinks of any kind that share one clock: writers over stores, hubs,
consoles, and recorders, which note every call in a common log and refuse the calls of a plan.
-/

namespace SyslogCollector.Fanout

variable {τ : Type}

/-- A sink that notes its calls. -/
structure Recorder where
  /-- The name of the sink. -/
  name : String
  /-- The calls that it refuses: by their names, or a write by its name and its message. -/
  refuses : List String := []
  deriving Repr

/-- One sink of an ensemble. -/
inductive Member (τ : Type) where
  /-- It notes its calls. -/
  | recorder (r : Recorder)
  /-- It takes everything and does nothing. -/
  | bare (name : String)
  | console (s : Console.State)
  | store (s : Store.Writer.Session τ)
  | hub (s : Hub.Session)

/-- Some sinks with one clock. -/
structure Ensemble (τ : Type) where
  /-- The sinks. -/
  members : List (Member τ)
  /-- What the recorders noted. -/
  log : List String := []
  /-- The time. -/
  now : Store.Writer.Moment := 0
  /-- When the call that is made now has to be at its end. -/
  limit : Store.Writer.Moment := 0

namespace Ensemble

/-- The name of a sink. -/
def nameOf : Member τ → String
  | .recorder r => r.name
  | .bare name => name
  | .console _ => Console.name
  | .store s => s.backend.name
  | .hub _ => Hub.Session.name

/-- Replaces a sink. -/
def put (e : Ensemble τ) (i : Nat) (m : Member τ) : Ensemble τ :=
  { e with members := e.members.set i m }

/-- Begins a call: it has to be at its end in time. -/
def begin (e : Ensemble τ) : Ensemble τ :=
  { e with limit := e.now + Store.Writer.Session.patience }

/-- Lets the clock of every sink catch up. -/
def settle (e : Ensemble τ) : Ensemble τ :=
  { e with
    members := e.members.map fun
      | .store s => .store (s.follow e.now).settle
      | m => m }

/-- The time is up. -/
def exhaust (e : Ensemble τ) : Ensemble τ := { e with now := max e.now e.limit }

/-- A recorder notes a call. A write is noted, and may be refused, with its message. -/
def note (e : Ensemble τ) (r : Recorder) (call : String) (message : Option String) :
    Option (Except SinkError Unit) × Ensemble τ :=
  let entry := match message with
    | some text => call ++ "=" ++ text
    | none => call
  let result : Except SinkError Unit :=
    if call ∈ r.refuses ∨ entry ∈ r.refuses then
      .error (.write (r.name ++ " " ++ call ++ " refused"))
    else .ok ()
  (some result, { e with log := e.log ++ [r.name ++ ":" ++ entry] })

/-- Makes a call on a store. -/
def callStore (e : Ensemble τ) (i : Nat) (s : Store.Writer.Session τ)
    (c : Store.Writer.Call) : Option Store.Writer.Outcome × Ensemble τ :=
  let (outcome, s) := (s.follow e.now).callBy e.limit c
  (outcome, { e.put i (.store s) with now := max e.now s.state.now })

/-- The result of a call on a store. -/
def storeResult : Option Store.Writer.Outcome → Option (Except SinkError Unit)
  | some (.done result) => some result
  | some _ => some (.ok ())
  | none => none

/-- Makes a call on a hub. -/
def callHub (e : Ensemble τ) (i : Nat) (s : Hub.Session) (c : Hub.Call) :
    Option (Except SinkError Unit) × Ensemble τ :=
  match s.call c with
  | (some _, s) => (some (.ok ()), e.put i (.hub s))
  | (none, s) => (none, (e.put i (.hub s)).exhaust)

/-- Writes a message to a sink. -/
def write (i : Nat) (received : Instant) (m : Message) (e : Ensemble τ) :
    Option (Except SinkError Unit) × Ensemble τ :=
  match e.members[i]? with
  | some (.recorder r) => e.note r "write" (some m.body)
  | some (.console s) =>
    let (result, s) := s.write m
    (some result, e.put i (.console s))
  | some (.store s) =>
    let (outcome, e) := e.callStore i s (.write m received)
    (storeResult outcome, e)
  | some (.hub s) => (some (.ok ()), e.put i (.hub (s.write [m])))
  | _ => (some (.ok ()), e)

/-- Starts a sink. -/
def start (i : Nat) (e : Ensemble τ) : Option (Except SinkError Unit) × Ensemble τ :=
  match e.members[i]? with
  | some (.recorder r) => e.note r "start" none
  | some (.store s) =>
    let (result, s) := (s.follow e.now).start
    (some result, e.put i (.store s))
  | some (.hub s) =>
    let (result, s) := s.start
    (some result, e.put i (.hub s))
  | _ => (some (.ok ()), e)

/-- Stops a sink and waits for its end. -/
def stop (i : Nat) (e : Ensemble τ) : Option (Except SinkError Unit) × Ensemble τ :=
  match e.members[i]? with
  | some (.recorder r) => e.note r "stop" none
  | some (.store s) =>
    let (outcome, e) := e.callStore i s.cancel .wait
    (storeResult outcome, e)
  | some (.hub s) => e.callHub i s.cancel .wait
  | _ => (some (.ok ()), e)

/-- Waits for the end of a sink. -/
def wait (i : Nat) (e : Ensemble τ) : Option (Except SinkError Unit) × Ensemble τ :=
  match e.members[i]? with
  | some (.recorder r) =>
    let (_, e) := e.note r "wait" none
    (some (.ok ()), e)
  | some (.store s) =>
    let (outcome, e) := e.callStore i s .wait
    (storeResult outcome, e)
  | some (.hub s) => e.callHub i s .wait
  | _ => (some (.ok ()), e)

/-- Asks all background work to stop. -/
def cancel (e : Ensemble τ) : Ensemble τ :=
  { e with
    members := e.members.map fun
      | .store s => .store s.cancel
      | .hub s => .hub s.cancel
      | m => m }

/-- The sinks of an ensemble, for messages received at this time. -/
def sinks (e : Ensemble τ) (received : Instant) : List (Sink (Ensemble τ)) :=
  e.members.zipIdx.map fun (m, i) =>
    { name := nameOf m
      write := write i received
      start := start i
      stop := stop i
      wait := wait i }

/-- Takes what the recorders noted. -/
def takeLog (e : Ensemble τ) : List String × Ensemble τ :=
  (e.log, { e with log := [] })

/-- The consoles, each with its place among the sinks. -/
def consoles (e : Ensemble τ) : List (Nat × Console.State) :=
  e.members.zipIdx.filterMap fun (m, i) => match m with
    | .console s => some (i, s)
    | _ => none

/-- The stores, each with its place among the sinks. -/
def stores (e : Ensemble τ) : List (Nat × Store.Writer.Session τ) :=
  e.members.zipIdx.filterMap fun (m, i) => match m with
    | .store s => some (i, s)
    | _ => none

/-- The hubs, each with its place among the sinks. -/
def hubs (e : Ensemble τ) : List (Nat × Hub.Session) :=
  e.members.zipIdx.filterMap fun (m, i) => match m with
    | .hub s => some (i, s)
    | _ => none

end Ensemble

end SyslogCollector.Fanout
