import SyslogCollector.Hub.Step
import SyslogCollector.Store.Error
/-!
# The hub: sessions

A session makes one call after the other. The dispatch task works while a call waits and between
two calls, as long as there is something to do. A call that nobody can bring to an end is
abandoned.
-/

namespace SyslogCollector.Hub

/-- A hub that is used by one call after the other. -/
structure Session where
  /-- The hub. -/
  state : State := {}
  /-- How many calls were made; the next one has this number. -/
  calls : Nat := 0
  /-- The subscribers, in the order in which they subscribed. -/
  subscriptions : List Nat := []
  deriving Repr

namespace Session

/-- The name of the sink. -/
def name : String := "hub"

/-- What the dispatch task does next, if it can do anything. -/
def taskAction? (s : State) : Option Action :=
  [.leave, .handle, .conclude].find? s.enabled

/-- How many steps the dispatch task can take with nobody else there. -/
def stepsLeft (s : State) : Nat := s.mailbox.length + 3

/-- Lets the dispatch task work until it has nothing more to do. -/
def settleState : Nat → State → State
  | 0, s => s
  | fuel + 1, s =>
    match taskAction? s with
    | none => s
    | some a => settleState fuel (s.next a)

/-- Lets the dispatch task work until it has nothing more to do. -/
def settle (s : Session) : Session :=
  { s with state := settleState (stepsLeft s.state) s.state }

/-- Goes on until a call comes to an end or is abandoned. -/
def runCall (id : Nat) : Nat → State → Option Outcome × State
  | 0, s => (none, s.abandon id)
  | fuel + 1, s =>
    match s.phase? id with
    | some (.returned outcome) => (some outcome, s.abandon id)
    | _ =>
      if s.enabled (.proceed id) then runCall id fuel (s.next (.proceed id))
      else match taskAction? s with
        | some a => runCall id fuel (s.next a)
        | none => (none, s.abandon id)

/-- Makes a call and waits for its end. There is no outcome if it had to be abandoned. -/
def call (s : Session) (c : Call) : Option Outcome × Session :=
  let id := s.calls
  let (outcome, state) := runCall id (stepsLeft s.state + 7) (s.state.next (.call id c))
  (outcome, { s with state, calls := id + 1 }.settle)

/-- The number of the subscriber that subscribed after so many others. -/
def subscriber? (s : Session) (index : Nat) : Option Nat := s.subscriptions[index]?

/-- Subscribes, with room for so many messages or as many as is usual. -/
def subscribe (s : Session) (capacity : Option Nat) : Option Outcome × Session :=
  match s.call (.subscribe (capacity.getD s.state.limits.subscriberBuffer)) with
  | (some .done, s') => (some .done, { s' with subscriptions := s'.subscriptions ++ [s.calls] })
  | result => result

/-- Removes the subscriber that subscribed after so many others. One that nobody knows is sought
under the number of this call, which belongs to no subscriber. -/
def unsubscribe (s : Session) (index : Nat) : Option Outcome × Session :=
  s.call (.unsubscribe ((s.subscriber? index).getD s.calls))

/-- Writes messages, one right after the other. -/
def write (s : Session) (messages : List Message) : Session :=
  { s with state := messages.foldl (fun s m => s.next (.write m)) s.state }.settle

/-- The client of a subscriber takes a message. -/
def receive (s : Session) (index : Nat) : Receipt × Session :=
  match (s.subscriber? index).bind fun id => (s.state.subscriber? id).map (id, ·) with
  | some (id, q) => (q.receive.1, { s with state := s.state.next (.receive id) })
  | none => (.gone, s)

/-- The client of a subscriber gives up its end. -/
def drop (s : Session) (index : Nat) : Session :=
  match s.subscriber? index with
  | some id => { s with state := s.state.next (.drop id) }
  | none => s

/-- Starts the dispatch task. -/
def start (s : Session) : Except SinkError Unit × Session :=
  if s.state.enabled .start then (.ok (), { s with state := s.state.next .start }.settle)
  else (.error (.alreadyStarted name), s)

/-- Asks the dispatch task to stop, without waiting for its end. -/
def cancel (s : Session) : Session :=
  { s with state := s.state.next .stop }.settle

end Session

end SyslogCollector.Hub
