import SyslogCollector.Proofs.Framing.Arrival
import SyslogCollector.Proofs.Listener.Draining
/-!
# What a run of a listener shows

A trace is the list of the steps of a run. Everything a bystander can see is read off it: what
arrived on a connection, which frames and datagrams were taken in, what became of them, and what the
sink answered.
-/

namespace SyslogCollector.Listener

/-- The bytes of a frame, unless it is above the limit. -/
def ReadFrame.kept? : ReadFrame → Option (List UInt8)
  | (.message _, buffer) => some buffer
  | _ => none

/-- The message that some bytes are: there is none in a blank line, and none in what cannot be
parsed. -/
def messageOf? (mode : Syslog.Mode) (received : Instant) (bytes : List UInt8) : Option Message :=
  if trimLineEnd bytes = [] then none
  else (Syslog.parse (trimLineEnd bytes) mode received).toOption

/-- The message of a frame, if it is one. -/
def ReadFrame.message? (mode : Syslog.Mode) (received : Instant) (f : ReadFrame) : Option Message :=
  f.kept?.bind (messageOf? mode received)

/-- What a listener takes in at once. -/
inductive Intake where
  /-- A frame of a connection. -/
  | frame (id : Nat) (frame : ReadFrame) (received : Instant)
  /-- A datagram. -/
  | datagram (bytes : List UInt8) (received : Instant)

namespace Intake

/-- Where it comes from. -/
def source : Intake → Source
  | .frame id .. => .connection id
  | .datagram .. => .datagrams

/-- When it was received. -/
def received : Intake → Instant
  | .frame _ _ received | .datagram _ received => received

/-- Its bytes, unless they are above the limit. -/
def kept? (max : Nat) : Intake → Option (List UInt8)
  | .frame _ f _ => f.kept?
  | .datagram bytes _ => if bytes.length ≤ max then some bytes else none

/-- The message in it, if there is one. -/
def message? (o : Options) (i : Intake) : Option Message :=
  (i.kept? o.maxMessageSize).bind (messageOf? o.mode i.received)

/-- The message in it with its source, as it is handed over. -/
def handed? (o : Options) (i : Intake) : Option (Source × Message) :=
  (i.message? o).map (i.source, ·)

/-- Whether it is above the limit or not blank. -/
def matters (max : Nat) (i : Intake) : Bool :=
  match i.kept? max with
  | some bytes => !(trimLineEnd bytes).isEmpty
  | none => true

/-- The frame with its time, if it is one of a connection. -/
def frameOf? (id : Nat) : Intake → Option (ReadFrame × Instant)
  | .frame own f received => if own = id then some (f, received) else none
  | .datagram .. => none

end Intake

/-- The frame that the next step of the reader completes. -/
def Connection.frame? (max : Nat) (c : Connection) : Option ReadFrame :=
  match step max c.reader c.arrived with
  | .done r => if r.frame = .endOfStream then none else some r.shown
  | .more .. => none

namespace Action

/-- What arrives on a connection. -/
def arrived? (id : Nat) : Action → Option (List UInt8)
  | .arrive own piece => if own = id then some piece else none
  | _ => none

/-- What the sink answers to the message of a source. -/
def answer? (source : Source) : Action → Option Bool
  | .answer own taken => if own = source then some taken else none
  | _ => none

/-- Whether the sink refuses a message. -/
def isRefusal : Action → Bool
  | .answer _ taken => !taken
  | _ => false

/-- The connection that is given up before the end of its stream. -/
def interrupted? : Action → Option Nat
  | .expire id | .reset id | .fail id | .leave (.connection id) => some id
  | _ => none

end Action

/-- One step of a run: the listener before it, and what happens. -/
structure Transition where
  /-- The listener before the step. -/
  before : State
  /-- What happens. -/
  action : Action

/-- What is taken in by a step. -/
def Transition.intake? (x : Transition) : Option Intake :=
  match x.action with
  | .read id received =>
    ((x.before.connection? id).bind (·.frame? x.before.options.maxMessageSize)).map
      (.frame id · received)
  | .datagram bytes received => some (.datagram bytes received)
  | _ => none

/-- The message that is handed over by a step, with its source. -/
def Transition.handed? (x : Transition) : Option (Source × Message) :=
  x.intake?.bind (·.handed? x.before.options)

/-- The steps of a run, the oldest first. -/
abbrev Trace := List Transition

namespace Trace

variable (tr : Trace) (id : Nat) (source : Source) (x : Transition)

/-- What was taken in, in its order. -/
def intakes : List Intake := tr.filterMap Transition.intake?

/-- The frames of a connection with their times, in their order. -/
def frames : List (ReadFrame × Instant) := tr.intakes.filterMap (·.frameOf? id)

/-- What arrived on a connection, in the pieces in which it arrived. -/
def arrived : Pieces := tr.filterMap (·.action.arrived? id)

/-- What the sink answered to the messages of a source. -/
def answers : List Bool := tr.filterMap (·.action.answer? source)

/-- The connections that were given up before the end of their streams. -/
def interruptions : List Nat := tr.filterMap (·.action.interrupted?)

theorem intakes_concat : intakes (tr ++ [x]) = tr.intakes ++ x.intake?.toList := by
  cases hx : x.intake? <;> simp [intakes, hx]

theorem frames_concat :
    frames (tr ++ [x]) id = tr.frames id ++ (x.intake?.bind (·.frameOf? id)).toList := by
  rw [frames, intakes_concat, List.filterMap_append, frames]
  cases x.intake? with
  | none => rfl
  | some i => cases hi : i.frameOf? id <;> simp [hi]

theorem arrived_concat :
    arrived (tr ++ [x]) id = tr.arrived id ++ (x.action.arrived? id).toList := by
  cases hx : x.action.arrived? id <;> simp [arrived, hx]

theorem answers_concat :
    answers (tr ++ [x]) source = tr.answers source ++ (x.action.answer? source).toList := by
  cases hx : x.action.answer? source <;> simp [answers, hx]

theorem mem_interruptions_concat :
    id ∈ interruptions (tr ++ [x]) ↔
      id ∈ tr.interruptions ∨ x.action.interrupted? = some id := by
  cases hx : x.action.interrupted? <;> simp [interruptions, hx, eq_comm]

end Trace

/-- The messages that a source has handed over, in their order. -/
def State.handedBy (s : State) (source : Source) : List Message :=
  (s.handed.filter (·.1 = source)).map Prod.snd

/-- A run from a state with its trace. -/
inductive Run (n : Network) (start : State) : Trace → State → Prop
  /-- A run of no steps. -/
  | refl : Run n start [] start
  /-- One step more. -/
  | step {tr : Trace} {s s' : State} {a : Action} :
    Run n start tr s → s.Step n a s' → Run n start (tr ++ [⟨s, a⟩]) s'

namespace Run

variable {n : Network} {start : State} {tr : Trace} {s : State}

/-- Carries out a list of actions, if all of them are possible in their turn. -/
def play (n : Network) : List Action → Trace → State → Option (Trace × State)
  | [], tr, s => some (tr, s)
  | a :: rest, tr, s =>
    if s.enabled a then play n rest (tr ++ [⟨s, a⟩]) (s.next n a) else none

/-- What is carried out after a run is a run. -/
theorem of_play {actions : List Action} {tr' : Trace} {s' : State} (h : Run n start tr s)
    (hplay : play n actions tr s = some (tr', s')) : Run n start tr' s' := by
  induction actions generalizing tr s with
  | nil =>
    cases hplay
    exact h
  | cons a rest ih =>
    unfold play at hplay
    split at hplay
    · rename_i henabled
      exact ih (h.step ⟨henabled, rfl⟩) hplay
    · cases hplay

end Run

end SyslogCollector.Listener
