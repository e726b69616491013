import SyslogCollector.Proofs.Writer.Flow
/-!
# What a run of a writer has done

A store that keeps a journal sees every batch that is handed to it. A ledger keeps what the
producers have done, read off the actions alone: which writes passed the name check, which of them
took the buffer and in what order, and who has counted its point. It also keeps which calls to the
store have returned.

`Run` is reachability with the ledger of the run, `play` carries out a list of actions.
-/

namespace SyslogCollector.Store

/-- A call to a store: the batch that was handed over and what becomes of it. -/
structure Submission where
  /-- The points of the batch. -/
  batch : List Point
  /-- What becomes of it. -/
  answer : Answer
  deriving Repr

/-- Whether the store refused the batch. -/
def Submission.failed (c : Submission) : Bool :=
  c.answer matches .refused _

/-- The calls to a store, in their order. -/
abbrev Journal := List Submission

/-- The store with a journal of the batches that are handed to it. -/
def Backend.journaled (B : Backend σ) : Backend (σ × Journal) where
  name := B.name
  submit s batch :=
    let (answer, store) := B.submit s.1 batch
    (answer, (store, s.2 ++ [⟨batch, answer⟩]))
  query s q :=
    let (result, store) := B.query s.1 q
    (result, (store, s.2))
  measurements s :=
    let (names, store) := B.measurements s.1
    (names, (store, s.2))

/-- All points that were handed to the store, in their order. -/
def Journal.points (j : Journal) : List Point :=
  (j.map Submission.batch).flatten

namespace Writer

/-- What a run has done so far. A write that passes the name check has a place: how many passed it
before. -/
structure Ledger where
  /-- The writes that passed the name check, in the order of their calls. -/
  accepted : List (Message × Instant) := []
  /-- The callers that wait for the buffer to put their points into it, and the places of their
  writes. -/
  waiting : List (Nat × Nat) := []
  /-- The places of the writes that took the buffer, in the order in which they took it. -/
  taken : List Nat := []
  /-- The places of the writes whose callers went away before they took the buffer. -/
  withdrawn : List Nat := []
  /-- The callers that put their points into the buffer and have not counted them yet. -/
  uncounted : List Nat := []
  /-- How many points were counted. -/
  counted : Nat := 0
  /-- The calls to the store that have returned, in their order. -/
  returned : Journal := []
  deriving Repr

namespace Ledger

/-- The point of the write at a place. -/
def point? (l : Ledger) (place : Nat) : Option Point :=
  l.accepted[place]?.map fun (m, received) => Point.ofMessage m received

/-- The next step of a caller: one that waits takes the buffer, one that took it counts. -/
def proceed (l : Ledger) (id : Nat) : Ledger :=
  match l.waiting.lookup id with
  | some place =>
    { l with
      waiting := Numbered.erase id l.waiting
      taken := l.taken ++ [place]
      uncounted := id :: l.uncounted }
  | none =>
    if id ∈ l.uncounted then
      { l with uncounted := l.uncounted.filter (· != id), counted := l.counted + 1 }
    else l

/-- A caller goes away. -/
def abandon (l : Ledger) (id : Nat) : Ledger :=
  { l with
    waiting := Numbered.erase id l.waiting
    withdrawn := l.withdrawn ++ (l.waiting.lookup id).toList
    uncounted := l.uncounted.filter (· != id) }

/-- What an action adds to what the producers have done. -/
def follow (l : Ledger) : Action → Ledger
  | .call id (.write m received) =>
    if m.hasAppName then
      { l with
        accepted := l.accepted ++ [(m, received)]
        waiting := (id, l.accepted.length) :: l.waiting }
    else l
  | .proceed id => l.proceed id
  | .abandon id => l.abandon id
  | _ => l

end Ledger

/-- The party that goes on by an action. -/
def Action.party? : Action → Option Party
  | .proceed id => some (.caller id)
  | .work => some .task
  | _ => none

namespace State

variable {σ : Type}

/-- The call to the store that returns in a step: the one under way, if its party goes on. -/
def returned? (s : State σ) (a : Action) : Option Submission :=
  match s.flight with
  | some f => if a.party? = some f.holder then some ⟨f.batch, f.answer⟩ else none
  | none => none

end State

/-- The ledger after one more action, taken in a state. -/
def Ledger.record {σ : Type} (l : Ledger) (s : State σ) (a : Action) : Ledger :=
  { l.follow a with returned := l.returned ++ (s.returned? a).toList }

section

variable {σ : Type} (l : Ledger) (s : State σ) (a : Action)

@[simp]
theorem Ledger.returned_record :
    (l.record s a).returned = l.returned ++ (s.returned? a).toList := rfl

@[simp]
theorem Ledger.taken_record : (l.record s a).taken = (l.follow a).taken := rfl

@[simp]
theorem Ledger.counted_record : (l.record s a).counted = (l.follow a).counted := rfl

@[simp]
theorem Ledger.point?_record : (l.record s a).point? = (l.follow a).point? := rfl

end

/-- A run from a state, with its ledger. -/
inductive Run {σ : Type} (B : Backend σ) (t : Tuning) (start : State σ) : Ledger → State σ → Prop
  /-- A run of no steps. -/
  | refl : Run B t start {} start
  /-- One step more. -/
  | step {l : Ledger} {s s' : State σ} {a : Action} :
      Run B t start l s → s.Step B t a s' → Run B t start (l.record s a) s'

section

variable {σ : Type} {B : Backend σ} {t : Tuning} {start : State σ}

/-- A run leads to a reachable state. -/
theorem Run.reachable {l : Ledger} {s : State σ} (h : Run B t start l s) :
    State.Reachable B t start s := by
  induction h with
  | refl => exact .refl
  | step _ hstep ih => exact .step ih hstep

/-- Carries out a list of actions, if all of them are possible in their turn. -/
def play (B : Backend σ) (t : Tuning) : List Action → Ledger → State σ → Option (Ledger × State σ)
  | [], l, s => some (l, s)
  | a :: rest, l, s =>
    if s.enabled a then play B t rest (l.record s a) (s.next B t a) else none

/-- The write of a message of an application, sent and received at the epoch. -/
def Call.writeOf (appName body : String) : Call :=
  .write
    { timestamp := ⟨0, 0⟩, hostname := "host", severity := .info, facility := .user,
      appName, body, dialect := .rfc5424 }
    ⟨0, 0⟩

/-- What is carried out after a run is a run. -/
theorem Run.play {actions : List Action} {l l' : Ledger} {s s' : State σ} (h : Run B t start l s)
    (hplay : Writer.play B t actions l s = some (l', s')) : Run B t start l' s' := by
  induction actions generalizing l s with
  | nil =>
    cases hplay
    exact h
  | cons a rest ih =>
    unfold Writer.play at hplay
    split at hplay
    · rename_i henabled
      exact ih (h.step ⟨henabled, rfl⟩) hplay
    · cases hplay

end

end Writer

end SyslogCollector.Store
