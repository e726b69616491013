import SyslogCollector.Proofs.Reader.Log
/-!
# What a reader asks of the store

A store can keep a record of all that it is asked for, batches and queries alike
(`Backend.watched`). The events of a reader are what its user asks of the store, the end of its
flush and what it gives (`State.eventsOf`). `ReaderLife` is a run with the events of a reader, in
which whoever uses the reader waits for what it gives. So a reader in use has a sole user, which
goes on by its own steps only (`SoleUser`).
-/

namespace SyslogCollector.Store

/-- What a store is asked for, with its answer. -/
inductive StoreCall where
  /-- To take a batch. -/
  | batch (points : List Point) (answer : Answer)
  /-- To answer a query. -/
  | query (q : SeriesQuery) (answer : Except QueryError Chunks)
  deriving Repr

/-- The store with a record of what it is asked for. -/
def Backend.watched {σ : Type} (B : Backend σ) : Backend (σ × List StoreCall) where
  name := B.name
  submit s batch :=
    let (answer, store) := B.submit s.1 batch
    (answer, (store, s.2 ++ [.batch batch answer]))
  query s q :=
    let (answer, store) := B.query s.1 q
    (answer, (store, s.2 ++ [.query q answer]))
  measurements s :=
    let (names, store) := B.measurements s.1
    (names, (store, s.2))

namespace Writer

/-- What is seen of a reader. -/
inductive ReaderEvent where
  /-- Its user asked something of the store. -/
  | store (call : StoreCall)
  /-- The flush of its user came to its end, with whatever result, and left this in the buffer. -/
  | flushed (left : List Point)
  /-- It gave something. -/
  | gave (x : Reading)
  deriving Repr

namespace State

variable {σ : Type}

/-- The user of a reader whose action this is, or who begins to use it by this action. -/
def user? (s : State σ) (r : Nat) : Action → Option Nat
  | .call id (.read reader) => if reader = r then some id else none
  | .proceed id => if s.Uses id r then some id else none
  | _ => none

/-- Whether a caller is about to send a query. -/
def isQuerying (s : State σ) (id : Nat) : Bool :=
  s.phase? id matches some (.querying _)

/-- What the store was asked for between two states. -/
def callsUntil (s s' : State (σ × List StoreCall)) : List StoreCall :=
  s'.store.2.drop s.store.2.length

/-- What a step shows of a reader. -/
def eventsOf (r : Nat) (s : State (σ × List StoreCall)) (a : Action)
    (s' : State (σ × List StoreCall)) : List ReaderEvent :=
  match s.user? r a with
  | some id =>
    (s.callsUntil s').map .store ++
      (if s'.isQuerying id then [.flushed s'.buffer.toList] else []) ++
      (s'.reading? id).toList.map .gave
  | none => []

/-- Whether nobody who uses the reader goes away by an action. -/
def WaitsFor (s : State σ) (r : Nat) (a : Action) : Prop :=
  ∀ c, a = .abandon c → ¬ s.Uses c r

instance (s : State σ) (r : Nat) : (a : Action) → Decidable (s.WaitsFor r a)
  | .abandon c => decidable_of_iff (¬ s.Uses c r)
      ⟨fun h _ ha => Action.abandon.inj ha ▸ h, fun h => h c rfl⟩
  | .call .. | .proceed _ | .expire _ | .openReader .. | .start | .stop | .leave | .serve | .tick
  | .work | .pass _ => isTrue nofun

end State

/-- A run with the events of a reader. One caller uses it at a time, and waits for what it gives. -/
inductive ReaderLife {σ : Type} (B : Backend σ) (t : Tuning) (r : Nat)
    (start : State (σ × List StoreCall)) :
    List ReaderEvent → State (σ × List StoreCall) → Prop
  /-- A run of no steps. -/
  | refl : ReaderLife B t r start [] start
  /-- One step more. -/
  | step {events : List ReaderEvent} {s s' : State (σ × List StoreCall)} {a : Action} :
      ReaderLife B t r start events s → s.Step B.watched t a s' → s.Alone a = true →
      s.WaitsFor r a → ReaderLife B t r start (events ++ s.eventsOf r a s') s'

namespace ReaderLife

variable {σ : Type} {B : Backend σ} {t : Tuning} {r : Nat} {start : State (σ × List StoreCall)}

/-- Carries out a list of actions, if all of them are possible in their turn. -/
def play (B : Backend σ) (t : Tuning) (r : Nat) : List Action → List ReaderEvent →
    State (σ × List StoreCall) → Option (List ReaderEvent × State (σ × List StoreCall))
  | [], events, s => some (events, s)
  | a :: rest, events, s =>
    if s.enabled a && s.Alone a && decide (s.WaitsFor r a) then
      play B t r rest (events ++ s.eventsOf r a (s.next B.watched t a)) (s.next B.watched t a)
    else none

/-- What is carried out after a run is a run. -/
theorem of_play {actions : List Action} {events events' : List ReaderEvent}
    {s s' : State (σ × List StoreCall)} (h : ReaderLife B t r start events s)
    (hplay : play B t r actions events s = some (events', s')) :
    ReaderLife B t r start events' s' := by
  induction actions generalizing events s with
  | nil =>
    cases hplay
    exact h
  | cons a rest ih =>
    unfold play at hplay
    split at hplay
    · rename_i hpossible
      simp only [Bool.and_eq_true, decide_eq_true_eq] at hpossible
      obtain ⟨⟨henabled, halone⟩, hwaits⟩ := hpossible
      exact ih (h.step ⟨henabled, rfl⟩ halone hwaits) hplay
    · cases hplay

end ReaderLife

section

variable {σ : Type} {B : Backend σ} {t : Tuning} {r c : Nat} {p : Phase}
  {s s' : State (σ × List StoreCall)} {a : Action}

/-! ### What a step shows -/

namespace State

theorem eventsOf_eq_nil (h : s.user? r a = none) : s.eventsOf r a s' = [] := by
  simp only [eventsOf, h]

theorem callsUntil_of_eq (h : s'.store = s.store) : s.callsUntil s' = [] := by
  rw [callsUntil, h, List.drop_length]

theorem callsUntil_of_append {call : StoreCall} (h : s'.store.2 = s.store.2 ++ [call]) :
    s.callsUntil s' = [call] := by
  rw [callsUntil, h, List.drop_left]

theorem user?_call (s : State (σ × List StoreCall)) (id r : Nat) :
    s.user? r (.call id (.read r)) = some id := if_pos rfl

theorem user?_proceed (h : s.Uses c r) : s.user? r (.proceed c) = some c := if_pos h

/-- The user of a reader goes on, or begins to use it. -/
theorem of_user?_eq_some (h : s.user? r a = some c) :
    a = .call c (.read r) ∨ a = .proceed c ∧ s.Uses c r := by
  cases a with
  | call id call =>
    cases call with
    | read reader =>
      simp only [user?] at h
      split at h
      · rename_i hr
        cases h
        exact .inl (hr ▸ rfl)
      · cases h
    | write | flush | count | wait => cases h
  | proceed id =>
    simp only [user?] at h
    split at h
    · rename_i huses
      cases h
      exact .inr ⟨rfl, huses⟩
    · cases h
  | expire | abandon | openReader | start | stop | leave | serve | tick | work | pass => cases h

/-- Only its users touch a reader that is there. -/
theorem not_touches (h : s.user? r a = none) (henabled : s.enabled a = true)
    (hreader : s.reader? r ≠ none) : ¬ s.Touches r a := by
  intro htouches
  cases a with
  | openReader reader _ =>
    obtain rfl : reader = r := htouches
    exact hreader (Option.isNone_iff_eq_none.1 henabled)
  | call id call =>
    cases call with
    | read reader =>
      obtain rfl : reader = r := htouches
      cases h.symm.trans (s.user?_call id reader)
    | write | flush | count | wait => cases htouches
  | proceed id =>
    have hphase : s.phase? id = some (.querying r) := htouches
    cases h.symm.trans (user?_proceed (.of_phase? hphase rfl))
  | expire | abandon | start | stop | leave | serve | tick | work | pass => cases htouches

/-- A use that returns shows what it gives. -/
theorem eventsOf_of_returned {x : Reading} (huser : s.user? r a = some c)
    (hphase : s'.phase? c = some (.returned (.reading x))) (hstore : s'.store = s.store) :
    s.eventsOf r a s' = [.gave x] := by
  simp [eventsOf, huser, isQuerying, reading?, hphase, callsUntil_of_eq hstore]

/-- A use that returns with the answer to its query shows the query, and what it gives. -/
theorem eventsOf_of_asked {x : Reading} {call : StoreCall} (huser : s.user? r a = some c)
    (hphase : s'.phase? c = some (.returned (.reading x)))
    (hstore : s'.store.2 = s.store.2 ++ [call]) :
    s.eventsOf r a s' = [.store call, .gave x] := by
  simp [eventsOf, huser, isQuerying, reading?, hphase, callsUntil_of_append hstore]

/-- A flush that hands a batch over shows it. -/
theorem eventsOf_of_submitted {deadline : Option Moment} {purpose : Purpose} {call : StoreCall}
    (huser : s.user? r a = some c) (hphase : s'.phase? c = some (.flushing deadline purpose))
    (hstore : s'.store.2 = s.store.2 ++ [call]) : s.eventsOf r a s' = [.store call] := by
  simp [eventsOf, huser, isQuerying, reading?, hphase, callsUntil_of_append hstore]

/-- A use that goes on to its flush shows nothing. -/
theorem eventsOf_of_begun {deadline : Option Moment} {purpose : Purpose}
    (huser : s.user? r a = some c) (hphase : s'.phase? c = some (.flushing deadline purpose))
    (hstore : s'.store = s.store) : s.eventsOf r a s' = [] := by
  simp [eventsOf, huser, isQuerying, reading?, hphase, callsUntil_of_eq hstore]

/-- A flush that has come to its end shows it. -/
theorem eventsOf_of_flushed {reader : Nat} (huser : s.user? r a = some c)
    (hphase : s'.phase? c = some (.querying reader)) (hstore : s'.store = s.store) :
    s.eventsOf r a s' = [.flushed s'.buffer.toList] := by
  simp [eventsOf, huser, isQuerying, reading?, hphase, callsUntil_of_eq hstore]

/-- A batch under way was under way before, or is handed over by its party. -/
theorem turn_of_flight_next {f : Flight} (henabled : s.enabled a = true)
    (hflight : (s.next B.watched t a).flight = some f) :
    s.flight = some f ∨ s.Turn a f.holder := by
  have hflow := flow_next (B := B.watched) (t := t) henabled
  generalize s.next B.watched t a = s' at hflow hflight
  cases hflow with
  | kept _ hpipe | pushed _ _ hpipe | counted _ hpipe | queried _ _ hpipe =>
    exact .inl ((congrArg Pipe.flight hpipe).symm.trans hflight)
  | submitted hturn =>
    cases hflight
    exact .inr hturn
  | answered _ _ _ hpipe | cut _ _ _ hpipe =>
    cases (congrArg Pipe.flight hpipe).symm.trans hflight

/-- While a batch is under way, nothing is put into the buffer. -/
theorem buffer_next_of_flight {f : Flight} (hflight : s.flight = some f)
    (henabled : s.enabled a = true) : (s.next B.watched t a).buffer = s.buffer := by
  have hflow := flow_next (B := B.watched) (t := t) henabled
  generalize s.next B.watched t a = s' at hflow ⊢
  cases hflow with
  | kept _ hpipe | counted _ hpipe | queried _ _ hpipe | answered _ _ _ hpipe | cut _ _ _ hpipe =>
    exact congrArg Pipe.buffer hpipe
  | pushed _ hfree | submitted _ hfree => cases hfree.symm.trans hflight

end State

/-! ### One user -/

/-- A reader has one user, which stands in this phase. -/
structure SoleUser (r c : Nat) (p : Phase) (s : State (σ × List StoreCall)) : Prop where
  phase : s.phase? c = some p
  reads : p.reader? = some r
  only : ∀ d, s.Uses d r → d = c

namespace SoleUser

theorem uses (h : SoleUser r c p s) : s.Uses c r := .of_phase? h.phase h.reads

/-- After a step of its own the reader has no other user. -/
theorem only_next (h : SoleUser r c p s) (henabled : s.enabled (.proceed c) = true) (d : Nat)
    (hd : (s.next B.watched t (.proceed c)).Uses d r) : d = c := by
  rcases State.uses_of_next henabled hd with hbefore | hbegins
  · exact h.only d hbefore
  · cases hbegins

/-- The user itself goes on, since it waits and has no deadline. -/
theorem eq_proceed (h : SoleUser r c p s) (hown : a.caller? = some c)
    (henabled : s.enabled a = true) (hwaits : s.WaitsFor r a) (hdeadline : p.deadline? = none) :
    a = .proceed c ∧ s.canProceed c p = true := by
  cases State.own_of_phase? h.phase henabled hown with
  | proceed hcan => exact ⟨rfl, hcan⟩
  | expire hsome => cases hdeadline.symm.trans hsome
  | abandon => exact absurd h.uses (hwaits c rfl)

/-- Others leave the user of a reader where it is. -/
theorem keep (h : SoleUser r c p s) (hdeadline : p.deadline? = none)
    (huser : s.user? r a = none) (henabled : s.enabled a = true) (hwaits : s.WaitsFor r a) :
    a.caller? ≠ some c ∧ SoleUser r c p (s.next B.watched t a) := by
  have hother : a.caller? ≠ some c := by
    intro hown
    obtain ⟨rfl, -⟩ := h.eq_proceed hown henabled hwaits hdeadline
    cases huser.symm.trans (State.user?_proceed h.uses)
  refine ⟨hother, ?_, h.reads, fun d hd => ?_⟩
  -- who waits for a query is in none of the phases that others can move it on from
  · obtain ⟨after, hafter, hreleased⟩ :=
      State.exists_released (B := B.watched) (t := t) hother h.phase
    have hreads := h.reads
    cases hreleased with
    | kept => exact hafter
    | answered | dismissed => cases hreads
  · rcases State.uses_of_next henabled hd with hbefore | rfl
    · exact h.only d hbefore
    · cases huser.symm.trans (s.user?_call d r)

end SoleUser

end

end Writer

end SyslogCollector.Store
