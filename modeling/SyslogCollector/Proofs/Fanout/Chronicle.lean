import SyslogCollector.Fanout.Basic
/-!
# What a run of a fan-out has done

A chronicle tells which writes the callers began, what every sink got and what it answered. A write
has a place: how many began before it. Callers that go away before their writes come to an end are
left out here, so a place is that of a write that has returned or of one under way (`Placed`).
-/

namespace SyslogCollector.Fanout

/-- A message that a sink got. -/
structure Receipt where
  /-- The number of the sink. -/
  sink : Nat
  /-- Whose message it was. -/
  caller : Nat
  /-- The message. -/
  message : Message

/-- What a run has done so far. -/
structure Chronicle where
  /-- The writes in the order in which they began, each with its caller. -/
  begun : List (Nat × Message) := []
  /-- The callers with a write under way, each with its place. -/
  places : List (Nat × Nat) := []
  /-- What the sinks got, in this order. -/
  receipts : List Receipt := []
  /-- What the sinks answered, each answer with the place of the write. -/
  answers : List (Nat × Except SinkError Unit) := []
  /-- What the writes came to, each with its place. -/
  returned : List (Nat × Except SinkError Unit) := []

namespace Chronicle

/-- The messages that a sink got from a caller, in this order. -/
def receivedFrom (h : Chronicle) (sink caller : Nat) : List Message :=
  (h.receipts.filter fun r => r.sink == sink && r.caller == caller).map Receipt.message

/-- The messages that a caller wrote, in this order. -/
def writtenBy (h : Chronicle) (caller : Nat) : List Message :=
  (h.begun.filter (·.1 == caller)).map Prod.snd

/-- The answers to the write at a place. -/
def answersTo (h : Chronicle) (place : Nat) : List (Except SinkError Unit) :=
  (h.answers.filter (·.1 == place)).map Prod.snd

/-- Whether a sink refused the message of the write at a place. -/
def isRefused (h : Chronicle) (place : Nat) : Bool :=
  (h.answersTo place).any fun result => !result.isOk

theorem receivedFrom_append {g h : Chronicle} {r : Receipt} (hg : g.receipts = h.receipts ++ [r])
    (sink caller : Nat) : g.receivedFrom sink caller =
      h.receivedFrom sink caller ++
        if r.sink = sink ∧ r.caller = caller then [r.message] else [] := by
  simp only [receivedFrom, hg, List.filter_append, List.map_append]
  by_cases hown : r.sink = sink ∧ r.caller = caller
  · simp [hown]
  · rw [if_neg hown, List.filter_cons_of_neg (by simpa using hown)]
    rfl

theorem writtenBy_append {g h : Chronicle} {id : Nat} {m : Message}
    (hg : g.begun = h.begun ++ [(id, m)]) (caller : Nat) :
    g.writtenBy caller = h.writtenBy caller ++ if id = caller then [m] else [] := by
  simp only [writtenBy, hg, List.filter_append, List.map_append]
  by_cases hown : id = caller
  · simp [hown]
  · rw [if_neg hown, List.filter_cons_of_neg (by simpa using hown)]
    rfl

theorem answersTo_append {g h : Chronicle} {own : Nat} {result : Except SinkError Unit}
    (hg : g.answers = h.answers ++ [(own, result)]) (place : Nat) :
    g.answersTo place = h.answersTo place ++ if own = place then [result] else [] := by
  simp only [answersTo, hg, List.filter_append, List.map_append]
  by_cases hown : own = place
  · simp [hown]
  · rw [if_neg hown, List.filter_cons_of_neg (by simpa using hown)]
    rfl

/-- The chronicle after an action, taken in a state. -/
def record (h : Chronicle) (s : State) : Action → Chronicle
  | .begin id m =>
    { h with begun := h.begun ++ [(id, m)], places := (id, h.begun.length) :: h.places }
  | .hand id =>
    match s.writes.lookup id with
    | some p => { h with receipts := h.receipts ++ [⟨p.handed, id, p.message⟩] }
    | none => h
  | .answer id result =>
    match h.places.lookup id with
    | some place => { h with answers := h.answers ++ [(place, result)] }
    | none => h
  | .conclude id =>
    match h.places.lookup id, s.writes.lookup id with
    | some place, some p =>
      { h with
        places := Numbered.erase id h.places
        returned := h.returned ++ [(place, p.result)] }
    | _, _ => h
  | .abandon _ => h

end Chronicle

/-- A run of a new fan-out with so many sinks, with its chronicle. Nobody goes away before its write
comes to an end. -/
inductive Run (sinks : Nat) : Chronicle → State → Prop
  /-- A run of no steps. -/
  | refl : Run sinks {} {}
  /-- One step more. -/
  | step {h : Chronicle} {s s' : State} {a : Action} :
      Run sinks h s → s.Step sinks a s' → (∀ id, a ≠ .abandon id) → Run sinks (h.record s a) s'

/-- Carries out a list of actions, if all of them are possible in their turn and nobody goes
away. -/
def play (sinks : Nat) : List Action → Chronicle → State → Option (Chronicle × State)
  | [], h, s => some (h, s)
  | a :: rest, h, s =>
    match a with
    | .abandon _ => none
    | _ => if s.enabled sinks a then play sinks rest (h.record s a) (s.next a) else none

/-- What is carried out after a run is a run. -/
theorem Run.of_play {sinks : Nat} {actions : List Action} {h h' : Chronicle} {s s' : State}
    (hrun : Run sinks h s) (hplay : play sinks actions h s = some (h', s')) : Run sinks h' s' := by
  induction actions generalizing h s with
  | nil =>
    cases hplay
    exact hrun
  | cons a rest ih =>
    unfold play at hplay
    split at hplay
    · cases hplay
    · rename_i hstays
      split at hplay
      · rename_i henabled
        exact ih (hrun.step ⟨henabled, rfl⟩ hstays) hplay
      · cases hplay

/-! ### Places -/

/-- Every write has a place of its own, and is under way or has returned. -/
structure Placed (h : Chronicle) (s : State) : Prop where
  /-- No caller has two writes under way. -/
  keys : (h.places.map Prod.fst).Nodup
  /-- Who has a write under way has it at a place. -/
  underway : ∀ id, h.places.lookup id = none ↔ s.writes.lookup id = none
  /-- It is the write of this caller. -/
  message : ∀ id place p, h.places.lookup id = some place → s.writes.lookup id = some p →
    h.begun[place]? = some (id, p.message)
  all : (h.returned.map Prod.fst ++ h.places.map Prod.snd).Perm (List.range h.begun.length)

namespace Placed

variable {sinks : Nat} {h : Chronicle} {s : State} {a : Action} {id place : Nat} {p : Progress}

theorem initial : Placed {} {} where
  keys := .nil
  underway _ := by simp
  message _ _ _ hplace := nomatch hplace
  all := .nil

/-- A write under way has a place. -/
theorem exists_place (h' : Placed h s) (hwrite : s.writes.lookup id = some p) :
    ∃ place, h.places.lookup id = some place := by
  cases hplace : h.places.lookup id with
  | some place => exact ⟨place, rfl⟩
  | none => cases hwrite.symm.trans ((h'.underway id).1 hplace)

theorem place_lt (h' : Placed h s) (hplace : h.places.lookup id = some place) :
    place < h.begun.length := by
  have hmem : place ∈ h.places.map Prod.snd :=
    List.mem_map_of_mem (Numbered.mem_of_lookup_eq_some hplace)
  exact List.mem_range.1 (h'.all.mem_iff.1 (List.mem_append_right _ hmem))

/-- A write under way has not returned. -/
theorem ne_of_returned (h' : Placed h s) (hplace : h.places.lookup id = some place) {other : Nat}
    (hmem : other ∈ h.returned.map Prod.fst) : other ≠ place := by
  have hnodup := h'.all.nodup_iff.2 List.nodup_range
  refine (List.nodup_append.1 hnodup).2.2 other hmem place ?_
  exact List.mem_map_of_mem (Numbered.mem_of_lookup_eq_some hplace)

/-- Two callers have writes at two places. -/
theorem eq_of_place_eq (h' : Placed h s) {other : Nat} {q : Progress}
    (hplace : h.places.lookup id = some place) (hwrite : s.writes.lookup id = some p)
    (hplace' : h.places.lookup other = some place) (hwrite' : s.writes.lookup other = some q) :
    id = other := by
  have hown := h'.message id place p hplace hwrite
  rw [h'.message other place q hplace' hwrite', Option.some.injEq, Prod.mk.injEq] at hown
  exact hown.1.symm

/-- A write that goes on stays where it is. -/
theorem keep (h' : Placed h s) {g : Chronicle} {s' : State} {q : Progress}
    (hbegun : g.begun = h.begun) (hplaces : g.places = h.places)
    (hreturned : g.returned = h.returned) (hwrite : s.writes.lookup id = some p)
    (hwrites : s'.writes = Numbered.assign id q s.writes) (hmessage : q.message = p.message) :
    Placed g s' := by
  refine ⟨?_, fun c => ?_, fun c place r hc hr => ?_, ?_⟩
  · rw [hplaces]
    exact h'.keys
  · rw [hplaces, hwrites, h'.underway c]
    by_cases hid : c = id
    · simp [hid, hwrite]
    · rw [Numbered.lookup_assign_of_ne hid]
  · rw [hplaces] at hc
    rw [hwrites] at hr
    rw [hbegun]
    rcases Numbered.of_lookup_assign hr with ⟨rfl, rfl⟩ | ⟨-, hr⟩
    · rw [hmessage]
      exact h'.message c place p hc hwrite
    · exact h'.message c place r hc hr
  · rw [hbegun, hplaces, hreturned]
    exact h'.all

theorem begin (h' : Placed h s) {m : Message} {metrics : Metrics}
    (hnone : s.writes.lookup id = none) :
    Placed
      { h with begun := h.begun ++ [(id, m)], places := (id, h.begun.length) :: h.places }
      ⟨Numbered.assign id { message := m } s.writes, metrics⟩ := by
  have hplace : h.places.lookup id = none := (h'.underway id).2 hnone
  refine ⟨?_, fun c => ?_, fun c place p hc hwrite => ?_, ?_⟩
  · exact List.nodup_cons.2 ⟨Numbered.lookup_eq_none_iff_not_mem.1 hplace, h'.keys⟩
  · by_cases hid : c = id
    · simp [hid]
    · rw [Numbered.lookup_assign_of_ne hid, ← h'.underway c, List.lookup_cons,
        beq_eq_false_iff_ne.2 hid]
  · rcases Numbered.of_lookup_assign hwrite with ⟨rfl, rfl⟩ | ⟨hid, hwrite⟩
    · rw [List.lookup_cons_self] at hc
      cases hc
      exact List.getElem?_concat_length
    · rw [List.lookup_cons, beq_eq_false_iff_ne.2 hid] at hc
      rw [List.getElem?_append_left (h'.place_lt hc)]
      exact h'.message c place p hc hwrite
  · -- the new place is the greatest
    simp only [List.map_cons, List.length_append, List.length_singleton, List.range_succ]
    refine List.perm_middle.trans ?_
    exact (h'.all.cons _).trans (List.perm_append_singleton _ _).symm

theorem conclude (h' : Placed h s) {metrics : Metrics} {result : Except SinkError Unit}
    (hplace : h.places.lookup id = some place) :
    Placed
      { h with
        places := Numbered.erase id h.places
        returned := h.returned ++ [(place, result)] }
      ⟨Numbered.erase id s.writes, metrics⟩ := by
  refine ⟨?_, fun c => ?_, fun c other q hc hq => ?_, ?_⟩
  · exact h'.keys.sublist (List.filter_sublist.map _)
  · by_cases hid : c = id
    · simp [hid]
    · rw [Numbered.lookup_erase_of_ne hid, Numbered.lookup_erase_of_ne hid]
      exact h'.underway c
  · obtain ⟨-, hc⟩ := Numbered.of_lookup_erase hc
    obtain ⟨-, hq⟩ := Numbered.of_lookup_erase hq
    exact h'.message c other q hc hq
  · -- the place moves from the writes under way to those that have returned
    have hperm := (Numbered.perm_cons_erase h'.keys hplace).map Prod.snd
    rw [List.map_append, List.map_singleton, List.append_assoc]
    exact (List.Perm.append_left _ hperm.symm).trans h'.all

end Placed

/-! ### What a step does -/

/-- What a step of a caller does, with its guard. -/
inductive Move (sinks : Nat) (h : Chronicle) (s : State) : Chronicle → State → Prop
  | began {id : Nat} {m : Message} (hnone : s.writes.lookup id = none) :
      Move sinks h s
        { h with begun := h.begun ++ [(id, m)], places := (id, h.begun.length) :: h.places }
        ⟨Numbered.assign id { message := m } s.writes,
          { s.metrics with received := s.metrics.received + 1 }⟩
  | handed {id place : Nat} {p : Progress} (hplace : h.places.lookup id = some place)
      (hwrite : s.writes.lookup id = some p) (hall : p.answered = p.handed)
      (hlt : p.handed < sinks) :
      Move sinks h s { h with receipts := h.receipts ++ [⟨p.handed, id, p.message⟩] }
        { s with writes := Numbered.assign id { p with handed := p.handed + 1 } s.writes }
  | answered {id place : Nat} {p : Progress} {result : Except SinkError Unit}
      (hplace : h.places.lookup id = some place) (hwrite : s.writes.lookup id = some p)
      (hlt : p.answered < p.handed) :
      Move sinks h s { h with answers := h.answers ++ [(place, result)] }
        ⟨Numbered.assign id
            { p with
              answered := p.answered + 1
              failed := if result.isOk then p.failed else p.failed + 1 } s.writes,
          s.metrics.countResult result⟩
  | concluded {id place : Nat} {p : Progress} (hplace : h.places.lookup id = some place)
      (hwrite : s.writes.lookup id = some p) (hall : p.answered = sinks) :
      Move sinks h s
        { h with
          places := Numbered.erase id h.places
          returned := h.returned ++ [(place, p.result)] }
        ⟨Numbered.erase id s.writes,
          if p.failed = 0 then { s.metrics with delivered := s.metrics.delivered + 1 }
          else s.metrics⟩

namespace Placed

variable {sinks : Nat} {h h₁ : Chronicle} {s s₁ : State} {a : Action}

/-- There are no other steps. -/
theorem move (h' : Placed h s) (henabled : s.enabled sinks a = true)
    (hstays : ∀ id, a ≠ .abandon id) : Move sinks h s (h.record s a) (s.next a) := by
  cases a with
  | begin id m => exact .began (Option.isNone_iff_eq_none.1 henabled)
  | hand id =>
    obtain ⟨p, hwrite, hp⟩ := (Option.any_eq_true _ _).1 henabled
    obtain ⟨place, hplace⟩ := h'.exists_place hwrite
    simp only [Bool.and_eq_true, beq_iff_eq, decide_eq_true_eq] at hp
    simp only [Chronicle.record, State.next, hwrite]
    exact .handed hplace hwrite hp.1 hp.2
  | answer id result =>
    obtain ⟨p, hwrite, hp⟩ := (Option.any_eq_true _ _).1 henabled
    obtain ⟨place, hplace⟩ := h'.exists_place hwrite
    simp only [Chronicle.record, State.next, hwrite, hplace]
    exact .answered hplace hwrite (of_decide_eq_true hp)
  | conclude id =>
    obtain ⟨p, hwrite, hp⟩ := (Option.any_eq_true _ _).1 henabled
    obtain ⟨place, hplace⟩ := h'.exists_place hwrite
    simp only [Chronicle.record, State.next, hwrite, hplace]
    exact .concluded hplace hwrite (beq_iff_eq.1 hp)
  | abandon id => exact absurd rfl (hstays id)

theorem next (h' : Placed h s) (hmove : Move sinks h s h₁ s₁) : Placed h₁ s₁ := by
  cases hmove with
  | began hnone => exact h'.begin hnone
  | handed _ hwrite => exact h'.keep rfl rfl rfl hwrite rfl rfl
  | answered _ hwrite => exact h'.keep rfl rfl rfl hwrite rfl rfl
  | concluded hplace => exact h'.conclude hplace

end Placed

theorem Run.placed {sinks : Nat} {h : Chronicle} {s : State} (hrun : Run sinks h s) :
    Placed h s := by
  induction hrun with
  | refl => exact .initial
  | step _ hstep hstays ih =>
    obtain ⟨henabled, rfl⟩ := hstep
    exact ih.next (ih.move henabled hstays)

/-- What holds of a new fan-out, and is kept by every step, holds all along a run. -/
theorem Run.keeps {sinks : Nat} {h : Chronicle} {s : State} {P : Chronicle → State → Prop}
    (hrun : Run sinks h s) (hinitial : P {} {})
    (hnext : ∀ h s h₁ s₁, Placed h s → P h s → Move sinks h s h₁ s₁ → P h₁ s₁) : P h s := by
  induction hrun with
  | refl => exact hinitial
  | step hrun hstep hstays ih =>
    obtain ⟨henabled, rfl⟩ := hstep
    exact hnext _ _ _ _ hrun.placed ih (hrun.placed.move henabled hstays)

end SyslogCollector.Fanout
