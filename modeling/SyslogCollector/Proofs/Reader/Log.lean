import SyslogCollector.Proofs.Writer.Producers
/-!
# What a run shows of a reader

A log keeps what a reader was opened for and what it gave, and which points the writer had accepted
when the reader was first used and when it gave its first reading. A reader is used by one caller at
a time (`Alone`).

`Use` lists what a step can do to a reader, with what the reader gives then (`use_next`).
-/

namespace SyslogCollector.Store.Writer

/-- The reader that a caller in a phase uses. -/
def Phase.reader? : Phase → Option Nat
  | .flushing _ (.query reader) | .querying reader => some reader
  | _ => none

/-- Whom the flush task releases does not use a reader. -/
theorem Phase.Released.eq_of_reader? {phase after : Phase} {r : Nat} (h : phase.Released after)
    (hr : after.reader? = some r) : phase = after := by
  cases h with
  | kept => rfl
  | answered => cases hr
  | dismissed => cases hr

/-- The points that the writer has accepted, in the order in which it took them. -/
def Ledger.points (l : Ledger) : List Point :=
  (l.taken.map l.point?).filterMap id

/-- The point of a write that took the buffer is one of those that were accepted. -/
theorem Ledger.mem_points {l : Ledger} {place : Nat} {p : Point} (htaken : place ∈ l.taken)
    (hpoint : l.point? place = some p) : p ∈ l.points := by
  refine List.mem_filterMap.2 ⟨some p, ?_, rfl⟩
  exact hpoint ▸ List.mem_map_of_mem htaken

/-- What was seen of a reader. -/
structure ReaderLog where
  /-- What it was opened for. -/
  opened : Option QueryParams := none
  /-- The points that were accepted before it was first used. -/
  before : Option (List Point) := none
  /-- The points that were accepted before it gave its first reading. -/
  answered : Option (List Point) := none
  /-- What it gave. -/
  readings : List Reading := []

namespace State

variable {σ : Type}

/-- What a caller has read. -/
def reading? (s : State σ) (id : Nat) : Option Reading :=
  match s.phase? id with
  | some (.returned (.reading x)) => some x
  | _ => none

/-- Whether a caller uses a reader. -/
def Uses (s : State σ) (id r : Nat) : Prop :=
  (s.phase? id).bind Phase.reader? = some r

instance (s : State σ) (id r : Nat) : Decidable (s.Uses id r) :=
  inferInstanceAs (Decidable (_ = _))

/-- Whether no reader is used by a caller while another one uses it. -/
def Alone (s : State σ) : Action → Bool
  | .call _ (.read r) => s.callers.all fun c => !decide (s.Uses c.1 r)
  | _ => true

theorem Alone.not_uses {s : State σ} {id r : Nat} (h : s.Alone (.call id (.read r)) = true)
    (c : Nat) : ¬ s.Uses c r := by
  intro huses
  obtain ⟨p, hp, -⟩ := Option.bind_eq_some_iff.1 huses
  simpa [huses] using List.all_eq_true.1 h _ (Numbered.mem_of_lookup_eq_some hp)

theorem Alone.of_not_uses {s : State σ} {id r : Nat} (h : ∀ c, ¬ s.Uses c r) :
    s.Alone (.call id (.read r)) = true := by
  refine List.all_eq_true.2 fun c _ => ?_
  simp [h c.1]

/-- What a reader gives in a step, if it gives anything. -/
def given? (r : Nat) (s : State σ) (a : Action) (s' : State σ) : Option Reading :=
  match a with
  | .call id (.read reader) => if reader = r then s'.reading? id else none
  | .proceed id => if s.Uses id r then s'.reading? id else none
  | _ => none

end State

/-- The log of a reader after one more step. -/
def ReaderLog.record {σ : Type} (g : ReaderLog) (r : Nat) (l : Ledger) (s : State σ) (a : Action)
    (s' : State σ) : ReaderLog where
  opened :=
    match a with
    | .openReader reader params => if reader = r then some params else g.opened
    | _ => g.opened
  before :=
    match a with
    | .call _ (.read reader) => if reader = r then g.before.or (some l.points) else g.before
    | _ => g.before
  answered := g.answered.or ((s.given? r a s').map fun _ => l.points)
  readings := g.readings ++ (s.given? r a s').toList

section

variable {σ : Type} (g : ReaderLog) (r : Nat) (l : Ledger) (s s' : State σ) (a : Action)

theorem ReaderLog.answered_record : (g.record r l s a s').answered =
    g.answered.or ((s.given? r a s').map fun _ => l.points) := rfl

theorem ReaderLog.readings_record : (g.record r l s a s').readings =
    g.readings ++ (s.given? r a s').toList := rfl

end

/-- A run with its ledger and the log of a reader. -/
inductive ReaderRun {σ : Type} (B : Backend σ) (t : Tuning) (r : Nat) (start : State σ) :
    Ledger → ReaderLog → State σ → Prop
  /-- A run of no steps. -/
  | refl : ReaderRun B t r start {} {} start
  /-- One step more. -/
  | step {l : Ledger} {g : ReaderLog} {s s' : State σ} {a : Action} :
      ReaderRun B t r start l g s → s.Step B t a s' → s.Alone a = true →
        ReaderRun B t r start (l.record s a) (g.record r l s a s') s'

/-- Carries out a list of actions, if all of them are possible in their turn. -/
def ReaderRun.play {σ : Type} (B : Backend σ) (t : Tuning) (r : Nat) :
    List Action → Ledger → ReaderLog → State σ → Option (Ledger × ReaderLog × State σ)
  | [], l, g, s => some (l, g, s)
  | a :: rest, l, g, s =>
    if s.enabled a && s.Alone a then
      play B t r rest (l.record s a) (g.record r l s a (s.next B t a)) (s.next B t a)
    else none

/-- What is carried out after a run is a run. -/
theorem ReaderRun.of_play {σ : Type} {B : Backend σ} {t : Tuning} {r : Nat} {start : State σ}
    {actions : List Action} {l l' : Ledger} {g g' : ReaderLog} {s s' : State σ}
    (h : ReaderRun B t r start l g s)
    (hplay : play B t r actions l g s = some (l', g', s')) : ReaderRun B t r start l' g' s' := by
  induction actions generalizing l g s with
  | nil =>
    cases hplay
    exact h
  | cons a rest ih =>
    unfold play at hplay
    split at hplay
    · rename_i hpossible
      rw [Bool.and_eq_true] at hpossible
      exact ih (h.step ⟨hpossible.1, rfl⟩ hpossible.2) hplay
    · cases hplay

namespace State

variable {σ : Type}

/-! ### Who uses a reader -/

/-- Whose action it is not uses a reader only as before. -/
theorem phase?_of_uses {B : Backend σ} {t : Tuning} {s : State σ} {a : Action} {c r : Nat}
    {p : Phase} (hown : a.caller? ≠ some c) (hp : (s.next B t a).phase? c = some p)
    (hr : p.reader? = some r) : s.phase? c = some p := by
  obtain ⟨before, hbefore, hreleased⟩ := exists_released_of_next hown hp
  rw [hbefore, hreleased.eq_of_reader? hr]

/-! ### Who touches a reader -/

/-- Whether an action can touch a reader: it is opened, called, or about to be asked. -/
def Touches (s : State σ) (r : Nat) : Action → Prop
  | .openReader reader _ => reader = r
  | .call _ (.read reader) => reader = r
  | .proceed id => s.phase? id = some (.querying r)
  | _ => False

theorem reader?_assign_of_ne {s : State σ} {r reader : Nat} (h : reader ≠ r) (x : Reader) :
    (Numbered.assign reader x s.readers).lookup r = s.reader? r :=
  Numbered.lookup_assign_of_ne (Ne.symm h) x s.readers

/-- All other actions leave the reader. -/
theorem reader?_next {B : Backend σ} {t : Tuning} {s : State σ} {a : Action} {r : Nat}
    (h : ¬ s.Touches r a) : (s.next B t a).reader? r = s.reader? r := by
  cases a with
  | call id c =>
    cases c with
    | write m received =>
      simp only [next, begin]
      split <;> rfl
    | flush => rfl
    | count => rfl
    | wait =>
      simp only [next, begin]
      split <;> rfl
    | read reader =>
      have hne : reader ≠ r := h
      -- another reader may come to its end or go on
      simp only [next, begin]
      split
      · split
        · exact reader?_assign_of_ne hne _
        · rfl
      · exact reader?_assign_of_ne hne _
      · rfl
  | proceed id =>
    simp only [next]
    split
    · rename_i phase hphase
      cases phase with
      | pushed size =>
        simp only [proceed, afterPush]
        split
        · rfl
        · split <;> rfl
      | flushing deadline purpose =>
        obtain ⟨_, _, _, _, hflush⟩ := s.exists_flushStep B (.caller id)
        simp only [proceed, hflush]
        split <;> rfl
      | querying reader =>
        have hne : reader ≠ r := by
          rintro rfl
          exact h hphase
        simp only [proceed, sendQuery]
        split
        · split
          · exact reader?_assign_of_ne hne _
          · exact reader?_assign_of_ne hne _
        · rfl
      | _ => rfl
    · rfl
  | expire id =>
    obtain ⟨_, hrelease⟩ := s.exists_release id
    simp only [next, expire, hrelease]
    rfl
  | abandon id =>
    obtain ⟨_, hrelease⟩ := s.exists_release id
    simp only [next, abandon, hrelease]
    rfl
  | openReader reader params => exact reader?_assign_of_ne h _
  | serve =>
    simp only [next]
    split <;> rfl
  | work =>
    obtain ⟨_, _, _, _, _, _, _, _, hwork⟩ := s.exists_work B
    simp only [next, hwork]
    rfl
  | start | stop | leave | tick | pass => rfl

/-! ### A step that does not touch a reader -/

section

variable {B : Backend σ} {t : Tuning} {s : State σ} {a : Action} {r : Nat}

/-- Who uses a reader used it before in the same phase, or has come to the end of its flush, or has
just called it. -/
theorem phase?_of_uses_next {c : Nat} {p : Phase} (henabled : s.enabled a = true)
    (hp : (s.next B t a).phase? c = some p) (hr : p.reader? = some r) :
    s.phase? c = some p ∨
      (∃ deadline, a = .proceed c ∧ s.phase? c = some (.flushing deadline (.query r)) ∧
        p = .querying r) ∨
      (a = .call c (.read r) ∧ p = .flushing none (.query r)) := by
  by_cases hown : a.caller? = some c
  · -- of the own actions of a caller only a call and two steps of a flush lead to a user
    cases a with
    | call id call =>
      obtain rfl : id = c := Option.some.inj hown
      obtain ⟨first, hfirst, hcall⟩ := s.first_begin id call
      obtain rfl : first = p := Option.some.inj (hfirst.symm.trans hp)
      cases hcall with
      | querying reader =>
        cases hr
        exact .inr (.inr ⟨rfl, rfl⟩)
      | _ => cases hr
    | proceed id =>
      obtain rfl : id = c := Option.some.inj hown
      obtain ⟨phase, after, hphase, hafter, hnext⟩ := exists_next_proceed B t henabled
      obtain rfl : after = p := Option.some.inj (hafter.symm.trans hp)
      cases hnext with
      | submitted deadline purpose => exact .inl hphase
      | querying deadline reader =>
        cases hr
        exact .inr (.inl ⟨deadline, rfl, hphase, rfl⟩)
      | _ => cases hr
    | expire id =>
      obtain rfl : id = c := Option.some.inj hown
      obtain rfl : _ = p := Option.some.inj ((phase?_expire_self t s id).symm.trans hp)
      cases hr
    | abandon id =>
      obtain rfl : id = c := Option.some.inj hown
      cases (phase?_abandon_self s id).symm.trans hp
    | openReader | start | stop | leave | serve | tick | work | pass => cases hown
  · exact .inl (phase?_of_uses hown hp hr)

theorem Uses.exists_phase? {c : Nat} (h : s.Uses c r) :
    ∃ p, s.phase? c = some p ∧ p.reader? = some r :=
  Option.bind_eq_some_iff.1 h

theorem Uses.of_phase? {c : Nat} {p : Phase} (hp : s.phase? c = some p)
    (hr : p.reader? = some r) : s.Uses c r :=
  Option.bind_eq_some_iff.2 ⟨p, hp, hr⟩

/-- Who uses a reader used it before, unless it has just called it. -/
theorem uses_of_next {c : Nat} (henabled : s.enabled a = true)
    (h : (s.next B t a).Uses c r) : s.Uses c r ∨ a = .call c (.read r) := by
  obtain ⟨p, hp, hr⟩ := h.exists_phase?
  rcases phase?_of_uses_next henabled hp hr with hbefore | ⟨deadline, -, hbefore, -⟩ | ⟨ha, -⟩
  · exact .inl (.of_phase? hbefore hr)
  · exact .inl (.of_phase? hbefore rfl)
  · exact .inr ha

/-- A reader that is not touched gives nothing. -/
theorem given?_eq_none (h : ¬ s.Touches r a) (henabled : s.enabled a = true) :
    s.given? r a (s.next B t a) = none := by
  cases a with
  | call id c =>
    cases c with
    | read reader => exact if_neg h
    | _ => rfl
  | proceed id =>
    simp only [given?]
    split
    · rename_i huses
      obtain ⟨p, hp, hr⟩ := huses.exists_phase?
      obtain ⟨phase, after, hphase, hafter, hnext⟩ := exists_next_proceed B t henabled
      obtain rfl : p = phase := Option.some.inj (hp.symm.trans hphase)
      unfold reading?
      rw [hafter]
      -- the caller is at its flush and stays there, or is then about to send its query
      cases hnext with
      | submitted => rfl
      | querying => rfl
      | read reader =>
        cases hr
        exact absurd hphase h
      | _ => cases hr
    · rfl
  | _ => rfl

/-- What a step can do to a reader, and what the reader then gives. -/
inductive Use (B : Backend σ) (s : State σ) (r : Nat) :
    Action → Option Reader → Option Reading → Prop
  /-- Nothing. -/
  | untouched {a : Action} (h : ¬ s.Touches r a) : Use B s r a (s.reader? r) none
  /-- It is made. -/
  | opened (params : QueryParams) (hnew : s.reader? r = none) :
      Use B s r (.openReader r params) (some (.pending params)) none
  /-- Its request is no query. -/
  | refused {id : Nat} {params : QueryParams} {error : QueryError}
      (hreader : s.reader? r = some (.pending params))
      (hquery : SeriesQuery.ofParams params = .error error) :
      Use B s r (.call id (.read r)) (some .finished) (some (.failed error))
  /-- Its caller flushes the buffer first. -/
  | begun {id : Nat} {params : QueryParams} (hreader : s.reader? r = some (.pending params)) :
      Use B s r (.call id (.read r)) (some (.pending params)) none
  /-- It has an answer and goes on with it. -/
  | continued {id : Nat} {rest : Chunks} (hreader : s.reader? r = some (.streaming rest)) :
      Use B s r (.call id (.read r)) (some (nextLines rest).2) (some (nextLines rest).1)
  /-- It has come to its end. -/
  | ended {id : Nat} (hreader : s.reader? r = some .finished) :
      Use B s r (.call id (.read r)) (some .finished) (some .atEnd)
  /-- Its query reaches the store. -/
  | asked {id : Nat} {params : QueryParams} {q : SeriesQuery}
      (hphase : s.phase? id = some (.querying r))
      (hreader : s.reader? r = some (.pending params))
      (hquery : SeriesQuery.ofParams params = .ok q) :
      Use B s r (.proceed id) (some (firstLines (B.query s.store q).1).2)
        (some (firstLines (B.query s.store q).1).1)
  /-- Its request is no query after all. -/
  | denied {id : Nat} {params : QueryParams} {error : QueryError}
      (hphase : s.phase? id = some (.querying r))
      (hreader : s.reader? r = some (.pending params))
      (hquery : SeriesQuery.ofParams params = .error error) :
      Use B s r (.proceed id) (some .finished) (some (.failed error))
  /-- Somebody else has sent its query. -/
  | late {id : Nat} (hphase : s.phase? id = some (.querying r))
      (hreader : ∀ params, s.reader? r ≠ some (.pending params)) :
      Use B s r (.proceed id) (s.reader? r) (some .atEnd)

theorem reading?_finish (s : State σ) (id : Nat) (x : Reading) :
    (s.finish id (.reading x)).reading? id = some x := by
  simp [reading?]

theorem reader?_finish (s : State σ) (store : σ) (id r : Nat) (x : Reader) (outcome : Outcome) :
    ({ s with store, readers := Numbered.assign r x s.readers }.finish id outcome).reader? r =
      some x :=
  Numbered.lookup_assign_self r x s.readers

theorem use_call {id : Nat} (henabled : s.enabled (.call id (.read r)) = true) :
    Use B s r (.call id (.read r)) ((s.begin id (.read r)).reader? r)
      ((s.begin id (.read r)).reading? id) := by
  simp only [begin]
  split
  · rename_i params hreader
    split
    · rename_i error hquery
      rw [reader?_finish, reading?_finish]
      exact .refused hreader hquery
    · have hnone : (s.move id (.flushing none (.query r))).reading? id = none := by
        simp [reading?]
      rw [hnone]
      exact hreader ▸ .begun hreader
  · rename_i rest hreader
    rw [reader?_finish, reading?_finish]
    exact .continued hreader
  · rename_i hpending hstreaming
    rw [reading?_finish]
    simp only [enabled, Bool.and_eq_true, Option.isSome_iff_exists] at henabled
    obtain ⟨-, x, hreader⟩ := henabled
    cases x with
    | pending params => exact absurd hreader (hpending params)
    | streaming rest => exact absurd hreader (hstreaming rest)
    | finished => exact hreader ▸ .ended hreader

theorem use_query {id : Nat} (hphase : s.phase? id = some (.querying r)) :
    Use B s r (.proceed id) ((s.proceed B t id (.querying r)).reader? r)
      ((s.proceed B t id (.querying r)).reading? id) := by
  simp only [proceed]
  split
  · rename_i params hreader
    unfold sendQuery
    split
    · rename_i error hquery
      rw [reader?_finish, reading?_finish]
      exact .denied hphase hreader hquery
    · rename_i q hquery
      rw [reader?_finish, reading?_finish]
      exact .asked hphase hreader hquery
  · rename_i hreader
    rw [reading?_finish]
    exact .late hphase hreader

/-- The list of `Use` is complete. -/
theorem use_next (B : Backend σ) (t : Tuning) (r : Nat) (henabled : s.enabled a = true) :
    Use B s r a ((s.next B t a).reader? r) (s.given? r a (s.next B t a)) := by
  by_cases h : s.Touches r a
  · cases a with
    | openReader reader params =>
      obtain rfl : reader = r := h
      have hnew : s.reader? reader = none := Option.isNone_iff_eq_none.1 henabled
      have hreader : (s.next B t (.openReader reader params)).reader? reader =
          some (.pending params) := Numbered.lookup_assign_self _ _ _
      rw [hreader]
      exact .opened params hnew
    | call id c =>
      cases c with
      | read reader =>
        obtain rfl : reader = r := h
        simp only [given?, if_true]
        exact use_call henabled
      | write | flush | count | wait => cases h
    | proceed id =>
      have hphase : s.phase? id = some (.querying r) := h
      have huses : s.Uses id r := .of_phase? hphase rfl
      simp only [given?, huses, if_true, next, hphase]
      exact use_query hphase
    | expire | abandon | start | stop | leave | serve | tick | work | pass => cases h
  · rw [reader?_next h, given?_eq_none h henabled]
    exact .untouched h

/-! ### One user at a time -/

/-- Whether a reader has one user at most. -/
def SingleUser (s : State σ) (r : Nat) : Prop :=
  ∀ c d, s.Uses c r → s.Uses d r → c = d

theorem SingleUser.next (h : s.SingleUser r) (henabled : s.enabled a = true)
    (halone : s.Alone a = true) : (s.next B t a).SingleUser r := by
  intro c d hc hd
  -- one that calls now finds the reader unused
  rcases uses_of_next henabled hc with hcbefore | hcall
  · rcases uses_of_next henabled hd with hdbefore | hcall
    · exact h c d hcbefore hdbefore
    · subst hcall
      exact absurd hcbefore (Alone.not_uses halone c)
  · subst hcall
    rcases uses_of_next henabled hd with hd | hcall
    · exact absurd hd (Alone.not_uses halone d)
    · cases hcall
      rfl

/-- Who has just read uses no reader. -/
theorem not_uses_of_reading? {c : Nat} (h : s.reading? c ≠ none) : ¬ s.Uses c r := by
  intro huses
  obtain ⟨p, hp, hr⟩ := huses.exists_phase?
  unfold reading? at h
  rw [hp] at h
  cases p with
  | returned => cases hr
  | _ => exact h rfl

/-- When a reader has given something, nobody uses it. -/
theorem not_uses_of_given? (h : s.SingleUser r) (henabled : s.enabled a = true)
    (halone : s.Alone a = true) (hgiven : s.given? r a (s.next B t a) ≠ none) (c : Nat) :
    ¬ (s.next B t a).Uses c r := by
  intro hc
  cases a with
  | call id call =>
    cases call with
    | read reader =>
      simp only [given?] at hgiven
      split at hgiven
      · rename_i hreader
        subst hreader
        rcases uses_of_next henabled hc with hbefore | hcall
        · exact Alone.not_uses halone c hbefore
        · cases hcall
          exact not_uses_of_reading? hgiven hc
      · exact hgiven rfl
    | write | flush | count | wait => exact hgiven rfl
  | proceed id =>
    simp only [given?] at hgiven
    split at hgiven
    · rename_i huses
      rcases uses_of_next henabled hc with hbefore | hcall
      · -- its only user is the one that has just read
        obtain rfl : c = id := h c id hbefore huses
        exact not_uses_of_reading? hgiven hc
      · cases hcall
    · exact hgiven rfl
  | expire | abandon | openReader | start | stop | leave | serve | tick | work | pass =>
    exact hgiven rfl

/-! ### The log after a step -/

/-- The log of a reader that is not touched stays as it is. -/
theorem record_of_not_touches {g : ReaderLog} {l : Ledger} (h : ¬ s.Touches r a)
    (henabled : s.enabled a = true) : g.record r l s a (s.next B t a) = g := by
  have hgiven := given?_eq_none (B := B) (t := t) h henabled
  obtain ⟨opened, before, answered, readings⟩ := g
  unfold ReaderLog.record
  rw [hgiven]
  cases a with
  | openReader reader params =>
    have hne : reader ≠ r := h
    simp [hne]
  | call id c =>
    cases c with
    | read reader =>
      have hne : reader ≠ r := h
      simp [hne]
    | _ => simp
  | _ => simp

end

end State

end SyslogCollector.Store.Writer
