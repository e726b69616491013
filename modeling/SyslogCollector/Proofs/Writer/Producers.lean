import SyslogCollector.Proofs.Writer.Ledger
/-!
# The producers of a writer, by their ledger

The ledger of a run is read off the actions alone. Here it is tied to the state: who waits for the
buffer there is who waits in the ledger, with the point of its write, and every write that passed
the name check is taken, waits or was withdrawn, and only one of these (`Producers`).
-/

namespace SyslogCollector.Store.Writer

/-- The point that a caller waits to put into the buffer. -/
def Phase.point? : Phase → Option Point
  | .pushing p => some p
  | _ => none

/-- Whether a caller has put its point into the buffer and not counted it. -/
def Phase.isPushed : Phase → Bool
  | .pushed _ => true
  | _ => false

/-- Whom the flush task releases puts no point into the buffer. -/
theorem Phase.Released.point?_eq {phase after : Phase} (h : phase.Released after) :
    after.point? = phase.point? := by
  cases h <;> rfl

theorem Phase.Released.isPushed_eq {phase after : Phase} (h : phase.Released after) :
    after.isPushed = phase.isPushed := by
  cases h <;> rfl

/-- Nobody waits to put a point into the buffer after a step of its own. -/
theorem Phase.Next.point?_eq_none {phase after : Phase} (h : phase.Next after) :
    after.point? = none := by
  cases h <;> rfl

theorem Phase.Next.isPushed_eq {phase after : Phase} (h : phase.Next after) :
    after.isPushed = phase.point?.isSome := by
  cases h <;> rfl

namespace State

variable {σ : Type} {s : State σ} {a : Action}

/-- By this action no producer takes the buffer or counts its point. -/
def Bystander (s : State σ) (a : Action) : Prop :=
  ∀ id, a = .proceed id →
    (s.phase? id).bind Phase.point? = none ∧ (s.phase? id).any Phase.isPushed = false

theorem Bystander.of_phase {id : Nat} {phase : Phase} (hphase : s.phase? id = some phase)
    (hpoint : phase.point? = none) (hpushed : phase.isPushed = false) :
    s.Bystander (.proceed id) := by
  intro c hc
  cases hc
  simp [hphase, hpoint, hpushed]

theorem Quiet.bystander (h : s.Quiet a) : s.Bystander a := by
  rintro id rfl
  cases hphase : s.phase? id with
  | none => exact ⟨rfl, rfl⟩
  | some phase =>
    cases phase with
    | pushing p => exact absurd hphase (h.push id p rfl)
    | pushed size => exact absurd hphase (h.count id size rfl)
    | _ => exact ⟨rfl, rfl⟩

theorem Turn.bystander {party : Party} (h : s.Turn a party) : s.Bystander a := by
  cases h with
  | task => exact fun _ ha => nomatch ha
  | caller hphase => exact .of_phase hphase rfl rfl

end State

namespace Ledger

/-- Later writes do not change the points of earlier ones. -/
theorem point?_follow {l : Ledger} {place : Nat} (h : place < l.accepted.length) (a : Action) :
    (l.follow a).point? place = l.point? place := by
  have happend (w : Message × Instant) :
      (l.accepted ++ [w])[place]? = l.accepted[place]? := List.getElem?_append_left h
  cases a with
  | call id c =>
    cases c with
    | write m received =>
      simp only [follow]
      split
      · exact congrArg _ (happend _)
      · rfl
    | flush | count | read | wait => rfl
  | proceed id =>
    simp only [follow, proceed]
    split
    · rfl
    · split <;> rfl
  | abandon | expire | openReader | start | stop | leave | serve | tick | work | pass => rfl

theorem proceed_of_waiting {l : Ledger} {id place : Nat} (h : l.waiting.lookup id = some place) :
    l.proceed id =
      { l with
        waiting := Numbered.erase id l.waiting
        taken := l.taken ++ [place]
        uncounted := id :: l.uncounted } := by
  simp [proceed, h]

theorem proceed_of_uncounted {l : Ledger} {id : Nat} (h : l.waiting.lookup id = none)
    (hmem : id ∈ l.uncounted) :
    l.proceed id =
      { l with uncounted := l.uncounted.filter (· != id), counted := l.counted + 1 } := by
  simp [proceed, h, hmem]

/-- Who neither waits nor has to count changes nothing. -/
theorem proceed_eq_self {l : Ledger} {id : Nat} (h : l.waiting.lookup id = none)
    (hmem : id ∉ l.uncounted) : l.proceed id = l := by
  simp [proceed, h, hmem]

/-- A place with a point is the place of a write. -/
theorem lt_of_point?_eq_some {l : Ledger} {place : Nat} {p : Point}
    (h : l.point? place = some p) : place < l.accepted.length := by
  obtain ⟨_, hw, _⟩ := Option.map_eq_some_iff.1 h
  exact (List.getElem?_eq_some_iff.1 hw).1

end Ledger

/-- How the ledger of a run and the state that it leads to hang together. -/
structure Producers {σ : Type} (l : Ledger) (s : State σ) : Prop where
  /-- Who waits for the buffer has the point of its write. -/
  waiting : ∀ id, (l.waiting.lookup id).map l.point? = ((s.phase? id).bind Phase.point?).map some
  /-- Nobody waits twice. -/
  keys : (l.waiting.map Prod.fst).Nodup
  /-- Who has not counted its point is about to. -/
  uncounted : ∀ id, id ∈ l.uncounted ↔ (s.phase? id).any Phase.isPushed = true
  /-- Every write is taken, waits or was withdrawn, and only one of these. -/
  places :
    (l.taken ++ l.waiting.map Prod.snd ++ l.withdrawn).Perm (List.range l.accepted.length)

namespace Producers

variable {σ : Type} {l : Ledger} {s : State σ}

theorem initial (start : State σ) (h : start.callers = []) : Producers {} start where
  waiting id := by simp [State.phase?, h]
  keys := .nil
  uncounted id := by simp [State.phase?, h]
  places := .nil

/-- The places of writes that were taken are places of writes. -/
theorem lt_of_mem_taken (h : Producers l s) {place : Nat} (hmem : place ∈ l.taken) :
    place < l.accepted.length := by
  have hplaces := h.places.mem_iff (a := place)
  simp only [List.mem_append, List.mem_range] at hplaces
  exact hplaces.1 (.inl (.inl hmem))

/-- A producer that waits for the buffer waits in the ledger as well. -/
theorem lookup_of_pushing (h : Producers l s) {id : Nat} {p : Point}
    (hphase : s.phase? id = some (.pushing p)) :
    ∃ place, l.waiting.lookup id = some place ∧ l.point? place = some p := by
  have hwaiting := h.waiting id
  rw [hphase] at hwaiting
  obtain ⟨place, hlookup, hpoint⟩ := Option.map_eq_some_iff.1 hwaiting
  exact ⟨place, hlookup, hpoint⟩

/-- A producer that has put its point into the buffer has not counted it. -/
theorem mem_uncounted_of_pushed (h : Producers l s) {id size : Nat}
    (hphase : s.phase? id = some (.pushed size)) :
    l.waiting.lookup id = none ∧ id ∈ l.uncounted := by
  refine ⟨Option.map_eq_none_iff.1 ((h.waiting id).trans ?_), (h.uncounted id).2 ?_⟩
  · simp [hphase, Phase.point?]
  · simp [hphase, Phase.isPushed]

/-- Who does not wait for the buffer does not wait in the ledger. -/
theorem lookup_eq_none (h : Producers l s) {id : Nat}
    (hphase : (s.phase? id).bind Phase.point? = none) : l.waiting.lookup id = none := by
  have hwaiting := h.waiting id
  rw [hphase] at hwaiting
  exact Option.map_eq_none_iff.1 hwaiting

theorem not_mem_uncounted (h : Producers l s) {id : Nat}
    (hphase : (s.phase? id).any Phase.isPushed = false) : id ∉ l.uncounted := by
  intro hmem
  simp [(h.uncounted id).1 hmem] at hphase

/-- The relation only looks at who waits for the buffer and who has not counted. -/
theorem congr {s' : State σ} (h : Producers l s)
    (hpoint : ∀ id, (s'.phase? id).bind Phase.point? = (s.phase? id).bind Phase.point?)
    (hpushed : ∀ id, (s'.phase? id).any Phase.isPushed = (s.phase? id).any Phase.isPushed) :
    Producers l s' where
  waiting id := by rw [hpoint, h.waiting]
  keys := h.keys
  uncounted id := by rw [hpushed, h.uncounted]
  places := h.places

/-! ### What a step does to one caller -/

variable {s' : State σ} {id : Nat}

/-- Whose action it is not waits for the buffer, or has put its point into it, as before. -/
theorem agree_next (B : Backend σ) (t : Tuning) (s : State σ) {a : Action} {c : Nat}
    (hown : a.caller? ≠ some c) :
    ((s.next B t a).phase? c).bind Phase.point? = (s.phase? c).bind Phase.point? ∧
      ((s.next B t a).phase? c).any Phase.isPushed = (s.phase? c).any Phase.isPushed := by
  have hreleased := State.released_next B t s hown
  generalize s.phase? c = before at hreleased ⊢
  generalize (s.next B t a).phase? c = after at hreleased ⊢
  cases hreleased with
  | none => exact ⟨rfl, rfl⟩
  | some h => exact ⟨h.point?_eq, h.isPushed_eq⟩

/-- The others wait for the buffer, or have put their points into it, as before. -/
def Unmoved (s s' : State σ) (id : Nat) : Prop :=
  ∀ c, c ≠ id → (s'.phase? c).bind Phase.point? = (s.phase? c).bind Phase.point? ∧
    (s'.phase? c).any Phase.isPushed = (s.phase? c).any Phase.isPushed

theorem unmoved_next (B : Backend σ) (t : Tuning) (s : State σ) {a : Action}
    (hown : a.caller? = some id) : Unmoved s (s.next B t a) id := by
  intro c hc
  refine agree_next B t s fun h => hc ?_
  exact Option.some.inj (h.symm.trans hown)

/-- A step that leaves the caller as it was, in these respects, leaves the relation. -/
theorem keep (h : Producers l s) (hother : Unmoved s s' id)
    (hpoint : (s'.phase? id).bind Phase.point? = (s.phase? id).bind Phase.point?)
    (hpushed : (s'.phase? id).any Phase.isPushed = (s.phase? id).any Phase.isPushed) :
    Producers l s' := by
  refine h.congr (fun c => ?_) (fun c => ?_)
  · by_cases hc : c = id
    · exact hc ▸ hpoint
    · exact (hother c hc).1
  · by_cases hc : c = id
    · exact hc ▸ hpushed
    · exact (hother c hc).2

/-- A write that passes the name check waits for the buffer. -/
theorem accept (h : Producers l s) (hother : Unmoved s s' id) {m : Message} {received : Instant}
    (hname : m.hasAppName = true) (hnew : s.phase? id = none)
    (hphase : s'.phase? id = some (.pushing (Point.ofMessage m received))) :
    Producers (l.follow (.call id (.write m received))) s' := by
  have hlookup : l.waiting.lookup id = none := h.lookup_eq_none (by simp [hnew])
  have hfollow : l.follow (.call id (.write m received)) =
      { l with
        accepted := l.accepted ++ [(m, received)]
        waiting := (id, l.accepted.length) :: l.waiting } := by
    simp [Ledger.follow, hname]
  rw [hfollow]
  refine ⟨fun c => ?_, ?_, fun c => ?_, ?_⟩
  · by_cases hc : c = id
    · subst hc
      simp [hphase, Phase.point?, Ledger.point?]
    · have hb : (c == id) = false := by simp [hc]
      rw [List.lookup_cons, hb, (hother c hc).1, ← h.waiting c]
      cases hplace : l.waiting.lookup c with
      | none => rfl
      | some place =>
        -- the place is one of an earlier write, so its point is still there
        have hwaiting := h.waiting c
        rw [hplace] at hwaiting
        obtain ⟨p, -, hp⟩ := Option.map_eq_some_iff.1 hwaiting.symm
        have hlt := Ledger.lt_of_point?_eq_some hp.symm
        have hsame := Ledger.point?_follow hlt (.call id (.write m received))
        rw [hfollow] at hsame
        exact congrArg some hsame
  · rw [List.map_cons, List.nodup_cons]
    exact ⟨Numbered.lookup_eq_none_iff_not_mem.1 hlookup, h.keys⟩
  · by_cases hc : c = id
    · subst hc
      have hmem : c ∉ l.uncounted := h.not_mem_uncounted (by simp [hnew])
      simp [hphase, Phase.isPushed, hmem]
    · rw [(hother c hc).2]
      exact h.uncounted c
  · -- the new place is the greatest
    simp only [List.map_cons, List.length_append, List.length_singleton, List.range_succ]
    refine List.Perm.trans ?_ ((h.places.cons _).trans (List.perm_append_singleton _ _).symm)
    simp only [List.append_assoc, List.cons_append]
    exact List.perm_middle

/-- A producer that takes the buffer takes it in the ledger. -/
theorem take (h : Producers l s) (hother : Unmoved s s' id) {p : Point} {size : Nat}
    (hbefore : s.phase? id = some (.pushing p)) (hphase : s'.phase? id = some (.pushed size)) :
    Producers (l.proceed id) s' := by
  obtain ⟨place, hlookup, hpoint⟩ := h.lookup_of_pushing hbefore
  rw [Ledger.proceed_of_waiting hlookup]
  refine ⟨fun c => ?_, ?_, fun c => ?_, ?_⟩
  · by_cases hc : c = id
    · subst hc
      simp [hphase, Phase.point?]
    · rw [Numbered.lookup_erase_of_ne hc, (hother c hc).1]
      exact h.waiting c
  · exact h.keys.sublist (List.filter_sublist.map _)
  · by_cases hc : c = id
    · subst hc
      simp [hphase, Phase.isPushed]
    · simp only [List.mem_cons, hc, false_or, (hother c hc).2]
      exact h.uncounted c
  · -- the place moves from those that wait to those that are taken
    have hperm := (Numbered.perm_cons_erase h.keys hlookup).map Prod.snd
    refine List.Perm.trans ?_ h.places
    refine List.Perm.append_right _ ?_
    rw [List.append_assoc]
    exact (List.Perm.append_left _ hperm.symm)

/-- A producer that counts its point counts it in the ledger. -/
theorem count (h : Producers l s) (hother : Unmoved s s' id) {size : Nat} {phase : Phase}
    (hbefore : s.phase? id = some (.pushed size)) (hphase : s'.phase? id = some phase)
    (hpoint : phase.point? = none) (hpushed : phase.isPushed = false) :
    Producers (l.proceed id) s' := by
  obtain ⟨hlookup, hmem⟩ := h.mem_uncounted_of_pushed hbefore
  rw [Ledger.proceed_of_uncounted hlookup hmem]
  refine ⟨fun c => ?_, h.keys, fun c => ?_, h.places⟩
  · by_cases hc : c = id
    · subst hc
      simp [hphase, hpoint, hlookup]
    · rw [(hother c hc).1]
      exact h.waiting c
  · by_cases hc : c = id
    · subst hc
      simp [hphase, hpushed]
    · rw [(hother c hc).2, ← h.uncounted c]
      simp [hc]

/-- A caller that goes away waits no more; its write is withdrawn if it waited. -/
theorem abandon (h : Producers l s) (hother : Unmoved s s' id) (hphase : s'.phase? id = none) :
    Producers (l.abandon id) s' := by
  refine ⟨fun c => ?_, h.keys.sublist (List.filter_sublist.map _), fun c => ?_, ?_⟩
  · by_cases hc : c = id
    · subst hc
      simp [Ledger.abandon, hphase]
    · simp only [Ledger.abandon, Numbered.lookup_erase_of_ne hc]
      rw [(hother c hc).1]
      exact h.waiting c
  · by_cases hc : c = id
    · subst hc
      simp [Ledger.abandon, hphase]
    · rw [(hother c hc).2, ← h.uncounted c]
      simp [Ledger.abandon, hc]
  · refine List.Perm.trans ?_ h.places
    cases hlookup : l.waiting.lookup id with
    | none =>
      have herase : Numbered.erase id l.waiting = l.waiting :=
        Numbered.erase_eq_self (Numbered.lookup_eq_none_iff_not_mem.1 hlookup)
      simp [Ledger.abandon, hlookup, herase]
    | some place =>
      -- the place moves from those that wait to those that were withdrawn
      have hperm := (Numbered.perm_cons_erase h.keys hlookup).map Prod.snd
      simp only [Ledger.abandon, hlookup, Option.toList_some, List.append_assoc]
      refine List.Perm.append_left _ ?_
      refine List.Perm.trans ?_ (List.Perm.append_right _ hperm.symm)
      simp only [List.map_cons, List.cons_append]
      rw [← List.append_assoc]
      exact (List.perm_append_singleton _ _)

/-! ### A whole step -/

theorem next_call {B : Backend σ} {t : Tuning} (h : Producers l s) {call : Call}
    (hnew : s.phase? id = none) :
    Producers (l.follow (.call id call)) (s.next B t (.call id call)) := by
  have hother : Unmoved s (s.next B t (.call id call)) id := unmoved_next B t s rfl
  obtain ⟨phase, hphase, hfirst⟩ := s.first_begin id call
  have hkeep (hpoint : phase.point? = none) (hpushed : phase.isPushed = false) :
      Producers l (s.next B t (.call id call)) := by
    refine h.keep hother ?_ ?_ <;> simp only [State.next, hphase, hnew]
    · exact hpoint
    · exact hpushed
  -- only a write that passes the name check has anything to do with the buffer
  cases hfirst with
  | pushing received hname => exact h.accept hother hname hnew hphase
  | rejected received hname =>
    simp only [Ledger.follow, hname, Bool.false_eq_true, if_false]
    exact hkeep rfl rfl
  | flushing | counting | querying | read | waiting | waited => exact hkeep rfl rfl

/-- No point is taken or counted unless a producer takes the buffer or counts. -/
theorem follow_eq (h : Producers l s) {a : Action} (hbystander : s.Bystander a) :
    (l.follow a).taken = l.taken ∧ (l.follow a).counted = l.counted := by
  cases a with
  | call id c =>
    cases c with
    | write m received =>
      simp only [Ledger.follow]
      split <;> exact ⟨rfl, rfl⟩
    | flush | count | read | wait => exact ⟨rfl, rfl⟩
  | proceed id =>
    obtain ⟨hpoint, hpushed⟩ := hbystander id rfl
    have hself := Ledger.proceed_eq_self (h.lookup_eq_none hpoint) (h.not_mem_uncounted hpushed)
    simp [Ledger.follow, hself]
  | abandon | expire | openReader | start | stop | leave | serve | tick | work | pass =>
    exact ⟨rfl, rfl⟩

/-- The points taken so far stay what they are. -/
theorem map_point?_follow (h : Producers l s) (a : Action) :
    l.taken.map (l.follow a).point? = l.taken.map l.point? :=
  List.map_congr_left fun _ hmem => Ledger.point?_follow (h.lt_of_mem_taken hmem) a

/-- The next step of a caller that neither puts a point into the buffer nor counts one. -/
theorem proceed_eq_self (h : Producers l s) {phase : Phase} (hphase : s.phase? id = some phase)
    (hpoint : phase.point? = none) (hpushed : phase.isPushed = false) : l.proceed id = l :=
  Ledger.proceed_eq_self (h.lookup_eq_none (by simp [hphase, hpoint]))
    (h.not_mem_uncounted (by simp [hphase, hpushed]))

theorem next_proceed {B : Backend σ} {t : Tuning} (h : Producers l s)
    (henabled : s.enabled (.proceed id) = true) :
    Producers (l.proceed id) (s.next B t (.proceed id)) := by
  have hother : Unmoved s (s.next B t (.proceed id)) id := unmoved_next B t s rfl
  obtain ⟨phase, after, hphase, hstep, hnext⟩ := State.exists_next_proceed B t henabled
  have hkeep (hpoint : phase.point? = none) (hpushed : phase.isPushed = false) :
      Producers (l.proceed id) (s.next B t (.proceed id)) := by
    rw [h.proceed_eq_self hphase hpoint hpushed]
    refine h.keep hother ?_ ?_ <;> simp only [hstep, hphase, Option.bind_some, Option.any_some]
    · rw [hnext.point?_eq_none, hpoint]
    · rw [hnext.isPushed_eq, hpoint, hpushed]
      rfl
  -- the two steps that the ledger follows, and all others
  cases phase with
  | pushing p =>
    cases hnext with
    | pushed _ size => exact h.take hother hphase hstep
  | pushed size => exact h.count hother hphase hstep hnext.point?_eq_none hnext.isPushed_eq
  | requesting | admitted | awaiting | flushing | querying | counting | waiting | returned =>
    exact hkeep rfl rfl

/-- The ledger and the state hang together after every step. -/
theorem next {B : Backend σ} {t : Tuning} {a : Action} (h : Producers l s)
    (henabled : s.enabled a = true) : Producers (l.follow a) (s.next B t a) := by
  cases a with
  | call id call =>
    simp only [State.enabled, Bool.and_eq_true, Option.isNone_iff_eq_none] at henabled
    exact h.next_call henabled.1
  | proceed id => exact h.next_proceed henabled
  | expire id =>
    -- only who waits for a flush has a deadline, and its point is counted
    obtain ⟨deadline, hdeadline, -⟩ := (Option.any_eq_true _ _).1 henabled
    obtain ⟨phase, hphase, hphasedeadline⟩ := Option.bind_eq_some_iff.1 hdeadline
    have hafter := State.phase?_expire_self t s id
    refine h.keep (unmoved_next B t s rfl) ?_ ?_ <;> simp only [State.next, hafter, hphase]
    · cases phase <;> first | rfl | cases hphasedeadline
    · cases phase <;> first | rfl | cases hphasedeadline
  | abandon id => exact h.abandon (unmoved_next B t s rfl) (State.phase?_abandon_self s id)
  | openReader | start | stop | leave | serve | tick | work | pass =>
    exact h.congr (fun c => (agree_next B t s (by simp [Action.caller?])).1)
      (fun c => (agree_next B t s (by simp [Action.caller?])).2)

/-- To note a call to the store that has returned makes no difference to the producers. -/
theorem record {B : Backend σ} {t : Tuning} {a : Action} (h : Producers l s)
    (henabled : s.enabled a = true) : Producers (l.record s a) (s.next B t a) :=
  have hfollow := h.next (B := B) (t := t) henabled
  ⟨hfollow.waiting, hfollow.keys, hfollow.uncounted, hfollow.places⟩

end Producers

end SyslogCollector.Store.Writer
