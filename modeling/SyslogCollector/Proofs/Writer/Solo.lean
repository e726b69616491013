import SyslogCollector.Proofs.Writer.Ledger
/-!
# Runs of a single producer

One producer writes, every time after its last write has returned (`Solo`). No periodic flush is
due, nobody else flushes or reads, and no forced flush is given up. `Settled` says what such a run
comes to when each run of so many points makes one batch.
-/

namespace SyslogCollector.Store

/-! ## Runs of equal length -/

section

variable {α : Type} {mark : Nat} {pieces : List (List α)}

theorem length_flatten_of_forall_length (h : ∀ piece ∈ pieces, piece.length = mark) :
    pieces.flatten.length = pieces.length * mark := by
  induction pieces with
  | nil => simp
  | cons piece rest ih =>
    rw [List.flatten_cons, List.length_append, h piece List.mem_cons_self,
      ih fun p hp => h p (List.mem_cons_of_mem _ hp), List.length_cons, Nat.succ_mul, Nat.add_comm]

theorem drop_flatten_append (h : ∀ piece ∈ pieces, piece.length = mark) (rest : List α) {i : Nat}
    (hi : i ≤ pieces.length) :
    (pieces.flatten ++ rest).drop (i * mark) = (pieces.drop i).flatten ++ rest := by
  induction i generalizing pieces with
  | zero => rw [Nat.zero_mul, List.drop_zero, List.drop_zero]
  | succ i ih =>
    cases pieces with
    | nil => exact absurd hi (Nat.not_succ_le_zero i)
    | cons piece more =>
      have hpiece : piece.length = mark := h piece List.mem_cons_self
      rw [Nat.succ_mul, Nat.add_comm, ← List.drop_drop, List.flatten_cons, List.append_assoc,
        List.drop_left' hpiece, List.drop_succ_cons]
      exact ih (fun p hp => h p (List.mem_cons_of_mem _ hp)) (Nat.le_of_succ_le_succ hi)

/-- The full runs of so many items. -/
def fullRuns (mark : Nat) (items : List α) : List (List α) :=
  (List.range (items.length / mark)).map fun i => (items.drop (i * mark)).take mark

/-- What is behind the full runs. -/
def leftOver (mark : Nat) (items : List α) : List α :=
  items.drop (items.length / mark * mark)

/-- Pieces of one length with fewer items behind them are the full runs. -/
theorem eq_fullRuns (h : ∀ piece ∈ pieces, piece.length = mark) {rest items : List α}
    (hitems : pieces.flatten ++ rest = items) (hrest : rest.length < mark) :
    pieces.length = items.length / mark ∧ pieces = fullRuns mark items ∧
      rest = leftOver mark items := by
  subst hitems
  have hcount : (pieces.flatten ++ rest).length / mark = pieces.length := by
    rw [List.length_append, length_flatten_of_forall_length h, Nat.add_comm,
      Nat.add_mul_div_right _ _ (Nat.zero_lt_of_lt hrest), Nat.div_eq_of_lt hrest, Nat.zero_add]
  refine ⟨hcount.symm, ?_, ?_⟩
  -- the pieces before this one are what is dropped, as they have one length
  · have hlength : pieces.length = (fullRuns mark (pieces.flatten ++ rest)).length := by
      rw [fullRuns, List.length_map, List.length_range, hcount]
    refine List.ext_getElem hlength fun i hi _ => ?_
    have hpiece : pieces[i].length = mark := h _ (List.getElem_mem hi)
    simp only [fullRuns, List.getElem_map, List.getElem_range]
    rw [drop_flatten_append h rest (Nat.le_of_lt hi), List.drop_eq_getElem_cons hi,
      List.flatten_cons, List.append_assoc, List.take_left' hpiece]
  · rw [leftOver, hcount, drop_flatten_append h rest (Nat.le_refl _), List.drop_length]
    rfl

end

/-- A store after some batches. -/
def Backend.after {σ : Type} (B : Backend σ) (store : σ) (batches : List (List Point)) : σ :=
  batches.foldl (fun current batch => (B.submit current batch).2) store

/-- The store answers every batch, in whatever state it is. -/
def Backend.AnswersAll {σ : Type} (B : Backend σ) : Prop :=
  ∀ current batch, (B.submit current batch).1 ≠ .never

/-- What a write at a place has to return when so many points make a batch: the answer to the batch
that it completes, if it completes one. -/
def verdict (mark : Nat) (j : Journal) (place : Nat) : Option (Except SinkError Unit) :=
  if (place + 1) % mark = 0 then j[place / mark]?.bind (·.answer.result?) else some (.ok ())

/-- Later batches do not change what a write has to return. -/
theorem verdict_append {mark place : Nat} {j : Journal} {result : Except SinkError Unit}
    (h : verdict mark j place = some result) (later : Journal) :
    verdict mark (j ++ later) place = some result := by
  unfold verdict at h ⊢
  split at h
  · rename_i hlast
    rw [if_pos hlast]
    obtain ⟨c, hc, hresult⟩ := Option.bind_eq_some_iff.1 h
    -- the batch is there already, so later ones stand behind it
    obtain ⟨hlt, -⟩ := List.getElem?_eq_some_iff.1 hc
    rw [List.getElem?_append_left hlt, hc]
    exact hresult
  · rename_i hlast
    rw [if_neg hlast]
    exact h

namespace Writer

/-! ## Runs of one producer -/

/-- A write of a message that names an application, with the number of its caller. -/
structure Write where
  /-- The number of the caller. -/
  id : Nat
  /-- The message. -/
  message : Message
  /-- When it was received. -/
  received : Instant
  /-- It names an application. -/
  named : message.hasAppName = true

namespace Write

/-- The call. -/
def call (w : Write) : Call := .write w.message w.received

/-- The point that is stored. -/
def point (w : Write) : Point := Point.ofMessage w.message w.received

end Write

/-- How many points make a batch: a mark of 0 is reached by every point, as a mark of 1 is. -/
def Tuning.threshold (t : Tuning) : Nat := max t.highWaterMark 1

/-- Whether a caller or the flush task goes on with what is to be done by an action, without a
periodic flush and without giving up. -/
def Action.goesOn : Action → Bool
  | .proceed _ | .serve | .work => true
  | _ => false

namespace State

variable {σ : Type}

/-- A new writer, started or not. -/
def launched (B : Backend σ) (t : Tuning) (store : σ) (started : Bool) : State σ :=
  let s : State σ := { store }
  if started then s.next B t .start else s

/-- All calls have returned. -/
def Resting (s : State σ) : Prop :=
  ∀ id phase, s.phase? id = some phase → ∃ outcome, phase = .returned outcome

/-- After so many steps at most all calls have returned, whoever goes on, and until then somebody
can. -/
def RestsWithin (B : Backend σ) (t : Tuning) : Nat → State σ → Prop
  | 0, s => s.Resting
  | n + 1, s =>
    s.Resting ∨ (∃ a : Action, a.goesOn = true ∧ s.enabled a = true) ∧
      ∀ a : Action, a.goesOn = true → s.enabled a = true → RestsWithin B t n (s.next B t a)

theorem resting_of_all {s : State σ}
    (h : s.callers.all (fun c => c.2 matches .returned _) = true) : s.Resting := by
  intro id phase hphase
  have hreturned := List.all_eq_true.1 h _ (Numbered.mem_of_lookup_eq_some hphase)
  cases phase with
  | returned outcome => exact ⟨outcome, rfl⟩
  | _ => cases hreturned

theorem Resting.restsWithin {B : Backend σ} {t : Tuning} {s : State σ} (h : s.Resting) (n : Nat) :
    s.RestsWithin B t n := by
  cases n with
  | zero => exact h
  | succ n => exact .inl h

/-- What goes on takes no time. -/
theorem now_next_of_goesOn {a : Action} (B : Backend σ) (t : Tuning) (s : State σ)
    (hgoes : a.goesOn = true) : (s.next B t a).now = s.now := by
  refine now_next B t s fun nanos => ?_
  rintro rfl
  cases hgoes

end State

/-- A run in which one producer makes these writes, each when the one before has returned; the last
one was called at this moment. Nothing else is done but what follows from the writes: no periodic
flush, no other call, and no forced flush is given up. -/
inductive Solo {σ : Type} (B : Backend σ) (t : Tuning) (start : State σ) :
    List Write → Moment → State σ → Prop
  | refl : Solo B t start [] start.now start
  | call {ws : List Write} {since : Moment} {s : State σ} {w : Write} :
      Solo B t start ws since s → s.Resting → s.enabled (.call w.id w.call) = true →
      Solo B t start (ws ++ [w]) s.now (s.next B t (.call w.id w.call))
  | goOn {ws : List Write} {since : Moment} {s : State σ} {a : Action} :
      Solo B t start ws since s → a.goesOn = true → s.enabled a = true →
      Solo B t start ws since (s.next B t a)
  | pass {ws : List Write} {since : Moment} {s : State σ} (nanos : Nat) :
      Solo B t start ws since s → Solo B t start ws since (s.next B t (.pass nanos))

/-- The last write was called before now. -/
theorem Solo.since_le {σ : Type} {B : Backend σ} {t : Tuning} {start s : State σ} {ws : List Write}
    {since : Moment} (h : Solo B t start ws since s) : since ≤ s.now := by
  induction h with
  | refl => exact Nat.le_refl _
  | @call _ _ s w _ _ _ _ =>
    obtain ⟨_, _, _, hbegin⟩ := s.exists_begin w.id w.call
    simp only [State.next, hbegin]
    exact Nat.le_refl _
  | goOn _ hgoes _ ih =>
    rw [State.now_next_of_goesOn _ _ _ hgoes]
    exact ih
  | pass nanos _ ih => exact Nat.le_trans ih (Nat.le_add_right _ nanos)

/-- What goes on with a write and can be carried out goes on with a run. -/
theorem Solo.of_play {σ : Type} {B : Backend σ} {t : Tuning} {start s s' : State σ}
    {ws : List Write} {since : Moment} (h : Solo B t start ws since s)
    (l : Ledger) (actions : List Action) (hgoes : actions.all Action.goesOn = true)
    (hplay : (play B t actions l s).map Prod.snd = some s') : Solo B t start ws since s' := by
  induction actions generalizing l s with
  | nil =>
    cases hplay
    exact h
  | cons a rest ih =>
    rw [List.all_cons, Bool.and_eq_true] at hgoes
    unfold play at hplay
    split at hplay
    · rename_i henabled
      exact ih (h.goOn hgoes.1 henabled) _ hgoes.2 hplay
    · cases hplay

/-- What the writes of one producer have come to when each run of so many points made one batch. The
store has kept a journal, and was in this state at first. -/
structure Settled {σ : Type} (B : Backend σ) (mark : Nat) (store : σ) (ws : List Write)
    (s : State (σ × Journal)) : Prop where
  /-- So many batches were handed to the store, -/
  count : s.store.2.length = ws.length / mark
  /-- and these are the full runs of the points. -/
  batches : s.store.2.map Submission.batch = fullRuns mark (ws.map Write.point)
  /-- The store is where these batches lead it. -/
  store : s.store = B.journaled.after (store, []) (fullRuns mark (ws.map Write.point))
  /-- The points behind them are in the buffer, -/
  buffer : s.buffer.toList = leftOver mark (ws.map Write.point)
  size : s.buffer.size = ws.length % mark
  /-- fewer than a batch has. -/
  below : s.buffer.size < mark
  /-- Every batch was forced. -/
  forced : s.metrics.forcedFlushes = s.store.2.length
  /-- The write that completes a batch returned what the store answered, and all others `Ok`. -/
  returned : ∀ i w, ws[i]? = some w → ∃ result,
    s.phase? w.id = some (.returned (.done result)) ∧ verdict mark s.store.2 i = some result

end Writer

end SyslogCollector.Store
