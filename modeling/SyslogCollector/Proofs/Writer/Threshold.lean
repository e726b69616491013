import Mathlib
import SyslogCollector.Proofs.Writer.Stations
/-!
# The batches of a single producer

Whether the flush task was started or not: in a run of one producer each run of so many points as
the high-water mark says makes one batch, and the write that completes it returns what the store
answered (`threshold_flushes_exact`). The invariant is `Course`: all writes have returned and the
buffer has fewer points than a batch, or the last write is at one of its stations.
-/

namespace SyslogCollector.Store.Writer

variable {σ : Type} {B : Backend σ} {t : Tuning} {store : σ} {points : List Point} {started : Bool}
  {since : Moment} {w : Write} {s : State (σ × Journal)} {a : Action} {n : Nat}

theorem Rested.resting (h : Rested B t store points started s) : s.Resting := h.still.returned

/-- A write comes to its end within the steps that are left. -/
theorem Station.restsWithin (h : Station B t store points since w s started n)
    (hnow : since ≤ s.now) (hanswers : B.AnswersAll) {k : Nat} (hk : n ≤ k) :
    s.RestsWithin B.journaled t k := by
  -- by induction on the bound, as every step lowers the number of the station
  induction k generalizing n s with
  | zero => exact absurd h.pos (Nat.not_lt.2 hk)
  | succ k ih =>
    refine .inr ⟨h.exists_goesOn, fun a hgoes henabled => ?_⟩
    cases h.next hnow hanswers hgoes henabled with
    | nearer hm hstation =>
      refine ih hstation ?_ (Nat.le_of_lt_succ (Nat.lt_of_lt_of_le hm hk))
      rw [State.now_next_of_goesOn _ _ _ hgoes]
      exact hnow
    | arrived hrested => exact hrested.resting.restsWithin k

/-- What a write has returned stays. -/
theorem Replied.next {mark place : Nat} (h : Replied mark place w s) (henabled : s.enabled a = true)
    (habandon : a ≠ .abandon w.id) : Replied mark place w (s.next B.journaled t a) := by
  obtain ⟨result, hphase, hverdict⟩ := h
  refine ⟨result, State.phase?_next_of_returned hphase henabled habandon, ?_⟩
  rcases State.journal_next (B := B) (t := t) henabled with hsame | ⟨-, f, -, hmore⟩
  · rw [hsame]
    exact hverdict
  · rw [hmore]
    exact verdict_append hverdict _

/-- All these writes have returned what they have to. -/
def AllReplied (mark : Nat) (ws : List Write) (s : State (σ × Journal)) : Prop :=
  ∀ i w, ws[i]? = some w → Replied mark i w s

theorem AllReplied.next {mark : Nat} {ws : List Write} (h : AllReplied mark ws s)
    (henabled : s.enabled a = true) (habandon : ∀ id, a ≠ .abandon id) :
    AllReplied mark ws (s.next B.journaled t a) :=
  fun i w hw => (h i w hw).next henabled (habandon w.id)

theorem AllReplied.concat {mark : Nat} {ws : List Write} (h : AllReplied mark ws s)
    (hlast : Replied mark ws.length w s) : AllReplied mark (ws ++ [w]) s := by
  intro i other hother
  -- the place is one of the earlier writes, or that of the last one
  rcases Nat.lt_or_ge i ws.length with hlt | hge
  · rw [List.getElem?_append_left hlt] at hother
    exact h i other hother
  · obtain ⟨hi, -⟩ := List.getElem?_eq_some_iff.1 hother
    rw [List.length_append, List.length_singleton] at hi
    obtain rfl : i = ws.length := by omega
    rw [List.getElem?_append_right hge, Nat.sub_self, List.getElem?_cons_zero] at hother
    cases hother
    exact hlast

/-- How a run of one producer stands: all writes have returned, or the last one is under way. -/
inductive Course (B : Backend σ) (t : Tuning) (store : σ) (started : Bool) (since : Moment)
    (s : State (σ × Journal)) : List Write → Prop
  | rested {ws : List Write} (hrested : Rested B t store (ws.map Write.point) started s)
      (hreplied : AllReplied t.threshold ws s) : Course B t store started since s ws
  | busy {earlier : List Write} {w : Write} {n : Nat}
      (hstation : Station B t store (earlier.map Write.point) since w s started n)
      (hreplied : AllReplied t.threshold earlier s) :
      Course B t store started since s (earlier ++ [w])

namespace Course

variable {ws : List Write}

theorem initial (B : Backend σ) (t : Tuning) (store : σ) (started : Bool) :
    Course B t store started (State.launched B.journaled t (store, []) started).now
      (State.launched B.journaled t (store, []) started) [] := by
  have hfilled := Filled.initial B t.threshold store
  cases started <;>
    exact .rested ⟨⟨.nil, nofun⟩, rfl, hfilled, t.threshold_pos, rfl⟩ (fun _ _ h => nomatch h)

theorem rested_of_resting (h : Course B t store started since s ws) (hrest : s.Resting) :
    Rested B t store (ws.map Write.point) started s ∧ AllReplied t.threshold ws s := by
  cases h with
  | rested hrested hreplied => exact ⟨hrested, hreplied⟩
  | busy hstation => exact absurd hrest hstation.not_resting

/-- A write begins. -/
theorem call (h : Course B t store started since s ws) (hrest : s.Resting)
    (henabled : s.enabled (.call w.id w.call) = true) :
    Course B t store started s.now (s.next B.journaled t (.call w.id w.call)) (ws ++ [w]) := by
  obtain ⟨hrested, hreplied⟩ := h.rested_of_resting hrest
  have hbegin : s.next B.journaled t (.call w.id w.call) = s.move w.id (.pushing w.point) := by
    simp only [State.next, Write.call, State.begin, w.named, if_true]
    rfl
  have hstation : Station B t store (ws.map Write.point) s.now w
      (s.next B.journaled t (.call w.id w.call)) started 7 := by
    rw [hbegin]
    exact .pushing (.of_still hrested.still _ _) hrested.desk
      ⟨hrested.short.filled, hrested.short.size, hrested.short.forced⟩
  exact .busy hstation (hreplied.next henabled fun _ => Action.noConfusion)

theorem goOn (h : Course B t store started since s ws) (hnow : since ≤ s.now)
    (hanswers : B.AnswersAll) (hgoes : a.goesOn = true)
    (henabled : s.enabled a = true) :
    Course B t store started since (s.next B.journaled t a) ws := by
  have habandon : ∀ id, a ≠ .abandon id := by
    rintro id rfl
    cases hgoes
  cases h with
  | rested hrested =>
    -- with nothing to do nobody goes on
    have hrequests : s.requests = [] := congrArg Desk.requests hrested.desk
    cases a with
    | proceed id =>
      obtain ⟨phase, hphase, hcan⟩ := (Option.any_eq_true _ _).1 henabled
      obtain ⟨outcome, rfl⟩ := hrested.still.returned id phase hphase
      cases hcan
    | serve => simp [State.enabled, hrequests] at henabled
    | work =>
      rcases Desk.task_atRest hrested.desk with htask | htask <;>
        simp [State.enabled, State.canWork, htask] at henabled
    | call | expire | abandon | openReader | start | stop | leave | tick | pass => cases hgoes
  | busy hstation hreplied =>
    have hreplied' := hreplied.next (B := B) (t := t) henabled habandon
    cases hstation.next hnow hanswers hgoes henabled with
    | nearer _ hstation' => exact .busy hstation' hreplied'
    | arrived hrested hlast =>
      rw [List.length_map] at hlast
      refine .rested ?_ (hreplied'.concat hlast)
      rw [List.map_append, List.map_singleton]
      exact hrested

theorem pass (h : Course B t store started since s ws) (nanos : Nat) :
    Course B t store started since (s.next B.journaled t (.pass nanos)) ws := by
  have hreplied {ws' : List Write} (h' : AllReplied t.threshold ws' s) :
      AllReplied t.threshold ws' (s.next B.journaled t (.pass nanos)) :=
    h'.next rfl fun _ => Action.noConfusion
  cases h with
  | rested hrested hall =>
    exact .rested ⟨hrested.still, hrested.desk,
      ⟨hrested.short.filled, hrested.short.size, hrested.short.forced⟩⟩ (hreplied hall)
  | busy hstation hall => exact .busy (hstation.pass nanos) (hreplied hall)

end Course

theorem Solo.course {ws : List Write} (hanswers : B.AnswersAll)
    (h : Solo B.journaled t (.launched B.journaled t (store, []) started) ws since s) :
    Course B t store started since s ws := by
  induction h with
  | refl => exact .initial B t store started
  | call _ hrest henabled ih => exact ih.call hrest henabled
  | goOn hrun hgoes henabled ih => exact ih.goOn hrun.since_le hanswers hgoes henabled
  | pass nanos _ ih => exact ih.pass nanos

theorem Rested.settled {ws : List Write} (h : Rested B t store (ws.map Write.point) started s)
    (hreplied : AllReplied t.threshold ws s) : Settled B t.threshold store ws s := by
  have hfilled := h.short.filled
  have hlength := hfilled.length_eq
  rw [List.length_map] at hlength
  obtain ⟨hcount, hbatches, hbuffer⟩ := eq_fullRuns hfilled.length_batch hfilled.flatten_append
    (by rw [Array.length_toList]; exact h.short.size)
  rw [List.length_map, List.length_map] at hcount
  refine ⟨hcount, hbatches, ?_, hbuffer, ?_, h.short.size, h.short.forced, hreplied⟩
  · rw [← hbatches]
    exact hfilled.store
  · rw [hlength, Nat.add_comm, Nat.add_mul_mod_self_right, Nat.mod_eq_of_lt h.short.size]

/-- Threshold flushing is exact, and the same with and without the flush task. For every run in
which one producer writes, with no periodic flush, nobody else at the writer and a store that
answers every batch, and whether the writer was started or not: whenever all writes have returned,
each run of as many points as the threshold made one batch, in order, the points behind them are in
the buffer, every batch was forced, and a write that completed a batch returned what the store
answered to it, every other one `Ok` (`Settled`). From every state of the run the last write returns
within 7 steps, whoever takes them. It cannot be given up before the time for a forced flush is over
since its call. -/
theorem threshold_flushes_exact {ws : List Write} (hanswers : B.AnswersAll)
    (h : Solo B.journaled t (.launched B.journaled t (store, []) started) ws since s) :
    (s.Resting → Settled B t.threshold store ws s) ∧ s.RestsWithin B.journaled t 7 ∧
      ∀ id, s.enabled (.expire id) = true → since + t.flushTimeout.nanos ≤ s.now := by
  have hcourse := h.course hanswers
  refine ⟨fun hrest => ?_, ?_, fun id hexpire => ?_⟩
  · obtain ⟨hrested, hreplied⟩ := hcourse.rested_of_resting hrest
    exact hrested.settled hreplied
  · cases hcourse with
    | rested hrested => exact hrested.resting.restsWithin 7
    | busy hstation => exact hstation.restsWithin h.since_le hanswers hstation.le
  · cases hcourse with
    | rested hrested =>
      -- who has returned has no deadline
      obtain ⟨deadline, hbind, -⟩ := (Option.any_eq_true _ _).1 hexpire
      obtain ⟨phase, hphase, hsome⟩ := Option.bind_eq_some_iff.1 hbind
      obtain ⟨outcome, rfl⟩ := hrested.resting id phase hphase
      cases hsome
    | busy hstation => exact hstation.deadline_le hexpire

/-- A started writer with a mark of 2 and a store that refuses every batch: the second of two writes
completes a batch and is told so. -/
theorem threshold_flushes_exact_refused :
    ∃ (B : Backend MemoryStore) (ws : List Write) (since : Moment)
      (s : State (MemoryStore × Journal)),
      B.AnswersAll ∧
      Solo B.journaled { highWaterMark := 2 }
        (.launched B.journaled { highWaterMark := 2 } ({}, []) true) ws since s ∧
      s.Resting ∧ Settled B 2 {} ws s ∧
      s.callers = [(0, .returned (.done (.ok ()))),
        (1, .returned (.done (.error (.write "down"))))] := by
  let B : Backend MemoryStore :=
    { Backend.memory with submit := fun current _ => (.refused (.write "down"), current) }
  let t : Tuning := { highWaterMark := 2 }
  let w (id : Nat) : Write :=
    { id, received := ⟨0, 0⟩, named := rfl,
      message :=
        { timestamp := ⟨0, 0⟩, hostname := "host", severity := .info, facility := .user,
          appName := "a", body := "text", dialect := .rfc5424 } }
  have hanswers : B.AnswersAll := fun _ _ => nofun
  let s₁ : State (MemoryStore × Journal) :=
    { store := ({}, []), buffer := #[(w 0).point], running := true, task := .idle,
      nextTick := 1000000000, callers := [(0, .returned (.done (.ok ())))],
      metrics := { buffered := 1 } }
  let s₂ : State (MemoryStore × Journal) :=
    { store := ({}, [⟨[(w 0).point, (w 1).point], .refused (.write "down")⟩]), running := true,
      task := .idle, nextTick := 1000000000,
      callers := [(0, .returned (.done (.ok ()))),
        (1, .returned (.done (.error (.write "down"))))],
      metrics :=
        { buffered := 2, dropped := 2, flushes := 1, flushErrors := 1, forcedFlushes := 1 } }
  have hfirst : Solo B.journaled t (.launched B.journaled t ({}, []) true) [w 0] 0 s₁ := by
    refine (Solo.refl.call (State.resting_of_all rfl) rfl).of_play {}
      [.proceed 0, .proceed 0] rfl ?_
    cbv
  have hsecond : Solo B.journaled t (.launched B.journaled t ({}, []) true) [w 0, w 1] 0 s₂ := by
    refine (hfirst.call (State.resting_of_all rfl) rfl).of_play {}
      [.proceed 1, .proceed 1, .proceed 1, .proceed 1, .serve, .work, .work] rfl ?_
    cbv
  have hresting : s₂.Resting := State.resting_of_all rfl
  obtain ⟨hsettled, -⟩ := threshold_flushes_exact hanswers hsecond
  exact ⟨B, _, _, s₂, hanswers, hsecond, hresting, hsettled hresting, rfl⟩

end SyslogCollector.Store.Writer
