import SyslogCollector.Proofs.Writer.Batches
import SyslogCollector.Proofs.Writer.Solo
/-!
# The way of a write through the writer

A write of a single producer goes through a few stations (`Station`), each with what the callers,
the flush task, the requests, the buffer and the store then are. They are numbered by how many steps
are left at most, and every step leads to a lower number or to the end of the write
(`Station.next`). The forced flush goes through a request where the flush task was started, and is
made by the producer itself where it was not.
-/

namespace SyslogCollector.Store.Writer

/-! ## The callers -/

/-- All callers have numbers of their own, and this one stands in this phase while all others have
returned. -/
structure Scene (id : Nat) (phase : Phase) (callers : List (Nat × Phase)) : Prop where
  nodup : (callers.map Prod.fst).Nodup
  own : callers.lookup id = some phase
  others : ∀ c other, c ≠ id → callers.lookup c = some other → ∃ outcome, other = .returned outcome

/-- All callers have numbers of their own and have returned. -/
structure Still (callers : List (Nat × Phase)) : Prop where
  nodup : (callers.map Prod.fst).Nodup
  returned : ∀ c phase, callers.lookup c = some phase → ∃ outcome, phase = .returned outcome

namespace Scene

variable {id : Nat} {phase : Phase} {callers : List (Nat × Phase)}

theorem assign (h : Scene id phase callers) (after : Phase) :
    Scene id after (Numbered.assign id after callers) where
  nodup := Numbered.nodup_keys_assign h.nodup after
  own := Numbered.lookup_assign_self id after callers
  others c other hc hother := by
    rw [Numbered.lookup_assign_of_ne hc] at hother
    exact h.others c other hc hother

theorem of_still (h : Still callers) (id : Nat) (phase : Phase) :
    Scene id phase (Numbered.assign id phase callers) where
  nodup := Numbered.nodup_keys_assign h.nodup phase
  own := Numbered.lookup_assign_self id phase callers
  others c other hc hother := by
    rw [Numbered.lookup_assign_of_ne hc] at hother
    exact h.returned c other hother

theorem still {outcome : Outcome} (h : Scene id (.returned outcome) callers) : Still callers where
  nodup := h.nodup
  returned c phase hphase := by
    by_cases hc : c = id
    · cases (hc ▸ hphase).symm.trans h.own
      exact ⟨outcome, rfl⟩
    · exact h.others c phase hc hphase

/-- Whoever goes on is the one caller that has not returned. -/
theorem eq_of_enabled {σ : Type} {s : State σ} {c : Nat} (h : Scene id phase s.callers)
    (henabled : s.enabled (.proceed c) = true) : c = id ∧ s.canProceed id phase = true := by
  obtain ⟨after, hphase, hcan⟩ := (Option.any_eq_true _ _).1 henabled
  by_cases hc : c = id
  · subst hc
    cases hphase.symm.trans h.own
    exact ⟨rfl, hcan⟩
  · obtain ⟨outcome, rfl⟩ := h.others c after hc hphase
    cases hcan

/-- Nobody else has room among the requests. -/
theorem requestCount {σ : Type} {s : State σ} (h : Scene id phase s.callers)
    (hphase : ∀ deadline, phase ≠ .admitted deadline) : s.requestCount = s.requests.length := by
  unfold State.requestCount
  refine Nat.add_eq_left.2 (List.countP_eq_zero.2 fun ⟨c, other⟩ hmem hadmitted => ?_)
  have hlookup := Numbered.lookup_eq_some_of_mem h.nodup hmem
  dsimp only at hadmitted
  split at hadmitted
  · rename_i deadline
    by_cases hc : c = id
    · exact hphase deadline (Option.some.inj (h.own.symm.trans (hc ▸ hlookup)))
    · obtain ⟨outcome, houtcome⟩ := h.others c _ hc hlookup
      cases houtcome
  · cases hadmitted

end Scene

section

variable {σ : Type}

/-- The part of a writer that a write at the mark goes through: the flush task, the requests and
the batch under way. -/
structure Desk where
  /-- Whether producers rely on the flush task. -/
  running : Bool
  /-- Whether requests are taken. -/
  accepting : Bool
  /-- The flush task. -/
  task : Task
  /-- The callers whose requests wait. -/
  requests : List Nat
  /-- The batch under way. -/
  flight : Option Flight

/-- The part of the writer that a write at the mark goes through. -/
def State.desk (s : State σ) : Desk :=
  ⟨s.running, s.accepting, s.task, s.requests, s.flight⟩

theorem State.desk_submit (B : Backend σ) (s : State σ) (party : Party) :
    (s.submit B party).desk = { s.desk with flight := (s.submit B party).flight } := rfl

/-- The desk of a writer, started or not, while no flush is under way. -/
def Desk.atRest (started : Bool) : Desk :=
  ⟨started, true, if started then .idle else .absent, [], none⟩

/-- The points so far are in batches of one size, which the store has answered or will answer, and
in the buffer. -/
structure Filled (B : Backend σ) (mark : Nat) (store : σ) (points : List Point)
    (current : σ × Journal) (buffer : Array Point) : Prop where
  full : ∀ c ∈ current.2, c.batch.length = mark
  answered : ∀ c ∈ current.2, c.answer ≠ .never
  points : current.2.points ++ buffer.toList = points
  store : current = B.journaled.after (store, []) (current.2.map Submission.batch)

namespace Filled

variable {B : Backend σ} {mark : Nat} {store : σ} {points : List Point} {current : σ × Journal}
  {buffer : Array Point}

theorem initial (B : Backend σ) (mark : Nat) (store : σ) :
    Filled B mark store [] (store, []) #[] where
  full _ h := nomatch h
  answered _ h := nomatch h
  points := rfl
  store := rfl

theorem push (h : Filled B mark store points current buffer) (p : Point) :
    Filled B mark store (points ++ [p]) current (buffer.push p) where
  full := h.full
  answered := h.answered
  points := by rw [Array.toList_push, ← List.append_assoc, h.points]
  store := h.store

/-- A full buffer is handed over. -/
theorem submit (h : Filled B mark store points current buffer) (hsize : buffer.size = mark)
    (hanswer : (B.submit current.1 buffer.toList).1 ≠ .never) :
    Filled B mark store points (B.journaled.submit current buffer.toList).2 #[] := by
  -- the journal has the batch at its end
  have hjournal : (B.journaled.submit current buffer.toList).2.2 =
      current.2 ++ [⟨buffer.toList, (B.submit current.1 buffer.toList).1⟩] := rfl
  refine ⟨fun c hc => ?_, fun c hc => ?_, ?_, ?_⟩
  · rw [hjournal, List.mem_append, List.mem_singleton] at hc
    rcases hc with hc | rfl
    · exact h.full c hc
    · exact hsize
  · rw [hjournal, List.mem_append, List.mem_singleton] at hc
    rcases hc with hc | rfl
    · exact h.answered c hc
    · exact hanswer
  · rw [hjournal, Journal.points_append, Journal.points_singleton, ← h.points]
    exact List.append_nil _
  · rw [hjournal, List.map_append, List.map_singleton, Backend.after, List.foldl_append,
      List.foldl_cons, List.foldl_nil]
    exact congrArg (fun c => (B.journaled.submit c buffer.toList).2) h.store

theorem flatten_append (h : Filled B mark store points current buffer) :
    (current.2.map Submission.batch).flatten ++ buffer.toList = points := h.points

theorem length_batch (h : Filled B mark store points current buffer) :
    ∀ batch ∈ current.2.map Submission.batch, batch.length = mark := by
  intro batch hbatch
  obtain ⟨c, hc, rfl⟩ := List.mem_map.1 hbatch
  exact h.full c hc

theorem length_eq (h : Filled B mark store points current buffer) :
    points.length = current.2.length * mark + buffer.size := by
  rw [← h.flatten_append, List.length_append, length_flatten_of_forall_length h.length_batch,
    List.length_map, Array.length_toList]

end Filled

/-- The write at a place has returned what it has to. -/
def Replied (mark place : Nat) (w : Write) (s : State (σ × Journal)) : Prop :=
  ∃ result, s.phase? w.id = some (.returned (.done result)) ∧
    verdict mark s.store.2 place = some result

section

variable (B : Backend σ) (t : Tuning) (store : σ) (points : List Point)

/-- The buffer has fewer points than a batch. -/
structure Short (s : State (σ × Journal)) : Prop where
  filled : Filled B t.threshold store points s.store s.buffer
  size : s.buffer.size < t.threshold
  forced : s.metrics.forcedFlushes = s.store.2.length

/-- The buffer has a batch, and the flush that takes it out is forced. -/
structure Due (s : State (σ × Journal)) : Prop where
  filled : Filled B t.threshold store points s.store s.buffer
  size : s.buffer.size = t.threshold
  forced : s.metrics.forcedFlushes = s.store.2.length + 1

/-- The forced flush of a party has handed the batch over. -/
structure Sent (party : Party) (f : Flight) (s : State (σ × Journal)) : Prop where
  filled : Filled B t.threshold store points s.store s.buffer
  empty : s.buffer = #[]
  forced : s.metrics.forcedFlushes = s.store.2.length
  holder : f.holder = party
  last : s.store.2.getLast? = some f.submission

/-- All writes so far have returned. -/
structure Rested (started : Bool) (s : State (σ × Journal)) : Prop where
  still : Still s.callers
  desk : s.desk = .atRest started
  short : Short B t store points s

/-- Where a write stands, in a writer that was started or not, and how many steps are left to its
end at most. The points are those of the writes before it. -/
inductive Station (since : Moment) (w : Write) (s : State (σ × Journal)) : Bool → Nat → Prop
  | pushing {started : Bool} (hscene : Scene w.id (.pushing w.point) s.callers)
      (hdesk : s.desk = .atRest started) (hshort : Short B t store points s) :
      Station since w s started 7
  | pushed {started : Bool} {size : Nat} (hscene : Scene w.id (.pushed size) s.callers)
      (hdesk : s.desk = .atRest started)
      (hfilled : Filled B t.threshold store (points ++ [w.point]) s.store s.buffer)
      (hsize : s.buffer.size = size) (hpos : 0 < size) (hle : size ≤ t.threshold)
      (hforced : s.metrics.forcedFlushes = s.store.2.length) : Station since w s started 6
  | requesting {deadline : Moment} (hscene : Scene w.id (.requesting deadline) s.callers)
      (hdeadline : since + t.flushTimeout.nanos ≤ deadline) (hdesk : s.desk = .atRest true)
      (hdue : Due B t store (points ++ [w.point]) s) : Station since w s true 5
  | admitted {deadline : Moment} (hscene : Scene w.id (.admitted deadline) s.callers)
      (hdeadline : since + t.flushTimeout.nanos ≤ deadline) (hdesk : s.desk = .atRest true)
      (hdue : Due B t store (points ++ [w.point]) s) : Station since w s true 4
  | awaiting {deadline : Moment} (hscene : Scene w.id (.awaiting deadline) s.callers)
      (hdeadline : since + t.flushTimeout.nanos ≤ deadline)
      (hdesk : s.desk = ⟨true, true, .idle, [w.id], none⟩)
      (hdue : Due B t store (points ++ [w.point]) s) : Station since w s true 3
  | served {deadline : Moment} (hscene : Scene w.id (.awaiting deadline) s.callers)
      (hdeadline : since + t.flushTimeout.nanos ≤ deadline)
      (hdesk : s.desk = ⟨true, true, .flushing (.request w.id), [], none⟩)
      (hdue : Due B t store (points ++ [w.point]) s) : Station since w s true 2
  | answering {deadline : Moment} {f : Flight} (hscene : Scene w.id (.awaiting deadline) s.callers)
      (hdeadline : since + t.flushTimeout.nanos ≤ deadline)
      (hdesk : s.desk = ⟨true, true, .flushing (.request w.id), [], some f⟩)
      (hsent : Sent B t store (points ++ [w.point]) .task f s) : Station since w s true 1
  | flushing (hscene : Scene w.id (.flushing none .result) s.callers)
      (hdesk : s.desk = .atRest false) (hdue : Due B t store (points ++ [w.point]) s) :
      Station since w s false 2
  | waiting {f : Flight} (hscene : Scene w.id (.flushing none .result) s.callers)
      (hdesk : s.desk = ⟨false, true, .absent, [], some f⟩)
      (hsent : Sent B t store (points ++ [w.point]) (.caller w.id) f s) :
      Station since w s false 1

/-- A write has fewer steps left than so many, or has come to its end. -/
inductive Advanced (mark : Nat) (since : Moment) (w : Write) (s : State (σ × Journal))
    (started : Bool) (n : Nat) : Prop
  | nearer {m : Nat} (hm : m < n) (hstation : Station B t store points since w s started m)
  | arrived (hrested : Rested B t store (points ++ [w.point]) started s)
      (hreplied : Replied mark points.length w s)

end

variable {B : Backend σ} {t : Tuning} {store : σ} {points : List Point} {started : Bool}
  {since : Moment} {w : Write} {s : State (σ × Journal)} {a : Action} {n : Nat}

theorem Tuning.threshold_pos (t : Tuning) : 0 < t.threshold := Nat.le_max_right _ _

/-- A write below the mark returns `Ok`. -/
theorem Filled.verdict_below {mark : Nat} {current : σ × Journal} {buffer : Array Point}
    (h : Filled B mark store (points ++ [w.point]) current buffer) (hpos : 0 < buffer.size)
    (hlt : buffer.size < mark) : verdict mark current.2 points.length = some (.ok ()) := by
  have hlength := h.length_eq
  rw [List.length_append, List.length_singleton] at hlength
  have hmod : (points.length + 1) % mark = buffer.size := by
    rw [hlength, Nat.add_comm, Nat.add_mul_mod_self_right, Nat.mod_eq_of_lt hlt]
  rw [verdict, if_neg (by omega)]

/-- A write that completes a batch returns the answer to it. -/
theorem Sent.verdict_eq {party : Party} {f : Flight} {result : Except SinkError Unit}
    (h : Sent B t store (points ++ [w.point]) party f s)
    (hresult : f.answer.result? = some result) :
    verdict t.threshold s.store.2 points.length = some result := by
  have hlast := h.last
  rw [List.getLast?_eq_getElem?] at hlast
  obtain ⟨hlt, -⟩ := List.getElem?_eq_some_iff.1 hlast
  have hlength := h.filled.length_eq
  rw [List.length_append, List.length_singleton, h.empty] at hlength
  -- the points so far fill the batches exactly, and all but the last one without this point
  have hmod : (points.length + 1) % t.threshold = 0 := by
    rw [hlength]
    exact Nat.mul_mod_left _ _
  have hdiv : points.length / t.threshold = s.store.2.length - 1 := by
    obtain ⟨k, hk⟩ := Nat.exists_eq_succ_of_ne_zero (Nat.ne_of_gt (Nat.zero_lt_of_lt hlt))
    rw [hk] at hlength ⊢
    have hpos := t.threshold_pos
    refine Nat.div_eq_of_lt_le ?_ ?_
    · rw [Nat.succ_sub_one]
      rw [Nat.succ_mul] at hlength
      change points.length + 1 = k * t.threshold + t.threshold + 0 at hlength
      omega
    · rw [Nat.succ_sub_one]
      change points.length + 1 = (k + 1) * t.threshold + 0 at hlength
      omega
  rw [verdict, if_pos hmod, hdiv, hlast]
  exact hresult

/-- The batch under way is one of the journal, so it is answered. -/
theorem Sent.exists_result {party : Party} {f : Flight} (h : Sent B t store points party f s) :
    ∃ result, f.answer.result? = some result := by
  have hanswer : f.submission.answer ≠ .never :=
    h.filled.answered _ (List.mem_of_getLast? h.last)
  exact Answer.exists_result?_iff.2 hanswer

/-! ## The steps of a write -/

/-- Who goes on: the one caller that has not returned, or the flush task with a request or with its
flush. -/
theorem Scene.cases_goesOn {id : Nat} {phase : Phase} (h : Scene id phase s.callers)
    (hgoes : a.goesOn = true) (henabled : s.enabled a = true) :
    a = .proceed id ∧ s.canProceed id phase = true ∨ a = .serve ∧ s.requests ≠ [] ∨
      a = .work ∧ s.canWork = true := by
  cases a with
  | proceed c =>
    obtain ⟨rfl, hcan⟩ := h.eq_of_enabled henabled
    exact .inl ⟨rfl, hcan⟩
  | serve =>
    simp only [State.enabled, Bool.and_eq_true] at henabled
    exact .inr (.inl ⟨rfl, by simpa using henabled.2⟩)
  | work => exact .inr (.inr ⟨rfl, henabled⟩)
  | call | expire | abandon | openReader | start | stop | leave | tick | pass => cases hgoes

/-- While the flush task rests, only the caller goes on. -/
theorem Scene.eq_proceed {id : Nat} {phase : Phase} (h : Scene id phase s.callers)
    (hrequests : s.requests = []) (htask : s.task = .idle ∨ s.task = .absent)
    (hgoes : a.goesOn = true) (henabled : s.enabled a = true) : a = .proceed id := by
  rcases h.cases_goesOn hgoes henabled with ⟨rfl, -⟩ | ⟨rfl, hwaits⟩ | ⟨rfl, hcan⟩
  · rfl
  · exact absurd hrequests hwaits
  · rcases htask with htask | htask <;> simp [State.canWork, htask] at hcan

theorem Desk.task_atRest (h : s.desk = .atRest started) : s.task = .idle ∨ s.task = .absent := by
  have htask : s.task = if started then .idle else .absent := congrArg Desk.task h
  cases started
  · exact .inr htask
  · exact .inl htask

theorem Scene.eq_proceed_of_atRest {id : Nat} {phase : Phase} (h : Scene id phase s.callers)
    (hdesk : s.desk = .atRest started) (hgoes : a.goesOn = true) (henabled : s.enabled a = true) :
    a = .proceed id :=
  h.eq_proceed (congrArg Desk.requests hdesk) (Desk.task_atRest hdesk) hgoes henabled

/-- The producer counts its point and goes on to a flush if the buffer has a batch. -/
theorem advanced_of_pushed {size : Nat} (hscene : Scene w.id (.pushed size) s.callers)
    (hdesk : s.desk = .atRest started)
    (hfilled : Filled B t.threshold store (points ++ [w.point]) s.store s.buffer)
    (hsize : s.buffer.size = size) (hpos : 0 < size) (hle : size ≤ t.threshold)
    (hforced : s.metrics.forcedFlushes = s.store.2.length) (hnow : since ≤ s.now) :
    Advanced B t store points t.threshold since w (s.afterPush t w.id size) started 6 := by
  have hmark : size < t.threshold ↔ size < t.highWaterMark := by
    rw [Tuning.threshold]
    omega
  unfold State.afterPush
  split
  -- below the mark the write is over; at it, whether the task runs decides who flushes
  case isTrue hlt =>
    have hbelow : size < t.threshold := hmark.2 hlt
    subst hsize
    exact .arrived ⟨(hscene.assign _).still, hdesk, hfilled, hbelow, hforced⟩
      ⟨_, State.phase?_finish_self _ _ _, hfilled.verdict_below hpos hbelow⟩
  case isFalse hge =>
    have hfull : s.buffer.size = t.threshold := by
      have hnot := mt hmark.1 hge
      omega
    have hdue (callers : List (Nat × Phase)) : Due B t store (points ++ [w.point]) { s with
        callers, metrics := { s.metrics with
          buffered := s.metrics.buffered + 1, forcedFlushes := s.metrics.forcedFlushes + 1 } } :=
      ⟨hfilled, hfull, congrArg Nat.succ hforced⟩
    have hrunning : s.running = started := congrArg Desk.running hdesk
    dsimp only
    split
    case isTrue hrun =>
      obtain rfl : started = true := hrunning.symm.trans hrun
      exact .nearer (by decide) (.requesting (hscene.assign _) (Nat.add_le_add_right hnow _) hdesk
        (hdue _))
    case isFalse hrun =>
      obtain rfl : started = false := hrunning.symm.trans (Bool.not_eq_true _ ▸ hrun)
      exact .nearer (by decide) (.flushing (hscene.assign _) hdesk (hdue _))

/-- The forced flush of a party hands the batch over. -/
theorem Due.submit (h : Due B t store points s)
    (hanswers : B.AnswersAll) (party : Party) :
    ∃ f, Sent B t store points party f (s.submit B.journaled party) ∧
      (s.submit B.journaled party).flight = some f := by
  refine ⟨_, ⟨h.filled.submit h.size (hanswers _ _), rfl, ?_, rfl, ?_⟩, rfl⟩
  · change s.metrics.forcedFlushes = (s.store.2 ++ [_]).length
    rw [h.forced, List.length_append, List.length_singleton]
  · exact List.getLast?_concat

/-- A flush that is due hands the batch over by its next step. -/
theorem Due.flushStep (h : Due B t store points s) (hflight : s.flight = none) (party : Party) :
    s.flushStep B.journaled party = (none, s.submit B.journaled party) := by
  have hne : s.buffer.isEmpty = false := by
    have hpos := t.threshold_pos
    rw [← h.size] at hpos
    simpa [Array.isEmpty] using Nat.ne_of_gt hpos
  simp only [State.flushStep, hflight, hne]
  rfl

/-- The answer to the batch ends the flush, and with it the write. -/
theorem Sent.advanced {party : Party} {f : Flight} {result : Except SinkError Unit}
    (h : Sent B t store (points ++ [w.point]) party f s) (hresult : f.answer.result? = some result)
    {phase : Phase} (hscene : Scene w.id phase s.callers) {s' : State (σ × Journal)}
    (hcallers : s'.callers = Numbered.assign w.id (.returned (.done result)) s.callers)
    (hdesk : s'.desk = .atRest started) (hstore : s'.store = s.store)
    (hbuffer : s'.buffer = s.buffer)
    (hforced : s'.metrics.forcedFlushes = s.metrics.forcedFlushes) :
    Advanced B t store points t.threshold since w s' started n := by
  refine .arrived ⟨?_, hdesk, ?_, ?_, ?_⟩ ⟨result, ?_, ?_⟩
  · rw [hcallers]
    exact (hscene.assign _).still
  · rw [hstore, hbuffer]
    exact h.filled
  · rw [hbuffer, h.empty]
    exact t.threshold_pos
  · rw [hforced, hstore]
    exact h.forced
  · rw [State.phase?, hcallers]
    exact Numbered.lookup_assign_self _ _ _
  · rw [hstore]
    exact h.verdict_eq hresult

@[simp]
theorem Metrics.forcedFlushes_countBatch (m : Metrics) (count : Nat)
    (result : Except SinkError Unit) :
    (m.countBatch count result).forcedFlushes = m.forcedFlushes := by
  cases result <;> rfl

theorem State.acknowledge_of_awaiting {id : Nat} {deadline : Moment}
    {result : Except SinkError Unit} (hphase : s.phase? id = some (.awaiting deadline)) :
    s.acknowledge id result = s.finish id (.done result) := by
  simp only [State.acknowledge, hphase]

/-- Every step brings a write nearer to its end. -/
theorem Station.next (h : Station B t store points since w s started n) (hnow : since ≤ s.now)
    (hanswers : B.AnswersAll) (hgoes : a.goesOn = true)
    (henabled : s.enabled a = true) :
    Advanced B t store points t.threshold since w (s.next B.journaled t a) started n := by
  cases h with
  -- up to its request the producer itself goes on, as the task has nothing to do
  | pushing hscene hdesk hshort =>
    obtain rfl := hscene.eq_proceed_of_atRest hdesk hgoes henabled
    have hphase : s.phase? w.id = some (.pushing w.point) := hscene.own
    simp only [State.next, hphase, State.proceed]
    exact .nearer (by decide) (.pushed (hscene.assign _) hdesk (hshort.filled.push _)
      (Array.size_push _) (Nat.succ_pos _) hshort.size hshort.forced)
  | pushed hscene hdesk hfilled hsize hpos hle hforced =>
    obtain rfl := hscene.eq_proceed_of_atRest hdesk hgoes henabled
    have hphase : s.phase? w.id = some (.pushed _) := hscene.own
    simp only [State.next, hphase, State.proceed]
    exact advanced_of_pushed hscene hdesk hfilled hsize hpos hle hforced hnow
  | requesting hscene hdeadline hdesk hdue =>
    obtain rfl := hscene.eq_proceed_of_atRest hdesk hgoes henabled
    have hphase : s.phase? w.id = some (.requesting _) := hscene.own
    have haccepting : s.accepting = true := congrArg Desk.accepting hdesk
    simp only [State.next, hphase, State.proceed, haccepting, if_true]
    exact .nearer (by decide)
      (.admitted (hscene.assign _) hdeadline hdesk ⟨hdue.filled, hdue.size, hdue.forced⟩)
  | admitted hscene hdeadline hdesk hdue =>
    obtain rfl := hscene.eq_proceed_of_atRest hdesk hgoes henabled
    have hphase : s.phase? w.id = some (.admitted _) := hscene.own
    have hrequests : s.requests = [] := congrArg Desk.requests hdesk
    simp only [State.next, hphase, State.proceed, hrequests, List.nil_append]
    refine .nearer (by decide) (.awaiting (hscene.assign _) hdeadline ?_
      ⟨hdue.filled, hdue.size, hdue.forced⟩)
    exact congrArg (fun d : Desk => { d with requests := [w.id] }) hdesk
  -- then it waits while the task takes the request, hands the batch over and gets the answer
  | awaiting hscene hdeadline hdesk hdue =>
    have hrequests : s.requests = [w.id] := congrArg Desk.requests hdesk
    have htask : s.task = .idle := congrArg Desk.task hdesk
    rcases hscene.cases_goesOn hgoes henabled with ⟨-, hcan⟩ | ⟨rfl, -⟩ | ⟨-, hcan⟩
    · cases hcan
    · simp only [State.next, hrequests]
      refine .nearer (by decide) (.served hscene hdeadline ?_ ⟨hdue.filled, hdue.size, hdue.forced⟩)
      exact congrArg
        (fun d : Desk => { d with requests := [], task := .flushing (.request w.id) }) hdesk
    · simp [State.canWork, htask] at hcan
  | served hscene hdeadline hdesk hdue =>
    have hrequests : s.requests = [] := congrArg Desk.requests hdesk
    have htask : s.task = .flushing (.request w.id) := congrArg Desk.task hdesk
    rcases hscene.cases_goesOn hgoes henabled with ⟨-, hcan⟩ | ⟨-, hwaits⟩ | ⟨rfl, -⟩
    · cases hcan
    · exact absurd hrequests hwaits
    · obtain ⟨f, hsent, hflight⟩ := hdue.submit hanswers .task
      simp only [State.next, State.work, htask, hdue.flushStep (congrArg Desk.flight hdesk)]
      refine .nearer (by decide) (.answering hscene hdeadline ?_ hsent)
      rw [State.desk_submit, hdesk, hflight]
  | answering hscene hdeadline hdesk hsent =>
    have hrequests : s.requests = [] := congrArg Desk.requests hdesk
    have htask : s.task = .flushing (.request w.id) := congrArg Desk.task hdesk
    have hflight : s.flight = some _ := congrArg Desk.flight hdesk
    rcases hscene.cases_goesOn hgoes henabled with ⟨-, hcan⟩ | ⟨-, hwaits⟩ | ⟨rfl, -⟩
    · cases hcan
    · exact absurd hrequests hwaits
    · obtain ⟨result, hresult⟩ := hsent.exists_result
      have hphase : s.phase? w.id = some (.awaiting _) := hscene.own
      simp only [State.next, State.work, htask, State.flushStep, hflight, hresult,
        State.afterTaskFlush]
      rw [State.acknowledge_of_awaiting]
      · refine hsent.advanced hresult hscene rfl ?_ rfl rfl (Metrics.forcedFlushes_countBatch _ _ _)
        exact congrArg (fun d : Desk => { d with task := .idle, flight := none }) hdesk
      · exact hphase
  -- without the task the producer hands the batch over and gets the answer itself
  | flushing hscene hdesk hdue =>
    obtain rfl := hscene.eq_proceed_of_atRest hdesk hgoes henabled
    have hphase : s.phase? w.id = some (.flushing none .result) := hscene.own
    obtain ⟨f, hsent, hflight⟩ := hdue.submit hanswers (.caller w.id)
    simp only [State.next, hphase, State.proceed, hdue.flushStep (congrArg Desk.flight hdesk)]
    refine .nearer (by decide) (.waiting hscene ?_ hsent)
    rw [State.desk_submit, hdesk, hflight]
    rfl
  | waiting hscene hdesk hsent =>
    obtain rfl := hscene.eq_proceed (congrArg Desk.requests hdesk)
      (.inr (congrArg Desk.task hdesk)) hgoes henabled
    have hphase : s.phase? w.id = some (.flushing none .result) := hscene.own
    have hflight : s.flight = some _ := congrArg Desk.flight hdesk
    obtain ⟨result, hresult⟩ := hsent.exists_result
    simp only [State.next, hphase, State.proceed, State.flushStep, hflight, hresult]
    refine hsent.advanced hresult hscene rfl ?_ rfl rfl (Metrics.forcedFlushes_countBatch _ _ _)
    exact congrArg (fun d : Desk => { d with flight := none }) hdesk

theorem Station.pos (h : Station B t store points since w s started n) : 0 < n := by
  cases h <;> decide

theorem Station.le (h : Station B t store points since w s started n) : n ≤ 7 := by
  cases h <;> decide

/-- The caller whose phase allows it goes on. -/
theorem Scene.enabled {id : Nat} {phase : Phase} (h : Scene id phase s.callers)
    (hcan : s.canProceed id phase = true) : s.enabled (.proceed id) = true := by
  have hphase : s.phase? id = some phase := h.own
  simpa only [State.enabled, hphase, Option.any_some] using hcan

theorem Sent.canFlush {party : Party} {f : Flight} (h : Sent B t store points party f s)
    (hflight : s.flight = some f) : s.canFlush party = true := by
  have hanswer : f.answer ≠ .never := Answer.exists_result?_iff.1 h.exists_result
  simp [State.canFlush, hflight, h.holder, hanswer]

/-- Until a write has come to its end somebody can go on. -/
theorem Station.exists_goesOn (h : Station B t store points since w s started n) :
    ∃ a : Action, a.goesOn = true ∧ s.enabled a = true := by
  cases h with
  | pushing hscene hdesk =>
    have hflight : s.flight = none := congrArg Desk.flight hdesk
    exact ⟨_, rfl, hscene.enabled (by simp [State.canProceed, State.isFree, hflight])⟩
  | pushed hscene => exact ⟨_, rfl, hscene.enabled rfl⟩
  | requesting hscene _ hdesk =>
    -- no request waits and nobody else has room for one
    have hcount : s.requestCount = s.requests.length :=
      hscene.requestCount fun _ h => Phase.noConfusion h
    have hrequests : s.requests = [] := congrArg Desk.requests hdesk
    rw [hrequests, List.length_nil] at hcount
    exact ⟨_, rfl, hscene.enabled (by simp [State.canProceed, hcount, requestLimit])⟩
  | admitted hscene => exact ⟨_, rfl, hscene.enabled rfl⟩
  | awaiting _ _ hdesk =>
    have hrequests : s.requests = [w.id] := congrArg Desk.requests hdesk
    have htask : s.task = .idle := congrArg Desk.task hdesk
    exact ⟨.serve, rfl, by simp [State.enabled, htask, hrequests]⟩
  | served _ _ hdesk =>
    have htask : s.task = .flushing (.request w.id) := congrArg Desk.task hdesk
    have hflight : s.flight = none := congrArg Desk.flight hdesk
    exact ⟨.work, rfl, by simp [State.enabled, State.canWork, htask, State.canFlush, hflight]⟩
  | answering _ _ hdesk hsent =>
    have htask : s.task = .flushing (.request w.id) := congrArg Desk.task hdesk
    have hcan := hsent.canFlush (congrArg Desk.flight hdesk)
    exact ⟨.work, rfl, by simpa [State.enabled, State.canWork, htask] using hcan⟩
  | flushing hscene hdesk =>
    have hflight : s.flight = none := congrArg Desk.flight hdesk
    exact ⟨_, rfl, hscene.enabled (by simp [State.canProceed, State.canFlush, hflight])⟩
  | waiting hscene hdesk hsent =>
    exact ⟨_, rfl, hscene.enabled (hsent.canFlush (congrArg Desk.flight hdesk))⟩

/-- The phase of a write that has not come to its end, and the moment at which it may give up. -/
theorem Station.exists_scene (h : Station B t store points since w s started n) :
    ∃ phase, Scene w.id phase s.callers ∧ (∀ outcome, phase ≠ .returned outcome) ∧
      ∀ deadline, phase.deadline? = some deadline → since + t.flushTimeout.nanos ≤ deadline := by
  cases h with
  | pushing hscene | pushed hscene | flushing hscene | waiting hscene =>
    exact ⟨_, hscene, nofun, nofun⟩
  | requesting hscene hdeadline | admitted hscene hdeadline | awaiting hscene hdeadline
  | served hscene hdeadline | answering hscene hdeadline =>
    refine ⟨_, hscene, nofun, fun d hd => ?_⟩
    cases hd
    exact hdeadline

theorem Station.not_resting (h : Station B t store points since w s started n) : ¬ s.Resting := by
  obtain ⟨phase, hscene, hnot, -⟩ := h.exists_scene
  intro hrest
  obtain ⟨outcome, houtcome⟩ := hrest w.id phase hscene.own
  exact hnot outcome houtcome

/-- Nobody gives up before its time is over. -/
theorem Station.deadline_le (h : Station B t store points since w s started n) {id : Nat}
    (hexpire : s.enabled (.expire id) = true) : since + t.flushTimeout.nanos ≤ s.now := by
  -- whoever can give up has a deadline, so it is the one that has not returned
  obtain ⟨phase, hscene, -, hdeadline⟩ := h.exists_scene
  obtain ⟨deadline, hbind, hle⟩ := (Option.any_eq_true _ _).1 hexpire
  obtain ⟨other, hother, hsome⟩ := Option.bind_eq_some_iff.1 hbind
  have hle : deadline ≤ s.now := by simpa using hle
  by_cases hid : id = w.id
  · subst hid
    cases hscene.own.symm.trans hother
    exact Nat.le_trans (hdeadline deadline hsome) hle
  · obtain ⟨outcome, rfl⟩ := hscene.others id other hid hother
    cases hsome

/-- A write does not mind that time passes. -/
theorem Station.pass (h : Station B t store points since w s started n) (nanos : Nat) :
    Station B t store points since w (s.next B.journaled t (.pass nanos)) started n := by
  cases h with
  | pushing hscene hdesk hshort =>
    exact .pushing hscene hdesk ⟨hshort.filled, hshort.size, hshort.forced⟩
  | pushed hscene hdesk hfilled hsize hpos hle hforced =>
    exact .pushed hscene hdesk hfilled hsize hpos hle hforced
  | requesting hscene hdeadline hdesk hdue =>
    exact .requesting hscene hdeadline hdesk ⟨hdue.filled, hdue.size, hdue.forced⟩
  | admitted hscene hdeadline hdesk hdue =>
    exact .admitted hscene hdeadline hdesk ⟨hdue.filled, hdue.size, hdue.forced⟩
  | awaiting hscene hdeadline hdesk hdue =>
    exact .awaiting hscene hdeadline hdesk ⟨hdue.filled, hdue.size, hdue.forced⟩
  | served hscene hdeadline hdesk hdue =>
    exact .served hscene hdeadline hdesk ⟨hdue.filled, hdue.size, hdue.forced⟩
  | answering hscene hdeadline hdesk hsent =>
    exact .answering hscene hdeadline hdesk
      ⟨hsent.filled, hsent.empty, hsent.forced, hsent.holder, hsent.last⟩
  | flushing hscene hdesk hdue =>
    exact .flushing hscene hdesk ⟨hdue.filled, hdue.size, hdue.forced⟩
  | waiting hscene hdesk hsent =>
    exact .waiting hscene hdesk
      ⟨hsent.filled, hsent.empty, hsent.forced, hsent.holder, hsent.last⟩

end

end SyslogCollector.Store.Writer
