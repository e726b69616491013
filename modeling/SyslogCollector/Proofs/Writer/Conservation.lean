import SyslogCollector.Proofs.Writer.Producers
/-!
# No point is lost, doubled or moved

Whatever the producers, the flush task, the readers and the clock do, and whatever the store
answers: the batches that were handed to the store, followed by the buffer, are the points of the
writes that took the buffer, in the order in which they took it. The counters agree with the
journal of the store whenever nobody is between two steps (`points_conserved`).

The invariant is `Accounts`, between the ledger of a run and the part of the state that points go
through. A batch whose caller left before the answer stays in the journal without having returned;
that is why the counters only add up when every call has returned.
-/

namespace SyslogCollector.Store

@[simp]
theorem Journal.points_append (j k : Journal) :
    Journal.points (j ++ k) = j.points ++ k.points := by
  simp [Journal.points]

@[simp]
theorem Journal.points_singleton (c : Submission) : Journal.points [c] = c.batch := by
  simp [Journal.points]

namespace Writer

/-- The call to the store that is under way. -/
def Flight.submission (f : Flight) : Submission :=
  ⟨f.batch, f.answer⟩

/-- Only a refusal counts as an error. -/
theorem Submission.failed_of_result? {c : Submission} {result : Except SinkError Unit}
    (h : c.answer.result? = some result) :
    c.failed = match result with | .ok _ => false | .error _ => true := by
  obtain ⟨batch, answer⟩ := c
  cases answer <;> cases h <;> rfl

namespace State

variable {σ : Type} {s : State σ} {a : Action}

theorem Turn.party?_eq {party : Party} (h : s.Turn a party) : a.party? = some party := by
  cases h <;> rfl

/-- The party of an action tells whose turn it is. -/
theorem Turn.of_party? {b : Action} {party : Party} (h : s.Turn b party)
    (hparty : a.party? = some party) : s.Turn a party := by
  cases h with
  | task htask =>
    cases a with
    | work => exact .task htask
    | _ => cases hparty
  | caller hphase =>
    cases a with
    | proceed id =>
      cases hparty
      exact .caller hphase
    | _ => cases hparty

/-- The call under way returns when its party goes on. -/
theorem returned?_of_turn {f : Flight} (hflight : s.flight = some f) (hturn : s.Turn a f.holder) :
    s.returned? a = some f.submission := by
  simp [returned?, hflight, hturn.party?_eq, Flight.submission]

/-- No call returns where no party that holds the buffer goes on. -/
theorem returned?_eq_none (hheld : s.Held)
    (h : ∀ f, s.flight = some f → ¬ s.Turn a f.holder) : s.returned? a = none := by
  unfold returned?
  split
  case h_1 f hflight =>
    obtain ⟨b, hb⟩ := hheld f hflight
    exact if_neg fun hparty => h f hflight (hb.of_party? hparty)
  case h_2 => rfl

end State

/-- How the ledger of a run and the points on their way hang together. -/
structure Accounts {σ : Type} (l : Ledger) (p : Pipe (σ × Journal)) : Prop where
  /-- No batch is empty. -/
  nonempty : ∀ c ∈ p.store.2, c.batch ≠ []
  /-- The call under way is the last one; those that returned are among the others. -/
  returned : ∃ earlier, p.store.2 = earlier ++ (p.flight.map Flight.submission).toList ∧
    l.returned.Sublist earlier
  /-- Every point is counted by its producer. -/
  buffered : p.tally.buffered = l.counted
  /-- Every answer is counted, -/
  flushes : p.tally.flushes = l.returned.length
  /-- every refusal again, -/
  errors : p.tally.flushErrors = l.returned.countP Submission.failed
  /-- and the points of the batch on one side or the other. -/
  points : p.tally.written + p.tally.dropped = l.returned.points.length
  /-- What was handed over and what waits in the buffer is what was taken. -/
  conserved : (p.store.2.points ++ p.buffer.toList).map some = l.taken.map l.point?

namespace Accounts

variable {σ : Type} {l l' : Ledger} {p : Pipe (σ × Journal)}

theorem initial (store : σ) : Accounts {} (State.pipe { store := (store, []) }) where
  nonempty := by simp [State.pipe]
  returned := ⟨[], rfl, .slnil⟩
  buffered := rfl
  flushes := rfl
  errors := rfl
  points := rfl
  conserved := rfl

/-- The relation looks at three things of the ledger. -/
theorem congr (h : Accounts l p) (hreturned : l'.returned = l.returned)
    (hcounted : l'.counted = l.counted)
    (htaken : l'.taken.map l'.point? = l.taken.map l.point?) : Accounts l' p where
  nonempty := h.nonempty
  returned := by rw [hreturned]; exact h.returned
  buffered := by rw [hcounted]; exact h.buffered
  flushes := by rw [hreturned]; exact h.flushes
  errors := by rw [hreturned]; exact h.errors
  points := by rw [hreturned]; exact h.points
  conserved := by rw [htaken]; exact h.conserved

/-- A producer puts its point into the buffer. -/
theorem push (h : Accounts l p) {place : Nat} {point : Point} (hreturned : l'.returned = l.returned)
    (hcounted : l'.counted = l.counted)
    (htaken : l'.taken.map l'.point? = l.taken.map l.point? ++ [l'.point? place])
    (hpoint : l'.point? place = some point) :
    Accounts l' { p with buffer := p.buffer.push point } where
  nonempty := h.nonempty
  returned := by rw [hreturned]; exact h.returned
  buffered := by rw [hcounted]; exact h.buffered
  flushes := by rw [hreturned]; exact h.flushes
  errors := by rw [hreturned]; exact h.errors
  points := by rw [hreturned]; exact h.points
  conserved := by
    rw [htaken, hpoint, ← h.conserved]
    simp

/-- A producer counts its point. -/
theorem count (h : Accounts l p) (hreturned : l'.returned = l.returned)
    (hcounted : l'.counted = l.counted + 1)
    (htaken : l'.taken.map l'.point? = l.taken.map l.point?) :
    Accounts l' { p with tally := { p.tally with buffered := p.tally.buffered + 1 } } where
  nonempty := h.nonempty
  returned := by rw [hreturned]; exact h.returned
  buffered := by rw [hcounted, ← h.buffered]
  flushes := by rw [hreturned]; exact h.flushes
  errors := by rw [hreturned]; exact h.errors
  points := by rw [hreturned]; exact h.points
  conserved := by rw [htaken]; exact h.conserved

/-- The points of the buffer are handed to the store. -/
theorem submit {B : Backend σ} {s : State (σ × Journal)} (h : Accounts l s.pipe) (party : Party)
    (hfree : s.flight = none) (hne : s.buffer.isEmpty = false) :
    Accounts l (s.submit B.journaled party).pipe where
  nonempty c hc := by
    rcases List.mem_append.1 hc with hc | hc
    · exact h.nonempty c hc
    · cases List.mem_singleton.1 hc
      simpa using hne
  returned := by
    obtain ⟨earlier, hstore, hsub⟩ := h.returned
    refine ⟨s.store.2, rfl, ?_⟩
    -- no call is under way, so all of the journal is from before
    have hall : s.store.2 = earlier := by simpa [State.pipe, hfree] using hstore
    exact hall ▸ hsub
  buffered := h.buffered
  flushes := h.flushes
  errors := h.errors
  points := h.points
  conserved := by
    rw [← h.conserved]
    simp [State.submit, State.pipe, Backend.journaled]

/-- The call under way returns. -/
theorem answer (h : Accounts l p) {f : Flight} {result : Except SinkError Unit}
    (hflight : p.flight = some f) (hresult : f.answer.result? = some result)
    (hreturned : l'.returned = l.returned ++ [f.submission]) (hcounted : l'.counted = l.counted)
    (htaken : l'.taken.map l'.point? = l.taken.map l.point?) :
    Accounts l' { p with
      flight := none, tally := p.tally.countBatch f.batch.length result } where
  nonempty := h.nonempty
  returned := by
    obtain ⟨earlier, hstore, hsub⟩ := h.returned
    refine ⟨p.store.2, (List.append_nil _).symm, ?_⟩
    -- the call under way is the last of the journal, and now the last that returned
    rw [hreturned, hstore, hflight]
    exact hsub.append_right _
  buffered := by
    rw [hcounted, ← h.buffered]
    cases result <;> rfl
  flushes := by
    rw [hreturned, List.length_append, ← h.flushes]
    cases result <;> rfl
  errors := by
    have hfailed := Submission.failed_of_result? (c := f.submission) hresult
    rw [hreturned, List.countP_append, ← h.errors]
    cases result <;> simp [hfailed, Metrics.countBatch]
  points := by
    have hpoints := h.points
    rw [hreturned, Journal.points_append, Journal.points_singleton, List.length_append]
    cases result <;> simp only [Metrics.countBatch, Flight.submission] <;> omega
  conserved := by
    rw [htaken]
    exact h.conserved

/-- The caller of the call under way is gone. -/
theorem cut (h : Accounts l p) : Accounts l { p with flight := none } where
  nonempty := h.nonempty
  returned := by
    obtain ⟨earlier, hstore, hsub⟩ := h.returned
    refine ⟨p.store.2, (List.append_nil _).symm, ?_⟩
    -- the call stays in the journal without ever having returned
    rw [hstore]
    exact hsub.trans (List.sublist_append_left _ _)
  buffered := h.buffered
  flushes := h.flushes
  errors := h.errors
  points := h.points
  conserved := h.conserved

/-- A query leaves the journal. -/
theorem query (h : Accounts l p) (store : σ) :
    Accounts l { p with store := (store, p.store.2) } where
  nonempty := h.nonempty
  returned := h.returned
  buffered := h.buffered
  flushes := h.flushes
  errors := h.errors
  points := h.points
  conserved := h.conserved

/-! ### A whole step -/

variable {s : State (σ × Journal)} {a : Action}

/-- An action by which no producer takes the buffer or counts adds no more than a return. -/
theorem record (h : Accounts l p) (hproducers : Producers l s) (hbystander : s.Bystander a)
    (hreturned : s.returned? a = none) : Accounts (l.record s a) p := by
  obtain ⟨htaken, hcounted⟩ := hproducers.follow_eq hbystander
  refine h.congr ?_ hcounted ?_
  · rw [Ledger.returned_record, hreturned, Option.toList_none, List.append_nil]
  · rw [Ledger.taken_record, Ledger.point?_record, htaken, hproducers.map_point?_follow]

/-- The accounts are right after every step. -/
theorem next {B : Backend σ} {t : Tuning} (h : Accounts l s.pipe) (hproducers : Producers l s)
    (hheld : s.Held) (henabled : s.enabled a = true) :
    Accounts (l.record s a) (s.next B.journaled t a).pipe := by
  have hflow := State.flow_next (B := B.journaled) (t := t) henabled
  generalize hnext : s.next B.journaled t a = s' at hflow ⊢
  cases hflow with
  | kept hquiet hpipe =>
    rw [hpipe]
    refine h.record hproducers hquiet.bystander (State.returned?_eq_none hheld ?_)
    intro f hflight hturn
    simp [hquiet.turn _ hturn] at hflight
  | @pushed id point s' hphase hfree hpipe =>
    rw [hpipe]
    -- the producer that takes the buffer waits in the ledger, with the same point
    obtain ⟨place, hlookup, hpoint⟩ := hproducers.lookup_of_pushing hphase
    have hproceed : l.follow (.proceed id) = _ := Ledger.proceed_of_waiting hlookup
    have hreturned : s.returned? (.proceed id) = none := by simp [State.returned?, hfree]
    have hplace : (l.follow (.proceed id)).point? place = some point :=
      (Ledger.point?_follow (Ledger.lt_of_point?_eq_some hpoint) _).trans hpoint
    refine h.push ?_ ?_ ?_ hplace
    · rw [Ledger.returned_record, hreturned, Option.toList_none, List.append_nil]
    · rw [Ledger.counted_record, hproceed]
    · have htaken : (l.follow (.proceed id)).taken = l.taken ++ [place] := by rw [hproceed]
      rw [Ledger.taken_record, Ledger.point?_record, htaken, List.map_append, List.map_singleton,
        hproducers.map_point?_follow]
  | @counted id size s' hphase hpipe =>
    rw [hpipe]
    obtain ⟨hlookup, hmem⟩ := hproducers.mem_uncounted_of_pushed hphase
    have hproceed : l.follow (.proceed id) = _ := Ledger.proceed_of_uncounted hlookup hmem
    have hreturned : s.returned? (.proceed id) = none := by
      -- who counts is not at a flush
      refine State.returned?_eq_none hheld fun f _ hturn => ?_
      obtain ⟨_, _, hflushing⟩ := hturn.exists_phase?
      cases hphase.symm.trans hflushing
    refine h.count ?_ ?_ ?_
    · rw [Ledger.returned_record, hreturned, Option.toList_none, List.append_nil]
    · rw [Ledger.counted_record, hproceed]
    · have htaken : (l.follow (.proceed id)).taken = l.taken := by rw [hproceed]
      rw [Ledger.taken_record, Ledger.point?_record, htaken, hproducers.map_point?_follow]
  | @submitted a party hturn hfree hne =>
    refine (h.record hproducers hturn.bystander ?_).submit party hfree hne
    simp [State.returned?, hfree]
  | answered hturn hflight hresult hpipe =>
    rw [hpipe]
    obtain ⟨htaken, hcounted⟩ := hproducers.follow_eq hturn.bystander
    refine h.answer hflight hresult ?_ hcounted ?_
    · rw [Ledger.returned_record, State.returned?_of_turn hflight hturn, Option.toList_some]
    · rw [Ledger.taken_record, Ledger.point?_record, htaken, hproducers.map_point?_follow]
  | cut hleave hflight hholder hpipe =>
    rw [hpipe]
    have hreturned : s.returned? a = none := by
      unfold State.returned?
      rcases hleave with rfl | rfl <;> simp [hflight, Action.party?]
    have hbystander : s.Bystander a := by
      rcases hleave with rfl | rfl <;> exact fun _ ha => nomatch ha
    exact (h.record hproducers hbystander hreturned).cut
  | @queried id reader s' q hphase hpipe =>
    rw [hpipe]
    refine (h.record hproducers (.of_phase hphase rfl rfl) ?_).query _
    -- who queries is not at a flush
    refine State.returned?_eq_none hheld fun f hflight hturn => ?_
    obtain ⟨_, _, hflushing⟩ := hturn.exists_phase?
    cases hphase.symm.trans hflushing

end Accounts

/-! ### Runs -/

section

variable {σ : Type} {B : Backend σ} {t : Tuning} {store : σ} {l : Ledger} {s : State (σ × Journal)}

/-- What every run from a new writer keeps. -/
theorem Run.accounts (h : Run B.journaled t { store := (store, []) } l s) :
    s.Held ∧ Producers l s ∧ Accounts l s.pipe := by
  induction h with
  | refl =>
    refine ⟨?_, .initial _ rfl, .initial store⟩
    intro f hflight
    cases hflight
  | @step l s s' a _ hstep ih =>
    obtain ⟨hheld, hproducers, haccounts⟩ := ih
    obtain ⟨henabled, rfl⟩ := hstep
    exact ⟨hheld.next henabled, hproducers.record henabled,
      haccounts.next hproducers hheld henabled⟩

/-- When the buffer is empty, and nobody waits to put a point into it or went away before it could,
the points of all writes that passed the name check were handed to the store. -/
theorem Run.points_perm (h : Run B.journaled t { store := (store, []) } l s)
    (hempty : s.buffer = #[]) (hnobody : ∀ id p, s.phase? id ≠ some (.pushing p))
    (hwithdrawn : l.withdrawn = []) :
    s.store.2.points.Perm (l.accepted.map fun w => Point.ofMessage w.1 w.2) := by
  obtain ⟨-, hproducers, haccounts⟩ := h.accounts
  have hwaiting : l.waiting = [] := by
    refine List.eq_nil_iff_forall_not_mem.2 fun e he => ?_
    have hnone : l.waiting.lookup e.1 = none := by
      refine hproducers.lookup_eq_none ?_
      cases hphase : s.phase? e.1 with
      | none => rfl
      | some phase =>
        cases phase with
        | pushing p => exact absurd hphase (hnobody _ p)
        | _ => rfl
    exact Numbered.lookup_eq_none_iff_not_mem.1 hnone (List.mem_map_of_mem he)
  -- every write took the buffer
  have hplaces : l.taken.Perm (List.range l.accepted.length) := by
    simpa [hwaiting, hwithdrawn] using hproducers.places
  have hconserved : s.store.2.points.map some = l.taken.map l.point? := by
    simpa [State.pipe, hempty] using haccounts.conserved
  have hall : (List.range l.accepted.length).map l.point? =
      (l.accepted.map fun w => Point.ofMessage w.1 w.2).map some := by
    refine List.ext_getElem (by simp) fun i hi hi' => ?_
    simp only [List.length_map, List.length_range] at hi
    simp [Ledger.point?, hi]
  have hperm : (s.store.2.points.map some).Perm
      ((l.accepted.map fun w => Point.ofMessage w.1 w.2).map some) := by
    rw [hconserved, ← hall]
    exact hplaces.map _
  simpa [List.filterMap_map] using hperm.filterMap id

/-- Conservation, in order. In every state that a run of a new writer leads to:

* the batches handed to the store, followed by the buffer, are the points of the writes that took
  the buffer, in the order in which they took it;
* every write that passed the name check took the buffer once, or waits for it, or was withdrawn;
* no batch is empty;
* once every call to the store has returned and every producer has counted its point, the counters
  account for every point, every batch and every refused batch. -/
theorem points_conserved (h : Run B.journaled t { store := (store, []) } l s) :
    (s.store.2.points ++ s.buffer.toList).map some = l.taken.map l.point? ∧
      (l.taken ++ l.waiting.map Prod.snd ++ l.withdrawn).Perm (List.range l.accepted.length) ∧
      (∀ c ∈ s.store.2, c.batch ≠ []) ∧
      (l.returned.length = s.store.2.length → l.counted = l.taken.length →
        s.metrics.buffered = s.metrics.written + s.metrics.dropped + s.buffer.size ∧
          s.metrics.flushes = s.store.2.length ∧
          s.metrics.flushErrors = s.store.2.countP Submission.failed) := by
  obtain ⟨-, hproducers, haccounts⟩ := h.accounts
  refine ⟨haccounts.conserved, hproducers.places, haccounts.nonempty, fun hreturned hcounted => ?_⟩
  -- the calls that returned are all calls of the journal
  have hall : l.returned = s.store.2 := by
    obtain ⟨earlier, hstore, hsub⟩ := haccounts.returned
    have hprefix : earlier.Sublist s.pipe.store.2 := by
      rw [hstore]
      exact List.sublist_append_left _ _
    exact (hsub.trans hprefix).eq_of_length hreturned
  have hbuffered : s.metrics.buffered = l.counted := haccounts.buffered
  have hflushes : s.metrics.flushes = l.returned.length := haccounts.flushes
  have herrors : s.metrics.flushErrors = l.returned.countP Submission.failed := haccounts.errors
  have hpoints : s.metrics.written + s.metrics.dropped = l.returned.points.length :=
    haccounts.points
  -- every point that was taken is in a batch or still in the buffer
  have hlength := congrArg List.length haccounts.conserved
  simp only [State.pipe, List.length_map, List.length_append, Array.length_toList] at hlength
  refine ⟨?_, hall ▸ hflushes, hall ▸ herrors⟩
  rw [hall] at hpoints
  omega

/-- The first of two writes takes the buffer last and fills it, the store refuses their batch, and a
third write stays in the buffer. -/
theorem points_conserved_refused_batch :
    ∃ l s, Run PlannedStore.backend.journaled { highWaterMark := 2 }
        { store := ({ answers := [.refused (.write "down")] }, []) } l s ∧
      l.taken = [1, 0, 2] ∧ l.returned.length = s.store.2.length ∧ l.counted = l.taken.length ∧
      (s.store.2.points ++ s.buffer.toList).map some = l.taken.map l.point? ∧
      s.metrics.buffered = s.metrics.written + s.metrics.dropped + s.buffer.size := by
  obtain ⟨l, s, hplay, htaken, hreturned, hcounted⟩ :
      ∃ l s, play PlannedStore.backend.journaled { highWaterMark := 2 }
          [.call 0 (.writeOf "a" "first"), .call 1 (.writeOf "a" "second"),
            .call 2 (.writeOf "" "nameless"), .proceed 1, .proceed 0, .proceed 0, .proceed 0,
            .proceed 1, .proceed 0, .call 3 (.writeOf "b" "third"), .proceed 3, .proceed 3]
          {} { store := ({ answers := [.refused (.write "down")] }, []) } = some (l, s) ∧
        l.taken = [1, 0, 2] ∧ l.returned.length = s.store.2.length ∧
        l.counted = l.taken.length :=
    ⟨_, _, rfl, rfl, rfl, rfl⟩
  have hrun := Run.refl.play hplay
  obtain ⟨hpoints, -, -, hcounters⟩ := points_conserved hrun
  exact ⟨l, s, hrun, htaken, hreturned, hcounted, hpoints, (hcounters hreturned hcounted).1⟩

end

end Writer

end SyslogCollector.Store
