import SyslogCollector.Proofs.Writer.Docket
/-!
# What a forced flush tells its producer

A producer whose point fills the buffer up to the high-water mark waits for a flush. When it
returns, unless because its time is over, the buffer is empty and its point was handed to the store
(`mark_write_released_after_handover`). If the batch with the point was handed over for this
producer, by itself or in answer to its request, the producer is told what became of the batch
(`forced_flush_reports_own_batch`). But between its push and the flush that is made for it somebody
else may flush the buffer; then the producer is told of a flush that found nothing to do
(`forced_flush_acknowledges_lost_point`).
-/

namespace SyslogCollector.Store.Writer

variable {σ : Type} {B : Backend σ} {t : Tuning} {store : σ} {d : Docket}
  {s s' : State (σ × Journal)} {a : Action} {id : Nat} {e : Entry}

/-- A write at the mark that returns, but not because its time is over, returns at the end of a
flush. -/
theorem Tracked.flushed_of_return (h : Tracked t d s) (henabled : s.enabled a = true)
    (hentry : (d.record s a (s.next B.journaled t a)).entries.lookup id = some e)
    (hmark : t.highWaterMark ≤ e.size) {outcome : Outcome}
    (hbefore : ∀ o, s.phase? id ≠ some (.returned o))
    (hafter : (s.next B.journaled t a).phase? id = some (.returned outcome))
    (hlate : outcome ≠ .done (.error (.flushTimeout t.flushTimeout))) :
    ∃ result, s.Flushed (s.next B.journaled t a) result := by
  by_cases hown : a.caller? = some id
  case neg =>
    -- the step of another can only answer the request
    obtain ⟨phase, hphase, hreleased⟩ := State.exists_released_of_next hown hafter
    cases hreleased with
    | kept => exact absurd hphase (hbefore outcome)
    | answered =>
      obtain ⟨result, -, hflushed⟩ := State.flushed_of_answered henabled hown hphase hafter
      exact ⟨result, hflushed⟩
  case pos =>
    cases a with
    | call c call | abandon c =>
      cases hown
      cases (Numbered.lookup_erase_self id d.entries).symm.trans hentry
    | expire c =>
      cases hown
      cases (State.phase?_expire_self t s id).symm.trans hafter
      exact absurd rfl hlate
    | proceed c =>
      cases hown
      obtain ⟨phase, _, hphase, hafter', hnext⟩ := State.exists_next_proceed B.journaled t henabled
      cases hafter.symm.trans hafter'
      have hpush : phase.point? = none := by cases hnext <;> rfl
      rw [Docket.entries_record_of_proceed hphase hpush] at hentry
      obtain ⟨-, _, hphase', htold⟩ := h.entries id e hentry
      cases hphase.symm.trans hphase'
      cases htold with
      | pushed =>
        -- at the mark the producer goes on to a flush
        simp only [State.next, hphase, State.proceed] at hafter
        rw [State.phase?_afterPush_self, if_neg (Nat.not_lt.2 hmark)] at hafter
        split at hafter <;> cases hafter
      | waiting hwaits =>
        cases hwaits with
        | flushing deadline =>
          obtain ⟨result, -, hflushed⟩ := State.flushed_of_own henabled hphase hafter
          exact ⟨result, hflushed⟩
        | requesting | admitted | awaiting => cases hnext
      | below | late | reported => cases hnext
    | openReader | start | stop | leave | serve | tick | work | pass => cases hown

/-- What a write at the mark was told when it returns, unless its time is over. -/
theorem Tracked.reported_of_returned (h : Tracked t d s) (hentry : d.entries.lookup id = some e)
    (hmark : t.highWaterMark ≤ e.size) {outcome : Outcome}
    (hphase : s.phase? id = some (.returned outcome))
    (hlate : outcome ≠ .done (.error (.flushTimeout t.flushTimeout))) :
    ∃ result, outcome = .done result ∧ d.Reported s id e.rank result := by
  obtain ⟨-, _, hphase', htold⟩ := h.entries id e hentry
  cases hphase.symm.trans hphase'
  cases htold with
  | below hsize => exact absurd hsize (Nat.not_lt.2 hmark)
  | waiting hwaits => cases hwaits
  | late => exact absurd rfl hlate
  | reported hreported => exact ⟨_, rfl, hreported⟩

/-- A producer at the mark is never released with its point in the buffer. For every run: when a
write whose point filled the buffer up to the high-water mark returns, and not because its time is
over, the buffer is empty and its point is in a batch that was handed to the store. -/
theorem mark_write_released_after_handover (hrun : DocketRun B t store d s)
    (hstep : s.Step B.journaled t a s') (hentry : (d.record s a s').entries.lookup id = some e)
    (hmark : t.highWaterMark ≤ e.size) {outcome : Outcome}
    (hbefore : ∀ o, s.phase? id ≠ some (.returned o))
    (hafter : s'.phase? id = some (.returned outcome))
    (hlate : outcome ≠ .done (.error (.flushTimeout t.flushTimeout))) :
    s'.buffer = #[] ∧ ∃ k c, s'.store.2.Holds e.rank k c ∧ e.point ∈ c.batch := by
  have htracked := hrun.tracked
  have htracked' := (hrun.step hstep).tracked
  obtain ⟨henabled, rfl⟩ := hstep
  obtain ⟨_, hflushed⟩ :=
    htracked.flushed_of_return henabled hentry hmark hbefore hafter hlate
  obtain ⟨-, -, k, c, hholds, -⟩ := htracked'.reported_of_returned hentry hmark hafter hlate
  obtain ⟨hpoint, -⟩ := htracked'.entries id e hentry
  refine ⟨htracked.transit.buffer_of_flushed hflushed, k, c, hholds, hholds.mem_batch ?_⟩
  -- a point that was handed over is in the first part of the history
  rw [State.history, List.getElem?_append_left hholds.rank_lt] at hpoint
  exact hpoint

/-- The flush task is asked to stop while a producer at the mark has room for its request. The
request comes too late to be served: the end of the task lets the producer flush the buffer itself,
where the final flush has left nothing. -/
theorem mark_write_released_after_handover_dismissed :
    ∃ d s s' e k c, DocketRun PlannedStore.backend { highWaterMark := 1 } {} d s ∧
      s.task = .ended ∧ s.Step PlannedStore.backend.journaled { highWaterMark := 1 } (.proceed 0) s' ∧
      s'.phase? 0 = some (.returned (.done (.ok ()))) ∧
      s'.buffer = #[] ∧ s'.store.2.Holds (Entry.rank e) k c ∧ e.point ∈ c.batch := by
  obtain ⟨d, s, s', e, hplay, htask, hstep, hentry, hmark, hphase, hafter⟩ : ∃ d s s' e,
      DocketRun.play PlannedStore.backend { highWaterMark := 1 }
          [.start, .call 0 (.writeOf "a" "first"), .proceed 0, .proceed 0, .proceed 0, .stop, .leave,
            .work, .proceed 0, .work, .work]
          {} { store := ({}, []) } = some (d, s) ∧
        s.task = .ended ∧
        s.Step PlannedStore.backend.journaled { highWaterMark := 1 } (.proceed 0) s' ∧
        (d.record s (.proceed 0) s').entries.lookup 0 = some e ∧ 1 ≤ e.size ∧
        s.phase? 0 = some (.flushing (some 60000000000) .result) ∧
        s'.phase? 0 = some (.returned (.done (.ok ()))) :=
    ⟨_, _, _, _, rfl, rfl, ⟨rfl, rfl⟩, rfl, Nat.le_refl 1, rfl, rfl⟩
  have hrun := DocketRun.refl.of_play hplay
  obtain ⟨hempty, k, c, hholds, hpoint⟩ := mark_write_released_after_handover hrun hstep hentry hmark
    (fun o ho => nomatch hphase.symm.trans ho) hafter nofun
  exact ⟨d, s, s', e, k, c, hrun, htask, hstep, hafter, hempty, hholds, hpoint⟩

/-- A forced flush reports the fate of the batch that was handed over for the producer. For every
run: if a write whose point filled the buffer up to the high-water mark has returned, and not
because its time was over, its point is in a batch. If this batch was handed over for the write,
by itself or in answer to its request, the write has returned what the store answered. -/
theorem forced_flush_reports_own_batch (hrun : DocketRun B t store d s)
    (hentry : d.entries.lookup id = some e) (hmark : t.highWaterMark ≤ e.size)
    {result : Except SinkError Unit} (hphase : s.phase? id = some (.returned (.done result)))
    (hlate : result ≠ .error (.flushTimeout t.flushTimeout)) :
    s.history[e.rank]? = some e.point ∧ (∃ k c, s.store.2.Holds e.rank k c) ∧
      ∀ k c, s.store.2.Holds e.rank k c → d.owners[k]? = some (some id) →
        c.answer.result? = some result := by
  have htracked := hrun.tracked
  obtain ⟨_, hresult, k, c, hholds, hreported⟩ := htracked.reported_of_returned hentry hmark hphase
    (by simpa using hlate)
  cases hresult
  refine ⟨(htracked.entries id e hentry).1, ⟨k, c, hholds⟩, ?_⟩
  intro k' c' hholds' howner
  -- a point is in one batch only
  obtain ⟨rfl, rfl⟩ := hholds.unique hholds'
  exact hreported howner

/-- The flush task serves a request, and the store refuses the batch: so the producer is told. -/
theorem forced_flush_reports_own_batch_refused :
    ∃ d s e k c, DocketRun PlannedStore.backend { highWaterMark := 1 }
        { answers := [.refused (.write "down")] } d s ∧
      s.phase? 0 = some (.returned (.done (.error (.write "down")))) ∧
      s.store.2.Holds (Entry.rank e) k c ∧ d.owners[k]? = some (some 0) ∧
      c.answer.result? = some (.error (.write "down")) := by
  obtain ⟨d, s, e, hplay, hentry, hmark, hphase, howners, hlength⟩ : ∃ d s e,
      DocketRun.play PlannedStore.backend { highWaterMark := 1 }
          [.start, .call 0 (.writeOf "a" "first"), .proceed 0, .proceed 0, .proceed 0, .proceed 0,
            .serve, .work, .work]
          {} { store := ({ answers := [.refused (.write "down")] }, []) } = some (d, s) ∧
        d.entries.lookup 0 = some e ∧ 1 ≤ e.size ∧
        s.phase? 0 = some (.returned (.done (.error (.write "down")))) ∧
        d.owners = [some 0] ∧ s.store.2.length = 1 :=
    ⟨_, _, _, rfl, rfl, Nat.le_refl 1, rfl, rfl, rfl⟩
  have hrun := DocketRun.refl.of_play hplay
  obtain ⟨-, ⟨k, c, hholds⟩, hreported⟩ :=
    forced_flush_reports_own_batch hrun hentry hmark hphase nofun
  have howner : d.owners[k]? = some (some 0) := by
    obtain rfl : k = 0 := Nat.lt_one_iff.1 (hlength ▸ hholds.lt_length)
    rw [howners]
    rfl
  exact ⟨d, s, e, k, c, hrun, hphase, hholds, howner, hreported k c hholds howner⟩

/-- A write at the mark can return `Ok` although the store refused the batch with its point. The
periodic flush comes between the push of the producer and its request: the task loses the point, and
then serves the request on an empty buffer. -/
theorem forced_flush_acknowledges_lost_point :
    ∃ d s e k c, DocketRun PlannedStore.backend { highWaterMark := 1 }
        { answers := [.refused (.write "down")] } d s ∧
      d.entries.lookup 0 = some e ∧ 1 ≤ e.size ∧
      s.phase? 0 = some (.returned (.done (.ok ()))) ∧
      s.store.2.Holds e.rank k c ∧ c.answer = .refused (.write "down") := by
  obtain ⟨d, s, e, c, hplay, hentry, hmark, hphase, hstore, hrank, hbatch, hanswer⟩ :
      ∃ d s e c, DocketRun.play PlannedStore.backend { highWaterMark := 1 }
          [.start, .pass 1000000000, .call 0 (.writeOf "a" "first"), .proceed 0, .tick, .work, .work,
            .proceed 0, .proceed 0, .proceed 0, .serve, .work]
          {} { store := ({ answers := [.refused (.write "down")] }, []) } = some (d, s) ∧
        d.entries.lookup 0 = some e ∧ 1 ≤ e.size ∧
        s.phase? 0 = some (.returned (.done (.ok ()))) ∧
        s.store.2 = [c] ∧ e.rank = 0 ∧ c.batch.length = 1 ∧ c.answer = .refused (.write "down") :=
    ⟨_, _, _, _, rfl, rfl, Nat.le_refl 1, rfl, rfl, rfl, rfl, rfl⟩
  refine ⟨d, s, e, 0, c, DocketRun.refl.of_play hplay, hentry, hmark, hphase, ?_, hanswer⟩
  rw [hstore, hrank]
  exact ⟨rfl, Nat.le_refl 0, by simp [hbatch]⟩

end SyslogCollector.Store.Writer
