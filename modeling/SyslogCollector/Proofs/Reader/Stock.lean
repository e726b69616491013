import SyslogCollector.Proofs.Reader.Answer
import SyslogCollector.Proofs.Reader.Progress
import SyslogCollector.Proofs.Writer.Batches
/-!
# What the store in memory has of the accepted points

The store has, of every application, the points that were handed to it, and these and the buffer
are the points that the writer accepted (`Stock`). While a batch is under way the buffer is empty,
so after a flush of its own a caller finds everything in the store that was accepted before
(`buffer_of_flushed`). Every run keeps this, and what was handed over stays so (`Stocked`).
-/

namespace SyslogCollector.Store.Writer

namespace Producers

variable {σ : Type} {l : Ledger} {s : State σ}

/-- Unless a producer takes the buffer, no point is accepted. -/
theorem points_record (h : Producers l s) {a : Action}
    (hpush : ∀ id, a = .proceed id → (s.phase? id).bind Phase.point? = none) :
    (l.record s a).points = l.points := by
  have htaken : (l.follow a).taken = l.taken := by
    cases a with
    | call id c =>
      cases c with
      | write m received =>
        simp only [Ledger.follow]
        split <;> rfl
      | flush | count | read | wait => rfl
    | proceed id =>
      -- who does not wait for the buffer counts at most
      have hlookup := h.lookup_eq_none (hpush id rfl)
      simp only [Ledger.follow, Ledger.proceed, hlookup]
      split <;> rfl
    | abandon | expire | openReader | start | stop | leave | serve | tick | work | pass => rfl
  unfold Ledger.points
  rw [Ledger.taken_record, Ledger.point?_record, htaken, h.map_point?_follow]

/-- A producer that takes the buffer adds its point. -/
theorem points_record_of_pushing (h : Producers l s) {id : Nat} {p : Point}
    (hphase : s.phase? id = some (.pushing p)) :
    (l.record s (.proceed id)).points = l.points ++ [p] := by
  obtain ⟨place, hlookup, hpoint⟩ := h.lookup_of_pushing hphase
  have hproceed : l.follow (.proceed id) = _ := Ledger.proceed_of_waiting hlookup
  have htaken : (l.follow (.proceed id)).taken = l.taken ++ [place] := by rw [hproceed]
  have hplace : (l.follow (.proceed id)).point? place = some p :=
    (Ledger.point?_follow (Ledger.lt_of_point?_eq_some hpoint) _).trans hpoint
  unfold Ledger.points
  rw [Ledger.taken_record, Ledger.point?_record, htaken, List.map_append, List.map_singleton,
    h.map_point?_follow, hplace, List.filterMap_append]
  rfl

/-- What was accepted stays accepted. -/
theorem points_prefix_record (h : Producers l s) (a : Action) :
    l.points <+: (l.record s a).points := by
  by_cases hpush : ∃ id p, a = .proceed id ∧ s.phase? id = some (.pushing p)
  · obtain ⟨id, p, rfl, hphase⟩ := hpush
    rw [h.points_record_of_pushing hphase]
    exact List.prefix_append _ _
  · have hnone : ∀ id, a = .proceed id → (s.phase? id).bind Phase.point? = none := by
      intro id ha
      cases hphase : s.phase? id with
      | none => rfl
      | some phase =>
        cases phase with
        | pushing p => exact absurd ⟨id, p, ha, hphase⟩ hpush
        | _ => rfl
    have hsame := h.points_record hnone
    exact hsame ▸ List.prefix_rfl

end Producers

/-- How the points in the store and in the buffer hang together with those that were accepted. -/
structure Stock (accepted handed : List Point) (s : State MemoryStore) : Prop where
  /-- The applications of the store are in order. -/
  inOrder : MemoryStore.InOrder s.store.series
  /-- The store has of every application what was handed over. -/
  stored : ∀ m, s.store.points m = handed.filter (·.measurement = m)
  /-- What was accepted was handed over or waits in the buffer. -/
  accepted : handed ++ s.buffer.toList = accepted
  /-- Nothing waits while a batch is under way, -/
  empty : s.flight ≠ none → s.buffer = #[]
  /-- and the store takes it. -/
  taken : ∀ f, s.flight = some f → f.answer = .taken

namespace Stock

variable {accepted handed : List Point} {s s' : State MemoryStore}

theorem initial (size : Nat) : Stock [] [] { store := .withChunkSize size } where
  inOrder := .nil
  stored _ := rfl
  accepted := rfl
  empty h := absurd rfl h
  taken _ h := nomatch h

/-- Only the store, the buffer and the batch under way matter. -/
theorem congr (h : Stock accepted handed s) (hstore : s'.store = s.store)
    (hbuffer : s'.buffer = s.buffer) (hflight : s'.flight = none ∨ s'.flight = s.flight) :
    Stock accepted handed s' where
  inOrder := hstore ▸ h.inOrder
  stored := hstore ▸ h.stored
  accepted := hbuffer ▸ h.accepted
  empty hne := by
    rcases hflight with hflight | hflight
    · exact absurd hflight hne
    · rw [hbuffer]
      exact h.empty (hflight ▸ hne)
  taken f hf := by
    rcases hflight with hflight | hflight
    · cases hflight.symm.trans hf
    · exact h.taken f (hflight ▸ hf)

/-- The points of the buffer are handed over. -/
theorem submit (h : Stock accepted handed s) (party : Party) :
    Stock accepted (handed ++ s.buffer.toList) (s.submit .memory party) where
  inOrder := h.inOrder.write _
  stored m := by
    rw [List.filter_append, ← h.stored m]
    exact MemoryStore.points_write h.inOrder _ m
  accepted := by
    rw [← h.accepted]
    exact List.append_nil _
  empty _ := rfl
  taken f hf := by
    cases hf
    rfl

/-- The points hang together after every step. -/
theorem next {l : Ledger} {t : Tuning} {a : Action} (h : Stock l.points handed s)
    (hproducers : Producers l s) (henabled : s.enabled a = true) :
    ∃ handed', handed <+: handed' ∧
      Stock (l.record s a).points handed' (s.next .memory t a) := by
  have hflow := State.flow_next (B := .memory) (t := t) henabled
  generalize hnext : s.next .memory t a = s' at hflow ⊢
  have hkeep (hpush : ∀ id, a = .proceed id → (s.phase? id).bind Phase.point? = none)
      (hstore : s'.store = s.store) (hbuffer : s'.buffer = s.buffer)
      (hflight : s'.flight = none ∨ s'.flight = s.flight) :
      ∃ handed', handed <+: handed' ∧ Stock (l.record s a).points handed' s' := by
    refine ⟨handed, List.prefix_rfl, ?_⟩
    rw [hproducers.points_record hpush]
    exact h.congr hstore hbuffer hflight
  cases hflow with
  | kept hquiet hpipe =>
    exact hkeep (fun id ha => (hquiet.bystander id ha).1) (congrArg Pipe.store hpipe)
      (congrArg Pipe.buffer hpipe) (.inr (congrArg Pipe.flight hpipe))
  | @pushed id p s' hphase hfree hpipe =>
    -- the accepted points and the buffer get the same point at their ends
    have hstore : s'.store = s.store := congrArg Pipe.store hpipe
    have hbuffer : s'.buffer = s.buffer.push p := congrArg Pipe.buffer hpipe
    have hflight : s'.flight = none := (congrArg Pipe.flight hpipe).trans hfree
    refine ⟨handed, List.prefix_rfl, ?_⟩
    rw [hproducers.points_record_of_pushing hphase, ← h.accepted]
    refine ⟨hstore ▸ h.inOrder, hstore ▸ h.stored, ?_, fun hne => absurd hflight hne,
      fun f hf => nomatch hflight.symm.trans hf⟩
    rw [hbuffer, Array.toList_push, List.append_assoc]
  | counted hphase hpipe =>
    refine hkeep ?_ (congrArg Pipe.store hpipe) (congrArg Pipe.buffer hpipe)
      (.inr (congrArg Pipe.flight hpipe))
    rintro _ ⟨⟩
    rw [hphase]
    rfl
  | @submitted a party hturn hfree hne =>
    -- the points of the buffer are from now on those that were handed over last
    refine ⟨handed ++ s.buffer.toList, List.prefix_append _ _, ?_⟩
    rw [hproducers.points_record fun id ha => (hturn.bystander id ha).1]
    exact h.submit party
  | answered hturn hflight hresult hpipe =>
    exact hkeep (fun id ha => (hturn.bystander id ha).1) (congrArg Pipe.store hpipe)
      (congrArg Pipe.buffer hpipe) (.inl (congrArg Pipe.flight hpipe))
  | cut hleave hflight hholder hpipe =>
    refine hkeep ?_ (congrArg Pipe.store hpipe) (congrArg Pipe.buffer hpipe)
      (.inl (congrArg Pipe.flight hpipe))
    rcases hleave with rfl | rfl <;> exact fun _ ha => nomatch ha
  | queried q hphase hpipe =>
    refine hkeep ?_ (congrArg Pipe.store hpipe) (congrArg Pipe.buffer hpipe)
      (.inr (congrArg Pipe.flight hpipe))
    rintro _ ⟨⟩
    rw [hphase]
    rfl

/-- When a flush of a caller for a query is over, nothing is left in the buffer. -/
theorem buffer_of_flushed {t : Tuning} (h : Stock accepted handed s) {id r : Nat}
    {deadline : Option Moment} (hphase : s.phase? id = some (.flushing deadline (.query r)))
    (hafter : (s.next .memory t (.proceed id)).phase? id = some (.querying r)) :
    s.buffer = #[] := by
  cases hflight : s.flight with
  | some f => exact h.empty (by simp [hflight])
  | none =>
    cases hempty : s.buffer.isEmpty with
    | true => exact Array.isEmpty_iff.1 hempty
    | false =>
      -- with points in the buffer the flush has just begun
      simp only [State.next, hphase, State.proceed, State.flushStep, hflight, hempty] at hafter
      cases hphase.symm.trans hafter

/-- When a flush has come to its end, nothing is left in the buffer. -/
theorem buffer_of_end {result : Except SinkError Unit} (h : Stock accepted handed s)
    (hflushed : s.Flushed s' result) : s'.buffer = #[] := by
  rw [hflushed.buffer]
  rcases hflushed.result with ⟨-, hempty, -⟩ | ⟨f, hflight, -⟩
  · exact hempty
  · exact h.empty (by simp [hflight])

/-- A reader that has not sent its query can be answered, as the store takes every batch. -/
theorem canAnswer {t : Tuning} {l : Ledger} {g : ReaderLog} {r : Nat} {params : QueryParams}
    {q : SeriesQuery} (h : Stock accepted handed s) (hheld : s.Held)
    (hreader : s.reader? r = some (.pending params))
    (hquery : SeriesQuery.ofParams params = .ok q) : CanAnswer .memory t r l g s := by
  refine .of_pending (fun _ _ => nofun) hheld (fun f hflight => ?_) hreader hquery
  rw [h.taken f hflight]
  exact nofun

end Stock

/-! ### Runs -/

/-- What a run over a store in memory keeps, with the points that were handed over. -/
structure Stocked (l : Ledger) (handed : List Point) (s : State MemoryStore) : Prop where
  held : s.Held
  producers : Producers l s
  stock : Stock l.points handed s

namespace Stocked

variable {l : Ledger} {handed : List Point} {s s' : State MemoryStore} {t : Tuning} {a : Action}
  {size : Nat}

theorem initial (size : Nat) : Stocked {} [] { store := .withChunkSize size } where
  held := nofun
  producers := .initial _ rfl
  stock := .initial size

theorem next (h : Stocked l handed s) (henabled : s.enabled a = true) :
    ∃ handed', handed <+: handed' ∧ Stocked (l.record s a) handed' (s.next .memory t a) := by
  obtain ⟨handed', hhanded, hstock⟩ := h.stock.next (t := t) h.producers henabled
  exact ⟨handed', hhanded, h.held.next henabled, h.producers.record henabled, hstock⟩

theorem of_run (h : Run .memory t { store := .withChunkSize size } l s) :
    ∃ handed, Stocked l handed s := by
  induction h with
  | refl => exact ⟨[], .initial size⟩
  | step _ hstep ih =>
    obtain ⟨handed, hstocked⟩ := ih
    obtain ⟨henabled, rfl⟩ := hstep
    obtain ⟨handed', -, hnext⟩ := hstocked.next (t := t) henabled
    exact ⟨handed', hnext⟩

/-- Later on there are more accepted points and more of them were handed over. -/
theorem reach (h : Stocked l handed s) (hreach : State.Reachable .memory t s s') :
    ∃ l' handed', l.points <+: l'.points ∧ handed <+: handed' ∧ Stocked l' handed' s' := by
  induction hreach with
  | refl => exact ⟨l, handed, List.prefix_rfl, List.prefix_rfl, h⟩
  | @step s₁ _ a _ hstep ih =>
    obtain ⟨l₁, handed₁, hpoints, hhanded, hstocked⟩ := ih
    obtain ⟨henabled, rfl⟩ := hstep
    obtain ⟨handed', hmore, hnext⟩ := hstocked.next (t := t) henabled
    exact ⟨l₁.record s₁ a, handed', hpoints.trans (hstocked.producers.points_prefix_record a),
      hhanded.trans hmore, hnext⟩

/-- What was handed over and is asked for is among the matched rows. -/
theorem row_mem {params : QueryParams} {q : SeriesQuery} {p : Point} (h : Stocked l handed s)
    (hasks : ∀ p, (p.measurement == q.measurement && q.admits p) = asksFor params p)
    (hhanded : p ∈ handed) (hasked : asksFor params p = true) : p.row ∈ s.store.rows q := by
  rw [rows_eq hasks (h.stock.stored _)]
  refine List.mem_map_of_mem (List.mem_mergeSort.2 ?_)
  exact List.mem_filter.2 ⟨hhanded, hasked⟩

/-- A reader that has not sent its query can be brought to it. -/
theorem exists_querying {r : Nat} {params : QueryParams} {q : SeriesQuery} (h : Stocked l handed s)
    (hreader : s.reader? r = some (.pending params))
    (hquery : SeriesQuery.ofParams params = .ok q) :
    ∃ s' c, State.Reachable .memory t s s' ∧ s'.phase? c = some (.querying r) ∧
      s'.reader? r = some (.pending params) :=
  CanAnswer.exists_querying (l := l) (g := {}) hreader hquery rfl
    (h.stock.canAnswer h.held hreader hquery)

end Stocked

end SyslogCollector.Store.Writer
