import Mathlib
import SyslogCollector.Proofs.Reader.Progress
import SyslogCollector.Proofs.Reader.Stock
/-!
# A reader gives what was accepted before its first use

The first use of a reader flushes the buffer and then sends the query. So the answer covers every
point that was accepted before that use, and nothing that is accepted after the first reading; the
store answers at once, so what comes later does not change it. `Stage` follows a reader through a
run.
-/

namespace SyslogCollector.Store.Writer

variable {r : Nat} {g : ReaderLog} {accepted handed : List Point} {s : State MemoryStore}

/-- A reader that has not given anything yet. -/
structure Unanswered (r : Nat) (g : ReaderLog) (accepted handed : List Point)
    (s : State MemoryStore) (params : QueryParams) : Prop where
  reader : s.reader? r = some (.pending params)
  opened : g.opened = some params
  name : params.appName ≠ ""
  answered : g.answered = none
  readings : g.readings = []
  before : ∀ points, g.before = some points → points <+: accepted
  begun : ∀ c, s.Uses c r → g.before ≠ none
  /-- When the query is about to be sent, the points from before the first use are in the store. -/
  flushed : ∀ c, s.phase? c = some (.querying r) →
    ∃ points, g.before = some points ∧ points <+: handed

/-- A reader that gives the texts `all`, made of the points `snapshot`. -/
structure Answered (r : Nat) (g : ReaderLog) (s : State MemoryStore) (params : QueryParams)
    (snapshot : List Point) (all : List String) : Prop where
  opened : g.opened = some params
  before : ∃ points, g.before = some points ∧ points <+: snapshot
  answered : ∃ points, g.answered = some points ∧ snapshot <+: points
  ends : ∀ text ∈ all, text.toList.getLast? = some '\n'
  whole : String.join all = answerText params snapshot
  readings : g.readings = (List.range g.readings.length).map (readingAt all)
  remains : ∃ x, s.reader? r = some x ∧ Remains x (all.drop g.readings.length)
  unused : ∀ c, ¬ s.Uses c r

/-- Where a reader stands, by its log. -/
inductive Stage (r : Nat) (g : ReaderLog) (accepted handed : List Point) (s : State MemoryStore) :
    Prop
  | unopened (hreader : s.reader? r = none) (hlog : g = {}) (hunused : ∀ c, ¬ s.Uses c r)
  | nameless {params : QueryParams} (hreader : s.reader? r ≠ none)
      (hopened : g.opened = some params) (hname : params.appName = "")
  | unanswered {params : QueryParams} (h : Unanswered r g accepted handed s params)
  | answered {params : QueryParams} {snapshot : List Point} {all : List String}
      (h : Answered r g s params snapshot all)

section

variable {l : Ledger} {t : Tuning} {a : Action} {accepted' handed' : List Point}

/-! ### A step that does not touch the reader -/

/-- A step that does not touch the reader lets nobody use it who did not. -/
theorem State.uses_of_not_touches {c : Nat} (h : ¬ s.Touches r a) (henabled : s.enabled a = true)
    (huses : (s.next .memory t a).Uses c r) : s.Uses c r := by
  rcases State.uses_of_next henabled huses with hbefore | rfl
  · exact hbefore
  · exact absurd rfl h

theorem Unanswered.keep {params : QueryParams} (h : Unanswered r g accepted handed s params)
    (hstock : Stock accepted handed s) (htouches : ¬ s.Touches r a)
    (henabled : s.enabled a = true) (haccepted : accepted <+: accepted')
    (hhanded : handed <+: handed') :
    Unanswered r g accepted' handed' (s.next .memory t a) params where
  reader := (State.reader?_next htouches).trans h.reader
  opened := h.opened
  name := h.name
  answered := h.answered
  readings := h.readings
  before points hpoints := (h.before points hpoints).trans haccepted
  begun c hc := h.begun c (State.uses_of_not_touches htouches henabled hc)
  flushed c hc := by
    rcases State.phase?_of_uses_next henabled hc rfl with
      hphase | ⟨deadline, rfl, hphase, -⟩ | ⟨-, hflushing⟩
    · obtain ⟨points, hpoints, hprefix⟩ := h.flushed c hphase
      exact ⟨points, hpoints, hprefix.trans hhanded⟩
    · -- the flush is over, so the store has all that was accepted
      have hempty := hstock.buffer_of_flushed hphase hc
      have hall : handed = accepted := by
        rw [← hstock.accepted, hempty]
        exact (List.append_nil _).symm
      obtain ⟨points, hpoints⟩ := Option.ne_none_iff_exists'.1
        (h.begun c (State.Uses.of_phase? hphase rfl))
      have hprefix : points <+: handed := hall ▸ h.before points hpoints
      exact ⟨points, hpoints, hprefix.trans hhanded⟩
    · cases hflushing

theorem Answered.keep {params : QueryParams} {snapshot : List Point} {all : List String}
    (h : Answered r g s params snapshot all) (htouches : ¬ s.Touches r a)
    (henabled : s.enabled a = true) : Answered r g (s.next .memory t a) params snapshot all where
  opened := h.opened
  before := h.before
  answered := h.answered
  ends := h.ends
  whole := h.whole
  readings := h.readings
  remains := by
    rw [State.reader?_next htouches]
    exact h.remains
  unused c hc := h.unused c (State.uses_of_not_touches htouches henabled hc)

/-! ### A step that touches it -/

/-- A reader is made. -/
theorem Stage.of_opened {s' : State MemoryStore} {params : QueryParams}
    (hreader : s'.reader? r = some (.pending params)) (hunused : ∀ c, ¬ s'.Uses c r) :
    Stage r { opened := some params } accepted handed s' := by
  by_cases hname : params.appName = ""
  · exact .nameless (by simp [hreader]) rfl hname
  · refine .unanswered ⟨hreader, rfl, hname, rfl, rfl, nofun, ?_, ?_⟩
    · intro c hc
      exact absurd hc (hunused c)
    · intro c hc
      exact absurd (State.Uses.of_phase? hc rfl) (hunused c)

/-- The first use of a reader begins. -/
theorem Unanswered.begin {params : QueryParams} {id : Nat}
    (h : Unanswered r g l.points handed s params) (halone : s.Alone (.call id (.read r)) = true)
    (henabled : s.enabled (.call id (.read r)) = true)
    (hreader : (s.next .memory t (.call id (.read r))).reader? r = some (.pending params))
    (hgiven : s.given? r (.call id (.read r)) (s.next .memory t (.call id (.read r))) = none)
    (haccepted : l.points <+: accepted') :
    Unanswered r (g.record r l s (.call id (.read r)) (s.next .memory t (.call id (.read r))))
      accepted' handed' (s.next .memory t (.call id (.read r))) params where
  reader := hreader
  opened := h.opened
  name := h.name
  answered := by simp [ReaderLog.record, hgiven, h.answered]
  readings := by simp [ReaderLog.record, hgiven, h.readings]
  before points hpoints := by
    simp only [ReaderLog.record, if_true] at hpoints
    cases hbefore : g.before with
    | none =>
      obtain rfl : l.points = points := by simpa [hbefore] using hpoints
      exact haccepted
    | some first =>
      obtain rfl : first = points := by simpa [hbefore] using hpoints
      exact (h.before first hbefore).trans haccepted
  begun c _ := by simp [ReaderLog.record]
  flushed c hc := by
    -- nobody used the reader, and the new user flushes first
    rcases State.phase?_of_uses_next henabled hc rfl with
      hphase | ⟨deadline, hproceed, -⟩ | ⟨-, hflushing⟩
    · exact absurd (State.Uses.of_phase? hphase rfl) (State.Alone.not_uses halone c)
    · cases hproceed
    · cases hflushing

/-- The query reaches the store, and the reader gives its first reading. -/
theorem Unanswered.answer {params : QueryParams} {id : Nat} {q : SeriesQuery}
    {s' : State MemoryStore} (h : Unanswered r g l.points handed s params)
    (hstock : Stock l.points handed s) (hphase : s.phase? id = some (.querying r))
    (hquery : SeriesQuery.ofParams params = .ok q)
    (hreader : s'.reader? r = some (nextLines ((s.store.query q).map .ok)).2)
    (hgiven : s.given? r (.proceed id) s' = some (nextLines ((s.store.query q).map .ok)).1)
    (hunused : ∀ c, ¬ s'.Uses c r) :
    Answered r (g.record r l s (.proceed id) s') s' params handed (texts (s.store.query q)) := by
  obtain ⟨q', hq', -, hasks⟩ := exists_ofParams h.name
  obtain rfl : q' = q := Except.ok.inj (hq'.symm.trans hquery)
  obtain ⟨hfirst, hremains⟩ := Remains.nextLines (s.store.query q')
  have hreadings : (g.record r l s (.proceed id) s').readings =
      [readingAt (texts (s.store.query q')) 0] := by
    rw [ReaderLog.readings_record, h.readings, hgiven, hfirst]
    rfl
  refine ⟨h.opened, h.flushed id hphase, ⟨l.points, ?_, ?_⟩, ?_, ?_, ?_, ?_, hunused⟩
  · rw [ReaderLog.answered_record, h.answered, hgiven]
    rfl
  · rw [← hstock.accepted]
    exact List.prefix_append _ _
  · exact fun text hmem => getLast?_of_mem_texts hmem
  · exact join_texts_query hasks (hstock.stored _)
  · rw [hreadings]
    rfl
  · rw [hreadings]
    exact ⟨_, hreader, by simpa using hremains⟩

/-- An answered reader gives its next text, or its end. -/
theorem Answered.read {params : QueryParams} {snapshot : List Point} {all : List String}
    {id : Nat} {s' : State MemoryStore} {x : Reader} {y : Reading}
    (h : Answered r g s params snapshot all)
    (hgiven : s.given? r (.call id (.read r)) s' = some y) (hreader : s'.reader? r = some x)
    (hy : y = readingAt all g.readings.length)
    (hremains : Remains x (all.drop (g.readings.length + 1)))
    (hunused : ∀ c, ¬ s'.Uses c r) :
    Answered r (g.record r l s (.call id (.read r)) s') s' params snapshot all := by
  have hreadings : (g.record r l s (.call id (.read r)) s').readings =
      g.readings ++ [readingAt all g.readings.length] := by
    rw [ReaderLog.readings_record, hgiven, hy]
    rfl
  obtain ⟨before, hbefore, hprefix⟩ := h.before
  obtain ⟨after, hafter, hlater⟩ := h.answered
  refine ⟨h.opened, ⟨before, ?_, hprefix⟩, ⟨after, ?_, hlater⟩, h.ends, h.whole, ?_, ?_, hunused⟩
  · simp [ReaderLog.record, hbefore]
  · simp [ReaderLog.record, hafter]
  · rw [hreadings, List.length_append, List.length_singleton, List.range_succ, List.map_append,
      ← h.readings]
    rfl
  · rw [hreadings, List.length_append, List.length_singleton]
    exact ⟨x, hreader, hremains⟩

/-- A reader that is there stays there, and was opened for what it was opened for. -/
theorem State.opened_next (hreader : s.reader? r ≠ none) (henabled : s.enabled a = true) :
    (s.next .memory t a).reader? r ≠ none ∧
      (g.record r l s a (s.next .memory t a)).opened = g.opened := by
  have huse := State.use_next .memory t r henabled
  constructor
  · generalize (s.next .memory t a).reader? r = after at huse ⊢
    generalize s.given? r a (s.next .memory t a) = given at huse
    cases huse with
    | untouched | late => exact hreader
    | _ => exact nofun
  · cases a with
    | openReader reader params =>
      have hne : reader ≠ r := by
        rintro rfl
        exact hreader (Option.isNone_iff_eq_none.1 henabled)
      exact if_neg hne
    | _ => rfl

/-- A reader that gave nothing yet after one more step. -/
theorem Unanswered.next {params : QueryParams} (h : Unanswered r g l.points handed s params)
    (hstock : Stock l.points handed s) (hsingle : s.SingleUser r) (henabled : s.enabled a = true)
    (halone : s.Alone a = true) (haccepted : l.points <+: accepted')
    (hhanded : handed <+: handed') :
    Stage r (g.record r l s a (s.next .memory t a)) accepted' handed' (s.next .memory t a) := by
  have huse := State.use_next .memory t r henabled
  have hunused := State.not_uses_of_given? (B := .memory) (t := t) hsingle henabled halone
  generalize hreader' : (s.next .memory t a).reader? r = after at huse
  generalize hgiven : s.given? r a (s.next .memory t a) = given at huse hunused
  -- a request with a name is a query, so it is never refused
  obtain ⟨q, hq, -⟩ := exists_ofParams h.name
  have hpending {params'} (hreader : s.reader? r = some (.pending params')) :
      params' = params := by
    cases h.reader.symm.trans hreader
    rfl
  cases huse with
  | untouched htouches =>
    rw [State.record_of_not_touches htouches henabled]
    exact .unanswered (h.keep hstock htouches henabled haccepted hhanded)
  | begun hreader =>
    rw [hpending hreader] at hreader'
    exact .unanswered (h.begin halone henabled hreader' hgiven haccepted)
  | asked hphase hreader hquery =>
    rw [hpending hreader] at hquery
    exact .answered (h.answer hstock hphase hquery hreader' hgiven (hunused nofun))
  | refused hreader hquery | denied _ hreader hquery =>
    rw [hpending hreader, hq] at hquery
    cases hquery
  | opened _ hnew => cases h.reader.symm.trans hnew
  | continued hreader | ended hreader => cases h.reader.symm.trans hreader
  | late _ hreader => exact absurd h.reader (hreader _)

/-- An answered reader after one more step. -/
theorem Answered.next {params : QueryParams} {snapshot : List Point} {all : List String}
    (h : Answered r g s params snapshot all) (hsingle : s.SingleUser r)
    (henabled : s.enabled a = true) (halone : s.Alone a = true) :
    Answered r (g.record r l s a (s.next .memory t a)) (s.next .memory t a) params snapshot
      all := by
  have huse := State.use_next .memory t r henabled
  have hunused := State.not_uses_of_given? (B := .memory) (t := t) hsingle henabled halone
  generalize hreader' : (s.next .memory t a).reader? r = after at huse
  generalize hgiven : s.given? r a (s.next .memory t a) = given at huse hunused
  obtain ⟨x, hreader, hremains⟩ := h.remains
  generalize hdrop : all.drop g.readings.length = left at hremains
  cases huse with
  | untouched htouches =>
    rw [State.record_of_not_touches htouches henabled]
    exact h.keep htouches henabled
  | continued hstreaming =>
    cases hreader.symm.trans hstreaming
    cases hremains with
    | streaming rest =>
      obtain ⟨hfirst, hrest⟩ := Remains.nextLines rest
      refine h.read hgiven hreader' ?_ ?_ (hunused nofun)
      · rw [hfirst, ← hdrop, readingAt_drop]
      · rw [← List.tail_drop, hdrop]
        exact hrest
  | ended hfinished =>
    cases hreader.symm.trans hfinished
    cases hremains with
    | finished =>
      refine h.read hgiven hreader' ?_ ?_ (hunused nofun)
      · rw [← readingAt_drop, hdrop]
        rfl
      · rw [← List.tail_drop, hdrop]
        exact .finished
  | asked hphase | denied hphase | late hphase =>
    -- nobody is about to send its query
    exact absurd (State.Uses.of_phase? hphase rfl) (h.unused _)
  | opened _ hnew => cases hreader.symm.trans hnew
  | refused hpending | begun hpending =>
    cases hreader.symm.trans hpending
    cases hremains

/-- A reader stands somewhere after every step. -/
theorem Stage.next (h : Stage r g l.points handed s) (hstock : Stock l.points handed s)
    (hsingle : s.SingleUser r) (henabled : s.enabled a = true) (halone : s.Alone a = true)
    (haccepted : l.points <+: accepted') (hhanded : handed <+: handed') :
    Stage r (g.record r l s a (s.next .memory t a)) accepted' handed' (s.next .memory t a) := by
  cases h with
  | unopened hreader hlog hnobody =>
    have huse := State.use_next .memory t r henabled
    generalize hreader' : (s.next .memory t a).reader? r = after at huse
    generalize hgiven : s.given? r a (s.next .memory t a) = given at huse
    cases huse with
    | untouched htouches =>
      rw [State.record_of_not_touches htouches henabled]
      refine .unopened (hreader'.trans hreader) hlog fun c hc => ?_
      exact hnobody c (State.uses_of_not_touches htouches henabled hc)
    | opened params hnew =>
      have hrecord : g.record r l s (.openReader r params) (s.next .memory t
          (.openReader r params)) = { opened := some params } := by
        simp [ReaderLog.record, hlog, hgiven]
      rw [hrecord]
      refine .of_opened hreader' fun c hc => ?_
      rcases State.uses_of_next henabled hc with hbefore | hcall
      · exact hnobody c hbefore
      · cases hcall
    | late hphase => exact absurd (State.Uses.of_phase? hphase rfl) (hnobody _)
    | refused hpending | begun hpending | continued hpending | ended hpending
    | asked _ hpending | denied _ hpending => cases hreader.symm.trans hpending
  | nameless hreader hopened hname =>
    obtain ⟨hstays, hsame⟩ := State.opened_next (g := g) (l := l) (t := t) hreader henabled
    exact .nameless hstays (hsame.trans hopened) hname
  | unanswered h => exact h.next hstock hsingle henabled halone haccepted hhanded
  | answered h => exact .answered (h.next hsingle henabled halone)

end

/-! ### Runs -/

section

variable {l : Ledger} {t : Tuning} {size : Nat}

/-- What every run from an empty store keeps. -/
structure Followed (r : Nat) (l : Ledger) (g : ReaderLog) (s : State MemoryStore) : Prop where
  held : s.Held
  producers : Producers l s
  single : s.SingleUser r
  stage : ∃ handed, Stock l.points handed s ∧ Stage r g l.points handed s

theorem ReaderRun.followed
    (h : ReaderRun .memory t r { store := .withChunkSize size } l g s) : Followed r l g s := by
  induction h with
  | refl =>
    have hunused (c : Nat) :
        ¬ ({ store := MemoryStore.withChunkSize size } : State MemoryStore).Uses c r := nofun
    exact ⟨nofun, .initial _ rfl, fun c _ hc => absurd hc (hunused c),
      [], .initial size, .unopened rfl rfl hunused⟩
  | @step l g s s' a _ hstep halone ih =>
    obtain ⟨henabled, rfl⟩ := hstep
    obtain ⟨hheld, hproducers, hsingle, handed, hstock, hstage⟩ := ih
    have hstocked : Stocked l handed s := ⟨hheld, hproducers, hstock⟩
    obtain ⟨handed', hhanded, hstocked'⟩ := hstocked.next (t := t) henabled
    have hstage' := hstage.next (t := t) hstock hsingle henabled halone
      (hproducers.points_prefix_record a) hhanded
    exact ⟨hstocked'.held, hstocked'.producers, hsingle.next henabled halone,
      handed', hstocked'.stock, hstage'⟩

/-- A reader that gave nothing yet can be brought to its first reading. -/
theorem Unanswered.canAnswer {params : QueryParams} (h : Unanswered r g accepted handed s params)
    (hheld : s.Held) (hstock : Stock accepted handed s) : CanAnswer .memory t r l g s := by
  obtain ⟨q, hquery, -⟩ := exists_ofParams h.name
  exact hstock.canAnswer hheld h.reader hquery

/-- The next use of an answered reader ends at once. -/
theorem Answered.reading?_next {params : QueryParams} {snapshot : List Point}
    {all : List String} {id : Nat} (h : Answered r g s params snapshot all)
    (hnew : s.phase? id = none) :
    s.enabled (.call id (.read r)) = true ∧ s.Alone (.call id (.read r)) = true ∧
      (s.next .memory t (.call id (.read r))).reading? id =
        some (readingAt all g.readings.length) := by
  obtain ⟨x, hreader, hremains⟩ := h.remains
  refine ⟨by simp [State.enabled, hnew, hreader], State.Alone.of_not_uses h.unused, ?_⟩
  rw [← readingAt_drop]
  generalize all.drop g.readings.length = left at hremains
  simp only [State.next, State.begin, hreader]
  cases hremains with
  | streaming rest =>
    rw [← (Remains.nextLines rest).1]
    exact State.reading?_finish _ id _
  | finished => exact State.reading?_finish s id _

/-- Read your writes, and a snapshot. In every run of a writer over a store in memory, a reader
that was opened for a named application either gave nothing yet, and the run can go on to its first
reading, or there are texts that it gives one by one at its uses, and then the end. Each text ends
with a line feed, and put together they are the answer to its request for the points that were
accepted when it was first used: all from before that use and none from after its first reading.
Neither the size of the chunks nor the flushes nor anything that comes later plays a part. -/
theorem reader_gives_snapshot {params : QueryParams}
    (h : ReaderRun .memory t r { store := .withChunkSize size } l g s)
    (hopened : g.opened = some params) (hname : params.appName ≠ "") :
    (g.answered = none ∧ g.readings = [] ∧ CanAnswer .memory t r l g s) ∨
      ∃ before snapshot after all,
        g.before = some before ∧ g.answered = some after ∧
        before <+: snapshot ∧ snapshot <+: after ∧ (after = before → snapshot = before) ∧
        String.join all = answerText params snapshot ∧
        (∀ text ∈ all, text.toList.getLast? = some '\n') ∧
        g.readings = (List.range g.readings.length).map (readingAt all) ∧
        ∀ id, s.phase? id = none →
          s.enabled (.call id (.read r)) = true ∧ s.Alone (.call id (.read r)) = true ∧
            (s.next .memory t (.call id (.read r))).reading? id =
              some (readingAt all g.readings.length) := by
  obtain ⟨hheld, -, -, handed, hstock, hstage⟩ := h.followed
  cases hstage with
  | unopened _ hlog =>
    subst hlog
    cases hopened
  | nameless _ hopened' hnameless =>
    cases hopened'.symm.trans hopened
    exact absurd hnameless hname
  | unanswered h => exact .inl ⟨h.answered, h.readings, h.canAnswer hheld hstock⟩
  | @answered params' snapshot all h =>
    cases h.opened.symm.trans hopened
    obtain ⟨before, hbefore, hprefix⟩ := h.before
    obtain ⟨after, hafter, hlater⟩ := h.answered
    refine .inr ⟨before, snapshot, after, all, hbefore, hafter, hprefix, hlater, ?_, h.whole,
      h.ends, h.readings, fun id hnew => h.reading?_next hnew⟩
    rintro rfl
    exact (hlater.eq_of_length_le hprefix.length_le)

/-- With one row to a chunk: a reader is made, two points of its application and one of another
are accepted, one of them is flushed, the reader is used three times, and a fourth point is
accepted after the first of these uses. -/
theorem reader_gives_snapshot_row_by_row :
    ∃ l g s before all,
      ReaderRun .memory {} 0 { store := .withChunkSize 1 } l g s ∧
        g.opened = some { appName := "a" } ∧ g.before = some before ∧ before.length = 3 ∧
        l.points.length = 4 ∧ g.readings = [.lines "one\n", .lines "two\n", .atEnd] ∧
        g.readings = (List.range g.readings.length).map (readingAt all) ∧
        String.join all = answerText { appName := "a" } before := by
  have hplay : (ReaderRun.play .memory {} 0
      [.openReader 0 { appName := "a" }, .call 0 (.writeOf "a" "one"), .proceed 0, .proceed 0,
        .call 1 .flush, .proceed 1, .proceed 1, .call 2 (.writeOf "b" "other"), .proceed 2,
        .proceed 2, .call 3 (.writeOf "a" "two\n"), .proceed 3, .proceed 3, .call 4 (.read 0),
        .proceed 4, .proceed 4, .proceed 4, .call 5 (.writeOf "a" "three"), .proceed 5,
        .proceed 5, .call 6 (.read 0), .call 7 (.read 0)]
      {} {} { store := .withChunkSize 1 }).any (fun (l, g, _) =>
        g.opened == some { appName := "a" } && g.answered == g.before && l.points.length == 4 &&
          g.before.map List.length == some 3 &&
          g.readings == [.lines "one\n", .lines "two\n", .atEnd]) = true := by
    cbv
  obtain ⟨⟨l, g, s⟩, hrun, hseen⟩ := (Option.any_eq_true _ _).1 hplay
  simp only [Bool.and_eq_true, beq_iff_eq] at hseen
  obtain ⟨⟨⟨⟨hopened, hanswered⟩, hpoints⟩, hlength⟩, hreadings⟩ := hseen
  have hrun := ReaderRun.refl.of_play hrun
  rcases reader_gives_snapshot hrun hopened (by decide) with
    ⟨-, hnone, -⟩ | ⟨before, snapshot, after, all, hbefore, hafter, -, -, hsame, hwhole, -, hall, -⟩
  · cases hreadings.symm.trans hnone
  · have heq : after = before :=
      Option.some.inj (hafter.symm.trans (hanswered.trans hbefore))
    rw [hsame heq] at hwhole
    rw [hbefore] at hlength
    exact ⟨l, g, s, before, all, hrun, hopened, hbefore, Option.some.inj hlength, hpoints,
      hreadings, hall, hwhole⟩

end

end SyslogCollector.Store.Writer
