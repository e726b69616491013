import Mathlib
import SyslogCollector.Proofs.Reader.Events
import SyslogCollector.Proofs.Reader.Readings
/-!
# The life of a reader

The first use of a reader flushes the buffer once and sends its query once, whatever becomes of the
flush. From then on it gives the lines of the answer, chunk by chunk, then the first error or the
end, and then the end for ever, and asks nothing of the store any more. A request that names no
application fails at once. `LifeCycle` says so of the events of a reader, and `ReaderStand` ties
them to the state of a run.
-/

namespace SyslogCollector.Store.Writer

/-! ## The life of a reader -/

/-- A flush, as it is seen of a reader: there was nothing to do, or a batch was handed over and
answered. Nothing is left in the buffer. -/
inductive FlushAttempt : List ReaderEvent → Prop
  | nothing : FlushAttempt [.flushed []]
  | batch {points : List Point} {answer : Answer} (hne : points ≠ []) (hanswer : answer ≠ .never) :
      FlushAttempt [.store (.batch points answer), .flushed []]

/-- The events of a reader that was made for a request, and where it stands then. -/
inductive LifeCycle (params : QueryParams) : List ReaderEvent → Reader → Prop
  /-- Nothing has happened. -/
  | unused : LifeCycle params [] (.pending params)
  /-- The request names no application: the first use fails, and the others give the end. -/
  | nameless (hname : params.appName = "") (more : Nat) :
      LifeCycle params
        (.gave (.failed .missingAppName) :: List.replicate more (.gave .atEnd)) .finished
  /-- The first use has handed a batch over. -/
  | handed {points : List Point} {answer : Answer} (hname : params.appName ≠ "")
      (hne : points ≠ []) :
      LifeCycle params [.store (.batch points answer)] (.pending params)
  /-- The first use has flushed the buffer. -/
  | flushed {flush : List ReaderEvent} (hname : params.appName ≠ "") (hflush : FlushAttempt flush) :
      LifeCycle params flush (.pending params)
  /-- The first use has sent the query, and the reader gives the answer. -/
  | answered {flush : List ReaderEvent} {q : SeriesQuery} {answer : Except QueryError Chunks}
      {readings : List Reading} {reader : Reader} (hname : params.appName ≠ "")
      (hflush : FlushAttempt flush) (hquery : SeriesQuery.ofParams params = .ok q)
      (hgives : Gives answer readings reader) (hne : readings ≠ []) :
      LifeCycle params (flush ++ .store (.query q answer) :: readings.map .gave) reader

theorem FlushAttempt.not_gave {flush : List ReaderEvent} (h : FlushAttempt flush) (x : Reading) :
    .gave x ∉ flush := by
  cases h <;> simp

/-- Only a request that names no application is no query. -/
theorem appName_eq_of_ofParams {params : QueryParams} {error : QueryError}
    (h : SeriesQuery.ofParams params = .error error) :
    params.appName = "" ∧ error = .missingAppName := by
  unfold SeriesQuery.ofParams at h
  split at h
  · rename_i hempty
    cases h
    exact ⟨String.isEmpty_iff.1 hempty, rfl⟩
  · cases h

theorem appName_ne_of_ofParams {params : QueryParams} {q : SeriesQuery}
    (h : SeriesQuery.ofParams params = .ok q) : params.appName ≠ "" := by
  intro hname
  simp [SeriesQuery.ofParams, hname] at h

/-- The next lines of an answer are given. -/
theorem LifeCycle.next {params : QueryParams} {events : List ReaderEvent} {rest : Chunks}
    (h : LifeCycle params events (.streaming rest)) :
    LifeCycle params (events ++ [.gave (nextLines rest).1]) (nextLines rest).2 := by
  cases h with
  | answered hname hflush hquery hgives hne =>
    have hmore := LifeCycle.answered hname hflush hquery hgives.next (by simp)
    simpa using hmore

/-- The end is given once more. -/
theorem LifeCycle.again {params : QueryParams} {events : List ReaderEvent}
    (h : LifeCycle params events .finished) :
    LifeCycle params (events ++ [.gave .atEnd]) .finished := by
  cases h with
  | nameless hname more =>
    have hmore := LifeCycle.nameless hname (more + 1)
    simpa [List.replicate_succ'] using hmore
  | answered hname hflush hquery hgives hne =>
    have hmore := LifeCycle.answered hname hflush hquery hgives.again (by simp)
    simpa using hmore

variable {σ : Type} {B : Backend σ} {t : Tuning} {r c : Nat} {params : QueryParams}
  {q : SeriesQuery} {p : Phase} {events : List ReaderEvent} {s s' : State (σ × List StoreCall)}
  {a : Action}

/-! ## How the life of a reader goes on -/

/-- Where the user of a reader stands, by the events of the reader. -/
inductive ReaderStand (r : Nat) (params : QueryParams) (s : State (σ × List StoreCall)) :
    List ReaderEvent → Prop
  /-- Nobody uses it, and nobody has used it. -/
  | unused (hreader : s.reader? r = some (.pending params)) (hunused : ∀ c, ¬ s.Uses c r) :
      ReaderStand r params s []
  /-- Its first user waits for the buffer. -/
  | flushing {c : Nat} (hreader : s.reader? r = some (.pending params))
      (hname : params.appName ≠ "") (huser : SoleUser r c (.flushing none (.query r)) s)
      (hflight : ∀ f, s.flight = some f → f.holder ≠ .caller c) : ReaderStand r params s []
  /-- Its first user waits for the answer to its batch. -/
  | handed {c : Nat} {f : Flight} (hreader : s.reader? r = some (.pending params))
      (hname : params.appName ≠ "") (huser : SoleUser r c (.flushing none (.query r)) s)
      (hflight : s.flight = some f) (hholder : f.holder = .caller c) (hne : f.batch ≠ [])
      (hempty : s.buffer = #[]) :
      ReaderStand r params s [.store (.batch f.batch f.answer)]
  /-- Its first user is about to send the query. -/
  | querying {c : Nat} {flush : List ReaderEvent} (hreader : s.reader? r = some (.pending params))
      (hname : params.appName ≠ "") (huser : SoleUser r c (.querying r) s)
      (hflush : FlushAttempt flush) : ReaderStand r params s flush
  /-- Its first use is over, and nobody uses it. -/
  | given {events : List ReaderEvent} {reader : Reader} (hreader : s.reader? r = some reader)
      (hdone : ∀ params', reader ≠ .pending params') (hcycle : LifeCycle params events reader)
      (hunused : ∀ c, ¬ s.Uses c r) : ReaderStand r params s events

/-- Every reader stands in its life cycle. -/
theorem ReaderStand.lifeCycle (h : ReaderStand r params s events) :
    ∃ reader, s.reader? r = some reader ∧ LifeCycle params events reader := by
  cases h with
  | unused hreader | flushing hreader => exact ⟨_, hreader, .unused⟩
  | handed hreader hname _ _ _ hne => exact ⟨_, hreader, .handed hname hne⟩
  | querying hreader hname _ hflush => exact ⟨_, hreader, .flushed hname hflush⟩
  | given hreader _ hcycle => exact ⟨_, hreader, hcycle⟩

/-- The flush of a query hands a batch over, or comes to its end, and then the query is next. -/
theorem State.next_of_flushing {deadline : Option Moment}
    (hphase : s.phase? c = some (.flushing deadline (.query r)))
    (hcan : s.canProceed c (.flushing deadline (.query r)) = true) :
    s.flight = none ∧ s.buffer.isEmpty = false ∧
        s.next B.watched t (.proceed c) = s.submit B.watched (.caller c) ∨
      ∃ result s₁, State.FlushStep B.watched s (.caller c) (some result) s₁ ∧
        s.next B.watched t (.proceed c) = s₁.move c (.querying r) := by
  have hflush := State.flushStep_of_canFlush (B := B.watched) hcan
  simp only [State.next, hphase, State.proceed]
  generalize s.flushStep B.watched (.caller c) = step at hflush ⊢
  obtain ⟨_ | result, s₁⟩ := step
  · dsimp only at hflush ⊢
    cases hflush with
    | submitted hfree hne => exact .inl ⟨hfree, hne, rfl⟩
  · exact .inr ⟨result, s₁, hflush, rfl⟩

/-- The query is sent: the store is asked, and the reader moves on with the answer. -/
theorem State.next_of_asking (hphase : s.phase? c = some (.querying r))
    (hreader : s.reader? r = some (.pending params))
    (hquery : SeriesQuery.ofParams params = .ok q) :
    (s.next B.watched t (.proceed c)).reader? r =
        some (firstLines (B.query s.store.1 q).1).2 ∧
      (s.next B.watched t (.proceed c)).phase? c =
        some (.returned (.reading (firstLines (B.query s.store.1 q).1).1)) ∧
      (s.next B.watched t (.proceed c)).store.2 =
        s.store.2 ++ [.query q (B.query s.store.1 q).1] := by
  simp only [State.next, hphase, State.proceed, hreader, State.sendQuery, hquery]
  exact ⟨State.reader?_finish _ _ _ _ _ _, State.phase?_finish_self _ _ _, rfl⟩

/-- A use of a reader whose request is no query fails at once. -/
theorem State.next_of_refused {error : QueryError}
    (hreader : s.reader? r = some (.pending params))
    (hquery : SeriesQuery.ofParams params = .error error) :
    (s.next B.watched t (.call c (.read r))).reader? r = some .finished ∧
      (s.next B.watched t (.call c (.read r))).phase? c =
        some (.returned (.reading (.failed error))) := by
  simp only [State.next, State.begin, hreader, hquery]
  exact ⟨State.reader?_finish _ _ _ _ _ _, State.phase?_finish_self _ _ _⟩

/-- The first use of a reader begins with its flush. -/
theorem State.next_of_begun (hreader : s.reader? r = some (.pending params))
    (hquery : SeriesQuery.ofParams params = .ok q) :
    (s.next B.watched t (.call c (.read r))).reader? r = some (.pending params) ∧
      (s.next B.watched t (.call c (.read r))).phase? c = some (.flushing none (.query r)) := by
  simp only [State.next, State.begin, hreader, hquery]
  exact ⟨hreader, State.phase?_move_self _ _ _⟩

/-- A reader with an answer gives its next lines at once. -/
theorem State.next_of_streaming {rest : Chunks} (hreader : s.reader? r = some (.streaming rest)) :
    (s.next B.watched t (.call c (.read r))).reader? r = some (nextLines rest).2 ∧
      (s.next B.watched t (.call c (.read r))).phase? c =
        some (.returned (.reading (nextLines rest).1)) := by
  simp only [State.next, State.begin, hreader]
  exact ⟨State.reader?_finish _ _ _ _ _ _, State.phase?_finish_self _ _ _⟩

/-- A reader at its end gives the end at once. -/
theorem State.next_of_finished (hreader : s.reader? r = some .finished) :
    (s.next B.watched t (.call c (.read r))).reader? r = some .finished ∧
      (s.next B.watched t (.call c (.read r))).phase? c = some (.returned (.reading .atEnd)) := by
  simp only [State.next, State.begin, hreader]
  exact ⟨hreader, State.phase?_finish_self _ _ _⟩

/-- A call asks nothing of the store. -/
theorem State.store_next_call (call : Call) :
    (s.next B.watched t (.call c call)).store = s.store :=
  congrArg Pipe.store (State.pipe_begin s c call)

/-- When its only user has returned, nobody uses a reader. -/
theorem State.not_uses_of_returned {outcome : Outcome} (honly : ∀ d, s.Uses d r → d = c)
    (hphase : s.phase? c = some (.returned outcome)) (d : Nat) : ¬ s.Uses d r := by
  intro hd
  obtain ⟨p, hp, hr⟩ := hd.exists_phase?
  obtain rfl := honly d hd
  cases hphase.symm.trans hp
  cases hr

/-- Whoever begins to use a reader is its only user. -/
theorem State.only_next_of_call (hunused : ∀ c, ¬ s.Uses c r)
    (henabled : s.enabled (.call c (.read r)) = true) (d : Nat)
    (hd : (s.next B.watched t (.call c (.read r))).Uses d r) : d = c := by
  rcases State.uses_of_next henabled hd with hbefore | hbegins
  · exact absurd hbefore (hunused d)
  · cases hbegins
    rfl

namespace ReaderStand

/-- The user of a reader that waits for the buffer hands a batch over, or finds the buffer empty. -/
theorem of_flushing (hreader : s.reader? r = some (.pending params)) (hname : params.appName ≠ "")
    (huser : SoleUser r c (.flushing none (.query r)) s)
    (hflight : ∀ f, s.flight = some f → f.holder ≠ .caller c)
    (henabled : s.enabled (.proceed c) = true)
    (hcan : s.canProceed c (.flushing none (.query r)) = true) :
    ReaderStand r params (s.next B.watched t (.proceed c))
      (s.eventsOf r (.proceed c) (s.next B.watched t (.proceed c))) := by
  have hself := State.user?_proceed huser.uses
  have honly := huser.only_next (B := B) (t := t) henabled
  -- the flush hands the buffer over, or there is nothing to hand over
  rcases State.next_of_flushing (B := B) (t := t) huser.phase hcan with
    ⟨-, hne, hnext⟩ | ⟨result, s₁, hflush, hnext⟩ <;> rw [hnext] at honly ⊢
  · have hphase : (s.submit B.watched (.caller c)).phase? c = some (.flushing none (.query r)) :=
      huser.phase
    have hbatch : s.buffer.toList ≠ [] := by simpa using hne
    rw [State.eventsOf_of_submitted hself hphase rfl]
    have hreader' : (s.submit B.watched (.caller c)).reader? r = some (.pending params) := hreader
    exact .handed hreader' hname ⟨hphase, rfl, honly⟩ rfl rfl hbatch rfl
  · have hphase := State.phase?_move_self s₁ c (.querying r)
    cases hflush with
    | nothing _ hempty =>
      have hleft : (s.move c (.querying r)).buffer.toList = [] := congrArg Array.toList hempty
      rw [State.eventsOf_of_flushed hself hphase rfl, hleft]
      exact .querying hreader hname ⟨hphase, rfl, honly⟩ .nothing
    | answered hunder hholder =>
      -- only its own batch could be answered, and it has handed none over
      exact absurd hholder (hflight _ hunder)

/-- The user of a reader gets the answer to its batch. -/
theorem of_handed {f : Flight} (hreader : s.reader? r = some (.pending params))
    (hname : params.appName ≠ "") (huser : SoleUser r c (.flushing none (.query r)) s)
    (hflight : s.flight = some f) (hne : f.batch ≠ []) (hempty : s.buffer = #[])
    (henabled : s.enabled (.proceed c) = true)
    (hcan : s.canProceed c (.flushing none (.query r)) = true) :
    ReaderStand r params (s.next B.watched t (.proceed c))
      (.store (.batch f.batch f.answer) ::
        s.eventsOf r (.proceed c) (s.next B.watched t (.proceed c))) := by
  have hself := State.user?_proceed huser.uses
  have honly := huser.only_next (B := B) (t := t) henabled
  rcases State.next_of_flushing (B := B) (t := t) huser.phase hcan with
    ⟨hfree, -, -⟩ | ⟨result, s₁, hflush, hnext⟩
  · cases hfree.symm.trans hflight
  · rw [hnext] at honly ⊢
    have hphase := State.phase?_move_self s₁ c (.querying r)
    cases hflush with
    | nothing hfree => cases hfree.symm.trans hflight
    | answered hunder _ hresult =>
      cases hunder.symm.trans hflight
      have hanswer : f.answer ≠ .never := Answer.exists_result?_iff.1 ⟨_, hresult⟩
      have hleft : s.buffer.toList = [] := congrArg Array.toList hempty
      rw [State.eventsOf_of_flushed hself hphase rfl]
      exact .querying hreader hname ⟨hphase, rfl, honly⟩ (hleft ▸ .batch hne hanswer)

/-- The query is sent, and the reader gives its first reading. -/
theorem of_querying {flush : List ReaderEvent} (hreader : s.reader? r = some (.pending params))
    (hname : params.appName ≠ "") (huser : SoleUser r c (.querying r) s)
    (hflush : FlushAttempt flush) (henabled : s.enabled (.proceed c) = true) :
    ReaderStand r params (s.next B.watched t (.proceed c))
      (flush ++ s.eventsOf r (.proceed c) (s.next B.watched t (.proceed c))) := by
  obtain ⟨q, hquery, -⟩ := exists_ofParams hname
  have hself := State.user?_proceed huser.uses
  have hphase := huser.phase
  have honly := huser.only_next (B := B) (t := t) henabled
  obtain ⟨hreader', hreturned, hstore⟩ :=
    State.next_of_asking (B := B) (t := t) hphase hreader hquery
  rw [State.eventsOf_of_asked hself hreturned hstore]
  have hgives := Gives.first (B.query s.store.1 q).1
  exact .given hreader' hgives.ne_pending
    (.answered hname hflush hquery hgives (List.cons_ne_nil _ _))
    (State.not_uses_of_returned honly hreturned)

/-- The first use of a reader begins. -/
theorem of_call (hreader : s.reader? r = some (.pending params)) (hunused : ∀ c, ¬ s.Uses c r)
    (hheld : ∀ f, s.flight = some f → f.holder ≠ .caller c)
    (henabled : s.enabled (.call c (.read r)) = true) :
    ReaderStand r params (s.next B.watched t (.call c (.read r)))
      (s.eventsOf r (.call c (.read r)) (s.next B.watched t (.call c (.read r)))) := by
  have hself := State.user?_call s c r
  have hstore := State.store_next_call (B := B) (t := t) (s := s) (c := c) (.read r)
  have honly := State.only_next_of_call (B := B) (t := t) hunused henabled
  -- the request is no query, and nothing is asked for; or the use begins with its flush
  cases hquery : SeriesQuery.ofParams params with
  | error error =>
    obtain ⟨hname, rfl⟩ := appName_eq_of_ofParams hquery
    obtain ⟨hreader', hreturned⟩ := State.next_of_refused (B := B) (t := t) (c := c) hreader hquery
    rw [State.eventsOf_of_returned hself hreturned hstore]
    exact .given hreader' nofun (.nameless hname 0) (State.not_uses_of_returned honly hreturned)
  | ok q =>
    obtain ⟨hreader', hphase⟩ := State.next_of_begun (B := B) (t := t) (c := c) hreader hquery
    rw [State.eventsOf_of_begun hself hphase hstore]
    refine .flushing hreader' (appName_ne_of_ofParams hquery) ⟨hphase, rfl, honly⟩ fun f hf => ?_
    exact hheld f ((congrArg Pipe.flight (State.pipe_begin s c (.read r))).symm.trans hf)

/-- A later use of a reader gives what is next. -/
theorem of_later_call {reader : Reader} (hreader : s.reader? r = some reader)
    (hdone : ∀ params', reader ≠ .pending params') (hcycle : LifeCycle params events reader)
    (hunused : ∀ c, ¬ s.Uses c r) (henabled : s.enabled (.call c (.read r)) = true) :
    ReaderStand r params (s.next B.watched t (.call c (.read r)))
      (events ++ s.eventsOf r (.call c (.read r)) (s.next B.watched t (.call c (.read r)))) := by
  have hself := State.user?_call s c r
  have hstore := State.store_next_call (B := B) (t := t) (s := s) (c := c) (.read r)
  have honly := State.only_next_of_call (B := B) (t := t) hunused henabled
  cases reader with
  | pending params' => exact absurd rfl (hdone params')
  | streaming rest =>
    obtain ⟨hreader', hreturned⟩ := State.next_of_streaming (B := B) (t := t) (c := c) hreader
    rw [State.eventsOf_of_returned hself hreturned hstore]
    have hcycle' := hcycle.next
    exact .given hreader' (nextLines_ne_pending rest) hcycle'
      (State.not_uses_of_returned honly hreturned)
  | finished =>
    obtain ⟨hreader', hreturned⟩ := State.next_of_finished (B := B) (t := t) (c := c) hreader
    rw [State.eventsOf_of_returned hself hreturned hstore]
    exact .given hreader' nofun hcycle.again (State.not_uses_of_returned honly hreturned)

/-- A step of others than its users leaves a reader where it stands. -/
theorem keep (h : ReaderStand r params s events) (huser : s.user? r a = none)
    (henabled : s.enabled a = true) (hwaits : s.WaitsFor r a) :
    ReaderStand r params (s.next B.watched t a) events := by
  have hstays {reader : Reader} (hreader : s.reader? r = some reader) :
      (s.next B.watched t a).reader? r = some reader := by
    have hthere : s.reader? r ≠ none := by simp [hreader]
    exact (State.reader?_next (State.not_touches huser henabled hthere)).trans hreader
  have hnobody (hunused : ∀ c, ¬ s.Uses c r) (c : Nat) : ¬ (s.next B.watched t a).Uses c r := by
    intro hc
    rcases State.uses_of_next henabled hc with hbefore | rfl
    · exact hunused c hbefore
    · cases huser.symm.trans (s.user?_call c r)
  cases h with
  | unused hreader hunused => exact .unused (hstays hreader) (hnobody hunused)
  | @flushing c hreader hname hsole hflight =>
    obtain ⟨hother, hsole'⟩ := hsole.keep (B := B) (t := t) rfl huser henabled hwaits
    refine .flushing (hstays hreader) hname hsole' fun f hf hholder => ?_
    -- a batch of the user would have been handed over by the user itself
    rcases State.turn_of_flight_next henabled hf with hbefore | hturn
    · exact hflight f hbefore hholder
    · rw [hholder] at hturn
      cases hturn with
      | caller => exact hother rfl
  | @handed c f hreader hname hsole hflight hholder hne hempty =>
    obtain ⟨hother, hsole'⟩ := hsole.keep (B := B) (t := t) rfl huser henabled hwaits
    have hempty' := (State.buffer_next_of_flight (B := B) (t := t) hflight henabled).trans hempty
    refine .handed (hstays hreader) hname hsole' ?_ hholder hne hempty'
    refine State.flight_next_of_not_turn hflight henabled ?_ ?_
    · intro hturn
      rw [hholder] at hturn
      cases hturn with
      | caller => exact hother rfl
    · intro id hid
      cases hholder.symm.trans hid
      constructor <;> rintro rfl <;> exact hother rfl
  | querying hreader hname hsole hflush =>
    obtain ⟨-, hsole'⟩ := hsole.keep (B := B) (t := t) rfl huser henabled hwaits
    exact .querying (hstays hreader) hname hsole' hflush
  | given hreader hdone hcycle hunused =>
    exact .given (hstays hreader) hdone hcycle (hnobody hunused)

/-- A use of a reader begins. -/
theorem next_of_call (h : ReaderStand r params s events) (hheld : s.Held)
    (henabled : s.enabled (.call c (.read r)) = true)
    (halone : s.Alone (.call c (.read r)) = true) :
    ReaderStand r params (s.next B.watched t (.call c (.read r)))
      (events ++ s.eventsOf r (.call c (.read r)) (s.next B.watched t (.call c (.read r)))) := by
  have hunused := State.Alone.not_uses halone
  cases h with
  | unused hreader =>
    refine of_call hreader hunused (fun f hf hholder => ?_) henabled
    -- a caller that is new holds no batch
    obtain ⟨b, hturn⟩ := hheld f hf
    rw [hholder] at hturn
    simp only [State.enabled, Bool.and_eq_true, Option.isNone_iff_eq_none] at henabled
    cases hturn with
    | caller hphase => cases henabled.1.symm.trans hphase
  | flushing _ _ hsole | handed _ _ hsole | querying _ _ hsole =>
    exact absurd hsole.uses (hunused _)
  | given hreader hdone hcycle => exact of_later_call hreader hdone hcycle hunused henabled

/-- The user of a reader goes on. -/
theorem next_of_proceed (h : ReaderStand r params s events)
    (henabled : s.enabled (.proceed c) = true) (huses : s.Uses c r) :
    ReaderStand r params (s.next B.watched t (.proceed c))
      (events ++ s.eventsOf r (.proceed c) (s.next B.watched t (.proceed c))) := by
  obtain ⟨p, hphase, hcan⟩ := (Option.any_eq_true _ _).1 henabled
  cases h with
  | unused _ hunused | given _ _ _ hunused => exact absurd huses (hunused c)
  | flushing hreader hname hsole hflight =>
    obtain rfl := hsole.only c huses
    cases hphase.symm.trans hsole.phase
    exact of_flushing hreader hname hsole hflight henabled hcan
  | handed hreader hname hsole hflight _ hne hempty =>
    obtain rfl := hsole.only c huses
    cases hphase.symm.trans hsole.phase
    exact of_handed hreader hname hsole hflight hne hempty henabled hcan
  | querying hreader hname hsole hflush =>
    obtain rfl := hsole.only c huses
    exact of_querying hreader hname hsole hflush henabled

/-- Every step goes on with the life of a reader. -/
theorem next (h : ReaderStand r params s events) (hheld : s.Held) (henabled : s.enabled a = true)
    (halone : s.Alone a = true) (hwaits : s.WaitsFor r a) :
    ReaderStand r params (s.next B.watched t a)
      (events ++ s.eventsOf r a (s.next B.watched t a)) := by
  cases huser : s.user? r a with
  | none =>
    rw [State.eventsOf_eq_nil huser, List.append_nil]
    exact h.keep huser henabled hwaits
  | some c =>
    rcases State.of_user?_eq_some huser with rfl | ⟨rfl, huses⟩
    · exact h.next_of_call hheld henabled halone
    · exact h.next_of_proceed henabled huses

end ReaderStand

/-! ## Runs -/

/-- From a new writer on, a batch under way has its party, and every reader in use is there. -/
theorem State.Reachable.held_of_new {τ : Type} {C : Backend τ} {store : τ} {s : State τ}
    (h : State.Reachable C t { store } s) :
    s.Held ∧ ∀ c r, s.Uses c r → s.reader? r ≠ none := by
  induction h with
  | refl =>
    -- a new writer has neither a batch under way nor a caller
    refine ⟨nofun, fun c r huses => ?_⟩
    obtain ⟨p, hphase, -⟩ := huses.exists_phase?
    cases hphase
  | @step s s' a _ hstep ih =>
    obtain ⟨hheld, hthere⟩ := ih
    obtain ⟨henabled, rfl⟩ := hstep
    refine ⟨hheld.next henabled, fun c r huses => ?_⟩
    -- whoever begins to use a reader finds it, and none is ever taken away
    have hreader : s.reader? r ≠ none := by
      rcases State.uses_of_next henabled huses with hbefore | rfl
      · exact hthere c r hbefore
      · simp only [State.enabled, Bool.and_eq_true] at henabled
        exact Option.isSome_iff_ne_none.1 henabled.2
    have huse := State.use_next C t r henabled
    generalize (s.next C t a).reader? r = after at huse ⊢
    generalize s.given? r a (s.next C t a) = x at huse
    cases huse with
    | untouched | late => exact hreader
    | _ => exact Option.some_ne_none _

/-- A reader that was just made stands at the start of its life. -/
theorem ReaderStand.opened {τ : Type} {B : Backend τ} {store : τ}
    {made start : State (τ × List StoreCall)}
    (hmade : State.Reachable B.watched t { store := (store, []) } made)
    (hopen : made.Step B.watched t (.openReader r params) start) :
    start.Held ∧ ReaderStand r params start [] := by
  obtain ⟨hheld, hthere⟩ := hmade.held_of_new
  obtain ⟨henabled, rfl⟩ := hopen
  refine ⟨hheld.next henabled, .unused (Numbered.lookup_assign_self r _ _) fun c huses => ?_⟩
  -- a reader in use would have been there before
  rcases State.uses_of_next henabled huses with hbefore | hcalls
  · exact hthere c r hbefore (Option.isNone_iff_eq_none.1 henabled)
  · cases hcalls

/-- In every run a reader stands in its life cycle. -/
theorem ReaderLife.stand {start : State (σ × List StoreCall)} (hheld : start.Held)
    (hstart : ReaderStand r params start []) (h : ReaderLife B t r start events s) :
    s.Held ∧ ReaderStand r params s events := by
  induction h with
  | refl => exact ⟨hheld, hstart⟩
  | step _ hstep halone hwaits ih =>
    obtain ⟨hheld', hstand⟩ := ih
    obtain ⟨henabled, rfl⟩ := hstep
    exact ⟨hheld'.next henabled, hstand.next hheld' henabled halone hwaits⟩

/-- A reader that needs no query any more gives something at once. -/
theorem State.exists_reading? {reader : Reader} (hreader : s.reader? r = some reader)
    (hsettled : ∀ params', reader = .pending params' → params'.appName = "") :
    ∃ x, (s.next B.watched t (.call c (.read r))).reading? c = some x := by
  have hgives {x : Reading} (hphase : (s.next B.watched t (.call c (.read r))).phase? c =
      some (.returned (.reading x))) :
      ∃ x, (s.next B.watched t (.call c (.read r))).reading? c = some x :=
    ⟨x, by simp only [State.reading?, hphase]⟩
  cases reader with
  | pending params' =>
    cases hquery : SeriesQuery.ofParams params' with
    | error error => exact hgives (State.next_of_refused hreader hquery).2
    | ok q => exact absurd (hsettled params' rfl) (appName_ne_of_ofParams hquery)
  | streaming rest => exact hgives (State.next_of_streaming hreader).2
  | finished => exact hgives (State.next_of_finished hreader).2

namespace ReaderStand

/-- A reader that has given something, or whose request names no application, gives at once what is
next, and leaves the buffer and the store alone. -/
theorem gives_at_once (h : ReaderStand r params s events)
    (hsettled : params.appName = "" ∨ ∃ x, .gave x ∈ events) (hnew : s.phase? c = none) :
    s.enabled (.call c (.read r)) = true ∧
      (s.next B.watched t (.call c (.read r))).pipe = s.pipe ∧
      ∃ x, (s.next B.watched t (.call c (.read r))).reading? c = some x := by
  -- between its first use and its first reading a reader is not settled
  have hneeds (hname : params.appName ≠ "") (hnothing : ∀ x, .gave x ∉ events) : False := by
    rcases hsettled with hempty | ⟨x, hx⟩
    · exact hname hempty
    · exact hnothing x hx
  obtain ⟨reader, hreader, hquiet⟩ : ∃ reader, s.reader? r = some reader ∧
      ∀ params', reader = .pending params' → params'.appName = "" := by
    cases h with
    | unused hreader =>
      refine ⟨_, hreader, fun params' heq => ?_⟩
      cases heq
      rcases hsettled with hempty | ⟨x, hx⟩
      · exact hempty
      · cases hx
    | flushing _ hname => exact (hneeds hname fun _ => List.not_mem_nil).elim
    | handed _ hname => exact (hneeds hname fun _ hx => by simp at hx).elim
    | querying _ hname _ hflush => exact (hneeds hname hflush.not_gave).elim
    | given hreader hdone => exact ⟨_, hreader, fun params' heq => absurd heq (hdone params')⟩
  refine ⟨?_, State.pipe_begin s c _, State.exists_reading? hreader hquiet⟩
  simp [State.enabled, hnew, hreader]

/-- The user of a reader can go on, and comes nearer to its reading, unless others hold the buffer
or the store does not answer its batch. -/
theorem goes_on (h : ReaderStand r params s events) (huses : s.Uses c r)
    (hflight : ∀ f, s.flight = some f → f.holder = .caller c ∧ f.answer ≠ .never) :
    s.enabled (.proceed c) = true ∧
      s.eventsOf r (.proceed c) (s.next B.watched t (.proceed c)) ≠ [] := by
  have hself := State.user?_proceed huses
  have hfree : s.canFlush (.caller c) = true := by
    unfold State.canFlush
    split
    · rfl
    · rename_i f hf
      obtain ⟨hholder, hanswer⟩ := hflight f hf
      simp [hholder, hanswer]
  -- a flush hands a batch over or comes to its end
  have hflushes (hphase : s.phase? c = some (.flushing none (.query r))) :
      s.enabled (.proceed c) = true ∧
        s.eventsOf r (.proceed c) (s.next B.watched t (.proceed c)) ≠ [] := by
    refine ⟨by simpa [State.enabled, hphase, State.canProceed] using hfree, ?_⟩
    rcases State.next_of_flushing (B := B) (t := t) hphase hfree with
      ⟨-, -, hnext⟩ | ⟨result, s₁, hflush, hnext⟩ <;> rw [hnext]
    · have hphase' : (s.submit B.watched (.caller c)).phase? c =
          some (.flushing none (.query r)) := hphase
      rw [State.eventsOf_of_submitted hself hphase' rfl]
      exact List.cons_ne_nil _ _
    · have hstore : (s₁.move c (.querying r)).store = s.store := by cases hflush <;> rfl
      rw [State.eventsOf_of_flushed hself (State.phase?_move_self s₁ c _) hstore]
      exact List.cons_ne_nil _ _
  cases h with
  | unused _ hunused | given _ _ _ hunused => exact absurd huses (hunused c)
  | flushing _ _ hsole | handed _ _ hsole =>
    obtain rfl := hsole.only c huses
    exact hflushes hsole.phase
  | querying hreader hname hsole =>
    obtain rfl := hsole.only c huses
    obtain ⟨q, hquery, -⟩ := exists_ofParams hname
    obtain ⟨-, hreturned, hstore⟩ :=
      State.next_of_asking (B := B) (t := t) hsole.phase hreader hquery
    rw [State.eventsOf_of_asked hself hreturned hstore]
    exact ⟨by simp [State.enabled, hsole.phase, State.canProceed], List.cons_ne_nil _ _⟩

end ReaderStand

/-- The life cycle of a reader. Take any store, which may refuse batches or leave them unanswered,
refuse queries and break off answers wherever it likes, any run of a writer that opens a reader at
some time, and from there any run in which one user after the other uses the reader and waits for
what it gives, while others do as they like. Then the events of the reader are those of its
`LifeCycle`: a request without an application fails at the first use; else the first use makes one
flush attempt and, whatever becomes of it, sends one query, and nothing else is ever asked for; then
the lines of the chunks that have any, in order, up to the end or the first error, the error once,
and then the end for ever. A use that fails for the missing name, and one after the first reading,
comes to its end at once and leaves the store and the buffer alone. The first use goes on at each of
its turns, unless others hold the buffer or the store leaves its batch unanswered. -/
theorem reader_life_cycle {τ : Type} {B : Backend τ} {store : τ}
    {made start s : State (τ × List StoreCall)}
    (hmade : State.Reachable B.watched t { store := (store, []) } made)
    (hopen : made.Step B.watched t (.openReader r params) start)
    (hlife : ReaderLife B t r start events s) :
    (∃ reader, s.reader? r = some reader ∧ LifeCycle params events reader) ∧
      (params.appName = "" ∨ (∃ x, .gave x ∈ events) → ∀ c, s.phase? c = none →
        s.enabled (.call c (.read r)) = true ∧
          (s.next B.watched t (.call c (.read r))).pipe = s.pipe ∧
          ∃ x, (s.next B.watched t (.call c (.read r))).reading? c = some x) ∧
      ∀ c, s.Uses c r →
        (∀ f, s.flight = some f → f.holder = .caller c ∧ f.answer ≠ .never) →
        s.enabled (.proceed c) = true ∧
          s.eventsOf r (.proceed c) (s.next B.watched t (.proceed c)) ≠ [] := by
  obtain ⟨hheld, hopened⟩ := ReaderStand.opened hmade hopen
  obtain ⟨-, hstand⟩ := hlife.stand hheld hopened
  exact ⟨hstand.lifeCycle, fun hsettled c hnew => hstand.gives_at_once hsettled hnew,
    fun c huses hflight => hstand.goes_on huses hflight⟩

/-- The store has one point and refuses the batch of the flush, and its answer breaks off after the
first chunk. -/
theorem reader_life_cycle_broken_answer :
    ∃ (q : SeriesQuery) (rows : List Row) (batch : List Point) (events : List ReaderEvent)
      (s : State (PlannedStore × List StoreCall)),
      (∃ reader, s.reader? 0 = some reader ∧ LifeCycle { appName := "a" } events reader) ∧
      events = [.store (.batch batch (.refused (.write "down"))), .flushed [],
        .store (.query q (.ok [.ok rows, .error (.execution "broken")])), .gave (.lines "one\n"),
        .gave (.failed (.execution "broken")), .gave .atEnd] := by
  let store : PlannedStore :=
    { answers := [.taken, .refused (.write "down")],
      queries := [.breaksAfter 1 (.execution "broken")] }
  let point (body : String) : Point :=
    { measurement := "a", hostname := "host", severity := .info, facility := .user, body,
      timestamp := ⟨0, 0⟩ }
  let made : State (PlannedStore × List StoreCall) := { store := (store, []) }
  let start := made.next PlannedStore.backend.watched {} (.openReader 0 { appName := "a" })
  let q : SeriesQuery := { measurement := "a", time := none, hostname := none }
  let rows : List Row := [(point "one").row]
  have hplay : (ReaderLife.play PlannedStore.backend {} 0
      [.call 0 (.writeOf "a" "one"), .proceed 0, .proceed 0, .call 1 .flush, .proceed 1,
        .proceed 1, .call 2 (.writeOf "a" "two"), .proceed 2, .proceed 2, .call 3 (.read 0),
        .proceed 3, .proceed 3, .proceed 3, .call 4 (.read 0), .call 5 (.read 0)] [] start).map
      Prod.fst = some [.store (.batch [point "two"] (.refused (.write "down"))), .flushed [],
        .store (.query q (.ok [.ok rows, .error (.execution "broken")])), .gave (.lines "one\n"),
        .gave (.failed (.execution "broken")), .gave .atEnd] := by
    cbv
  obtain ⟨⟨_, s⟩, hrun, rfl⟩ := Option.map_eq_some_iff.1 hplay
  have hmade : State.Reachable PlannedStore.backend.watched {} made made := .refl
  have hopen : made.Step PlannedStore.backend.watched {} (.openReader 0 { appName := "a" }) start :=
    ⟨rfl, rfl⟩
  obtain ⟨hcycle, -⟩ := reader_life_cycle hmade hopen (ReaderLife.refl.of_play hrun)
  exact ⟨q, rows, _, _, s, hcycle, rfl⟩

end SyslogCollector.Store.Writer
