import SyslogCollector.Proofs.Reader.Log
/-!
# Every reader can be answered

With a store that answers every batch, a reader that has not given anything yet can be brought to
its first reading from wherever a run stands: the batch under way is answered first, then the
buffer is flushed, then the query is sent.
-/

namespace SyslogCollector.Store.Writer

variable {σ : Type} {B : Backend σ} {t : Tuning} {r : Nat} {l : Ledger} {g : ReaderLog}
  {s : State σ} {a : Action} {c : Nat}

namespace State

/-- There is always a number for one caller more. -/
theorem exists_new (s : State σ) : ∃ c, s.phase? c = none := by
  have hbound : ∃ bound, ∀ n ∈ s.callers.map Prod.fst, n < bound := by
    induction s.callers.map Prod.fst with
    | nil => exact ⟨0, nofun⟩
    | cons n rest ih =>
      obtain ⟨bound, hrest⟩ := ih
      refine ⟨max (n + 1) bound, fun m hm => ?_⟩
      rcases List.mem_cons.1 hm with rfl | hm
      · omega
      · have := hrest m hm
        omega
  obtain ⟨bound, hbound⟩ := hbound
  refine ⟨bound, Numbered.lookup_eq_none_iff_not_mem.2 fun hmem => ?_⟩
  exact Nat.lt_irrefl _ (hbound bound hmem)

end State

/-- Whether a run can go on in a way in which the reader gives something. -/
def CanAnswer (B : Backend σ) (t : Tuning) (r : Nat) (l : Ledger) (g : ReaderLog) (s : State σ) :
    Prop :=
  ∃ actions l' g' s', ReaderRun.play B t r actions l g s = some (l', g', s') ∧ g'.answered ≠ none

namespace CanAnswer

/-- It can if it can after one more action. -/
theorem step (henabled : s.enabled a = true) (halone : s.Alone a = true)
    (h : CanAnswer B t r (l.record s a) (g.record r l s a (s.next B t a)) (s.next B t a)) :
    CanAnswer B t r l g s := by
  obtain ⟨actions, l', g', s', hplay, hanswered⟩ := h
  refine ⟨a :: actions, l', g', s', ?_, hanswered⟩
  simp only [ReaderRun.play, henabled, halone, Bool.and_self, if_true]
  exact hplay

/-- The query that is about to be sent is answered. -/
theorem of_querying (hphase : s.phase? c = some (.querying r)) : CanAnswer B t r l g s := by
  have henabled : s.enabled (.proceed c) = true := by
    simp [State.enabled, hphase, State.canProceed]
  refine step henabled rfl ⟨[], _, _, _, rfl, ?_⟩
  obtain ⟨phase, after, hbefore, hafter, hnext⟩ := State.exists_next_proceed B t henabled
  obtain rfl : .querying r = phase := Option.some.inj (hphase.symm.trans hbefore)
  cases hnext with
  | read reader x =>
    have huses : s.Uses c r := .of_phase? hphase rfl
    have hreading : (s.next B t (.proceed c)).reading? c = some x := by
      simp [State.reading?, hafter]
    simp [ReaderLog.answered_record, State.given?, huses, hreading]

/-- When a flush is over, the query is about to be sent. -/
theorem of_flushed {deadline : Option Moment} {result : Except SinkError Unit}
    (hphase : s.phase? c = some (.flushing deadline (.query r)))
    (hcan : s.canFlush (.caller c) = true)
    (hresult : (s.flushStep B (.caller c)).1 = some result) : CanAnswer B t r l g s := by
  have henabled : s.enabled (.proceed c) = true := by
    simp [State.enabled, hphase, State.canProceed, hcan]
  refine step henabled rfl (of_querying (c := c) ?_)
  simp only [State.next, hphase, State.proceed, hresult]
  exact State.phase?_move_self _ c _

/-- The own batch of the user of the reader is answered. -/
theorem of_holder {deadline : Option Moment} {f : Flight}
    (hphase : s.phase? c = some (.flushing deadline (.query r))) (hflight : s.flight = some f)
    (hholder : f.holder = .caller c) (hanswer : f.answer ≠ .never) : CanAnswer B t r l g s := by
  have hcan : s.canFlush (.caller c) = true := by simp [State.canFlush, hflight, hholder, hanswer]
  have hstep := State.flushStep_of_canFlush (B := B) hcan
  cases hresult : (s.flushStep B (.caller c)).1 with
  | some result => exact of_flushed hphase hcan hresult
  | none =>
    -- a batch is under way, so none is handed over
    rw [hresult] at hstep
    generalize (s.flushStep B (.caller c)).2 = s' at hstep
    cases hstep with
    | submitted hfree => cases hfree.symm.trans hflight

/-- The buffer is free. -/
theorem of_free {deadline : Option Moment}
    (hanswers : ∀ store batch, (B.submit store batch).1 ≠ .never)
    (hphase : s.phase? c = some (.flushing deadline (.query r))) (hfree : s.flight = none) :
    CanAnswer B t r l g s := by
  have hcan : s.canFlush (.caller c) = true := by simp [State.canFlush, hfree]
  cases hempty : s.buffer.isEmpty with
  | true =>
    have hresult : (s.flushStep B (.caller c)).1 = some (.ok ()) := by
      simp [State.flushStep, hfree, hempty]
    exact of_flushed hphase hcan hresult
  | false =>
    have henabled : s.enabled (.proceed c) = true := by
      simp [State.enabled, hphase, State.canProceed, hcan]
    have hnext : s.next B t (.proceed c) = s.submit B (.caller c) := by
      simp [State.next, hphase, State.proceed, State.flushStep, hfree, hempty]
    refine step henabled rfl ?_
    rw [hnext]
    exact of_holder (f := ⟨.caller c, _, _⟩) hphase rfl rfl (hanswers s.store _)

/-- The batch under way is answered first, whosever it is. -/
theorem of_flushing {deadline : Option Moment}
    (hanswers : ∀ store batch, (B.submit store batch).1 ≠ .never) (hheld : s.Held)
    (hanswer : ∀ f, s.flight = some f → f.answer ≠ .never)
    (hphase : s.phase? c = some (.flushing deadline (.query r))) : CanAnswer B t r l g s := by
  cases hflight : s.flight with
  | none => exact of_free hanswers hphase hflight
  | some f =>
    by_cases hholder : f.holder = .caller c
    · exact of_holder hphase hflight hholder (hanswer f hflight)
    · obtain ⟨a, hturn⟩ := hheld f hflight
      have henabled := hturn.enabled hflight (hanswer f hflight)
      have hfree := hturn.flight_next (B := B) (t := t) henabled hflight
      -- the action is that of the holder, and neither a call nor one of this caller
      have hparty : s.Alone a = true ∧ a.caller? ≠ some c := by
        generalize f.holder = party at hturn hholder
        cases hturn with
        | task => exact ⟨rfl, nofun⟩
        | caller =>
          refine ⟨rfl, fun hc => hholder ?_⟩
          exact congrArg Party.caller (Option.some.inj hc)
      obtain ⟨halone, hother⟩ := hparty
      have hphase' := State.phase?_of_flushing (B := B) (t := t) hother hphase
      exact step henabled halone (of_free hanswers hphase' hfree)

/-- A reader that nobody uses is used by a new caller. -/
theorem of_not_uses {params : QueryParams} {q : SeriesQuery}
    (hanswers : ∀ store batch, (B.submit store batch).1 ≠ .never) (hheld : s.Held)
    (hanswer : ∀ f, s.flight = some f → f.answer ≠ .never) (hunused : ∀ c, ¬ s.Uses c r)
    (hreader : s.reader? r = some (.pending params))
    (hquery : SeriesQuery.ofParams params = .ok q) : CanAnswer B t r l g s := by
  obtain ⟨c, hnew⟩ := s.exists_new
  have henabled : s.enabled (.call c (.read r)) = true := by
    simp [State.enabled, hnew, hreader]
  have hnext : s.next B t (.call c (.read r)) = s.move c (.flushing none (.query r)) := by
    simp [State.next, State.begin, hreader, hquery]
  refine step henabled (State.Alone.of_not_uses hunused) ?_
  have hheld' := hheld.next (B := B) (t := t) henabled
  rw [hnext] at hheld' ⊢
  exact of_flushing hanswers hheld' hanswer (State.phase?_move_self s c _)

/-- A reader that has not sent its query can be answered, whether somebody uses it or not. -/
theorem of_pending {params : QueryParams} {q : SeriesQuery}
    (hanswers : ∀ store batch, (B.submit store batch).1 ≠ .never) (hheld : s.Held)
    (hanswer : ∀ f, s.flight = some f → f.answer ≠ .never)
    (hreader : s.reader? r = some (.pending params))
    (hquery : SeriesQuery.ofParams params = .ok q) : CanAnswer B t r l g s := by
  by_cases hused : ∃ c, s.Uses c r
  · obtain ⟨c, huses⟩ := hused
    obtain ⟨p, hphase, huser⟩ := huses.exists_phase?
    cases p with
    | flushing deadline purpose =>
      cases purpose with
      | query reader =>
        cases huser
        exact of_flushing hanswers hheld hanswer hphase
      | result => cases huser
    | querying reader =>
      cases huser
      exact of_querying hphase
    | _ => cases huser
  · exact of_not_uses hanswers hheld hanswer (fun c hc => hused ⟨c, hc⟩) hreader hquery

/-- Before a reader gives its first reading, its query is sent. -/
theorem exists_querying {params : QueryParams} {q : SeriesQuery}
    (hreader : s.reader? r = some (.pending params))
    (hquery : SeriesQuery.ofParams params = .ok q) (hanswered : g.answered = none)
    (h : CanAnswer B t r l g s) :
    ∃ s' c, State.Reachable B t s s' ∧ s'.phase? c = some (.querying r) ∧
      s'.reader? r = some (.pending params) := by
  obtain ⟨actions, l', g', s', hplay, hlater⟩ := h
  suffices hfrom : ∀ s₀, State.Reachable B t s₀ s → ∃ s' c, State.Reachable B t s₀ s' ∧
      s'.phase? c = some (.querying r) ∧ s'.reader? r = some (.pending params) from
    hfrom s .refl
  intro s₀ hreach
  induction actions generalizing l g s with
  | nil =>
    cases hplay
    exact absurd hanswered hlater
  | cons a rest ih =>
    unfold ReaderRun.play at hplay
    split at hplay
    case isFalse => cases hplay
    rename_i hpossible
    have henabled := (Bool.and_eq_true_iff.1 hpossible).1
    have huse := State.use_next B t r henabled
    have hrecord := g.answered_record r l s (s.next B t a) a
    generalize hafter : (s.next B t a).reader? r = after at huse
    generalize hgiven : s.given? r a (s.next B t a) = given at huse hrecord
    -- without a reading the reader goes on as before, up to the query
    have hgo (hsame : after = some (.pending params)) (hnone : given = none) := by
      refine ih (hafter.trans hsame) ?_ hplay (hreach.step ⟨henabled, rfl⟩)
      rw [hrecord, hanswered, hnone]
      rfl
    cases huse with
    | untouched => exact hgo hreader rfl
    | begun hpending => exact hgo (hpending.symm.trans hreader) rfl
    | @asked c _ _ hphase => exact ⟨s, c, hreach, hphase, hreader⟩
    | refused hpending herror | denied _ hpending herror =>
      cases hreader.symm.trans hpending
      cases hquery.symm.trans herror
    | opened _ hnew => cases hreader.symm.trans hnew
    | continued hpending | ended hpending => cases hreader.symm.trans hpending
    | late _ hpending => exact absurd hreader (hpending _)

end CanAnswer

end SyslogCollector.Store.Writer
