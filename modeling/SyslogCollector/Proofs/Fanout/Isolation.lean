import SyslogCollector.Proofs.Fanout.Pace
/-!
# Sinks do not get into each other's way

However the callers of a fan-out interleave, and whatever its sinks answer: every write succeeds,
every sink gets the messages of every caller, each of them once and in the order of the caller, and
when all writes have returned the counters tell what the sinks answered (`sinks_isolated`).

What a sink got from a caller and what it has still to get of the write under way is what the
caller wrote (`Ordered`). The progress of a write tells how many answers there were to it and how
many of these were refusals (`Paced`); from this the counters follow (`Counted`).
-/

namespace SyslogCollector.Fanout

/-- The message of a caller that a sink has still to get. -/
def State.outstanding (s : State) (sink caller : Nat) : List Message :=
  match s.writes.lookup caller with
  | some p => if sink < p.handed then [] else [p.message]
  | none => []

variable {sinks : Nat} {h h₁ : Chronicle} {s s₁ : State} {id place : Nat} {p : Progress}

namespace State

theorem outstanding_of_write {sink : Nat} (hwrite : s.writes.lookup id = some p) :
    s.outstanding sink id = if sink < p.handed then [] else [p.message] := by
  simp only [outstanding, hwrite]

theorem outstanding_of_none {sink : Nat} (hnone : s.writes.lookup id = none) :
    s.outstanding sink id = [] := by
  simp only [outstanding, hnone]

/-- A step of one caller leaves what the sinks have still to get from the others. -/
theorem outstanding_congr {sink : Nat} (h : s₁.writes.lookup id = s.writes.lookup id) :
    s₁.outstanding sink id = s.outstanding sink id := by
  simp only [outstanding, h]

end State

/-! ### What the sinks get -/

/-- A sink got what the caller wrote, but for the message that it has still to get. -/
def Ordered (sinks : Nat) (h : Chronicle) (s : State) : Prop :=
  ∀ sink < sinks, ∀ id, h.receivedFrom sink id ++ s.outstanding sink id = h.writtenBy id

theorem Ordered.next (hordered : Ordered sinks h s)
    (hpace : ∀ id p, s.writes.lookup id = some p → p.answered ≤ p.handed)
    (hmove : Move sinks h s h₁ s₁) : Ordered sinks h₁ s₁ := by
  intro sink hsink c
  have hbefore := hordered sink hsink c
  cases hmove with
  | @began id m hnone =>
    rw [Chronicle.writtenBy_append rfl, ← hbefore]
    by_cases hid : c = id
    · -- the new message is still to be got by every sink
      subst hid
      rw [State.outstanding_of_none hnone, if_pos rfl,
        State.outstanding_of_write (Numbered.lookup_assign_self _ _ _), if_neg (Nat.not_lt_zero _),
        List.append_nil]
      rfl
    · rw [State.outstanding_congr (Numbered.lookup_assign_of_ne hid _ _), if_neg (Ne.symm hid),
        List.append_nil]
      rfl
  | @handed id place p hplace hwrite hall hlt =>
    rw [Chronicle.receivedFrom_append rfl]
    by_cases hid : c = id
    · subst hid
      rw [State.outstanding_of_write hwrite] at hbefore
      rw [State.outstanding_of_write (Numbered.lookup_assign_self _ _ _)]
      -- the sink that gets the message has nothing outstanding now
      rcases Nat.lt_trichotomy sink p.handed with hlt | rfl | hgt
      · rw [if_pos hlt] at hbefore
        rw [if_pos (Nat.lt_succ_of_lt hlt), if_neg (by simp; omega), List.append_nil]
        exact hbefore
      · rw [if_neg (Nat.lt_irrefl _)] at hbefore
        rw [if_pos (Nat.lt_succ_self _), if_pos ⟨rfl, rfl⟩, List.append_nil]
        exact hbefore
      · rw [if_neg (Nat.not_lt.2 (Nat.le_of_lt hgt))] at hbefore
        rw [if_neg (by simp; omega), if_neg (by simp; omega), List.append_nil]
        exact hbefore
    · rw [State.outstanding_congr (Numbered.lookup_assign_of_ne hid _ _),
        if_neg fun h => hid h.2.symm, List.append_nil]
      exact hbefore
  | @answered id place p result hplace hwrite hlt =>
    by_cases hid : c = id
    · subst hid
      rw [State.outstanding_of_write hwrite] at hbefore
      rw [State.outstanding_of_write (Numbered.lookup_assign_self _ _ _)]
      exact hbefore
    · rw [State.outstanding_congr (Numbered.lookup_assign_of_ne hid _ _)]
      exact hbefore
  | @concluded id place p hplace hwrite hall =>
    by_cases hid : c = id
    · -- all sinks have the message
      subst hid
      have hle := hpace c p hwrite
      rw [State.outstanding_of_write hwrite, if_pos (by omega)] at hbefore
      rw [State.outstanding_of_none (Numbered.lookup_erase_self _ _)]
      exact hbefore
    · rw [State.outstanding_congr (Numbered.lookup_erase_of_ne hid _)]
      exact hbefore

theorem Run.ordered (hrun : Run sinks h s) : Ordered sinks h s :=
  hrun.keeps_of_paced (fun _ _ _ => rfl) fun _ _ _ _ _ hpaced hordered hmove =>
    hordered.next (fun id p hp => (hpaced.pace id p hp).1) hmove

/-! ### What is counted -/

namespace Metrics

theorem sinkWritesOk_countResult (m : Metrics) (result : Except SinkError Unit) :
    (m.countResult result).sinkWritesOk = m.sinkWritesOk + if result.isOk then 1 else 0 := by
  cases result <;> rfl

theorem sinkWritesFailed_countResult (m : Metrics) (result : Except SinkError Unit) :
    (m.countResult result).sinkWritesFailed =
      m.sinkWritesFailed + if !result.isOk then 1 else 0 := by
  cases result <;> rfl

/-- The answer of a sink is no new message, and delivers none. -/
theorem messages_countResult (m : Metrics) (result : Except SinkError Unit) :
    (m.countResult result).received = m.received ∧
      (m.countResult result).delivered = m.delivered := by
  cases result <;> exact ⟨rfl, rfl⟩

end Metrics

/-- The counters tell what the chronicle tells. -/
structure Counted (h : Chronicle) (m : Metrics) : Prop where
  received : m.received = h.begun.length
  ok : m.sinkWritesOk = h.answers.countP fun a => a.2.isOk
  failed : m.sinkWritesFailed = h.answers.countP fun a => !a.2.isOk
  delivered : m.delivered = h.returned.countP fun r => !h.isRefused r.1

/-- Whether a sink refused the message of a write, by the progress of the write. -/
theorem Paced.isRefused_eq (hpaced : Paced sinks h s) (hplace : h.places.lookup id = some place)
    (hwrite : s.writes.lookup id = some p) : h.isRefused place = (p.failed != 0) := by
  obtain ⟨-, hfailed⟩ := hpaced.underway id place p hplace hwrite
  rw [Chronicle.isRefused, ← hfailed, Bool.eq_iff_iff, List.any_eq_true, bne_iff_ne, ne_eq,
    List.countP_eq_zero]
  simp

theorem Counted.next (hcounted : Counted h s.metrics) (hplaced : Placed h s)
    (hpaced : Paced sinks h s) (hmove : Move sinks h s h₁ s₁) : Counted h₁ s₁.metrics := by
  cases hmove with
  | began hnone =>
    refine { hcounted with received := ?_ }
    rw [List.length_append, ← hcounted.received]
    rfl
  | handed => exact { hcounted with }
  | @answered id place p result hplace hwrite hlt =>
    -- an answer to one write is none to those that have returned
    have hsame : h.returned.countP (fun r => !h.isRefused r.1) = h.returned.countP fun r =>
        !({ h with answers := h.answers ++ [(place, result)] } : Chronicle).isRefused r.1 := by
      refine List.countP_congr fun r hr => ?_
      have hne := hplaced.ne_of_returned hplace (List.mem_map_of_mem hr)
      have hanswers := Chronicle.answersTo_append
        (g := { h with answers := h.answers ++ [(place, result)] }) rfl r.1
      rw [if_neg (Ne.symm hne), List.append_nil] at hanswers
      simp only [Chronicle.isRefused, hanswers]
    obtain ⟨hreceived, hdelivered⟩ := s.metrics.messages_countResult result
    refine ⟨hreceived.trans hcounted.received, ?_, ?_,
      (hdelivered.trans hcounted.delivered).trans hsame⟩
    · rw [Metrics.sinkWritesOk_countResult, hcounted.ok, List.countP_append, List.countP_singleton]
    · rw [Metrics.sinkWritesFailed_countResult, hcounted.failed, List.countP_append,
        List.countP_singleton]
  | @concluded id place p hplace hwrite hall =>
    have hrefused := hpaced.isRefused_eq hplace hwrite
    have hcount : (h.returned ++ [(place, p.result)]).countP (fun r => !h.isRefused r.1) =
        h.returned.countP (fun r => !h.isRefused r.1) + if p.failed = 0 then 1 else 0 := by
      rw [List.countP_append, List.countP_singleton]
      simp [hrefused]
    refine ⟨?_, ?_, ?_, ?_⟩
    · split <;> exact hcounted.received
    · split <;> exact hcounted.ok
    · split <;> exact hcounted.failed
    · refine Eq.trans ?_ hcount.symm
      split <;> simp [hcounted.delivered]

theorem Run.counted (hrun : Run sinks h s) : Counted h s.metrics :=
  hrun.keeps_of_paced (P := fun h s => Counted h s.metrics) ⟨rfl, rfl, rfl, rfl⟩
    fun _ _ _ _ hplaced hpaced hcounted hmove => hcounted.next hplaced hpaced hmove

/-! ### When all writes have returned -/

/-- Where every write got so many answers, there are so many times as many as writes. -/
theorem length_eq_mul {α : Type} {answers : List (Nat × α)} {writes each : Nat}
    (hknown : ∀ a ∈ answers, a.1 < writes)
    (heach : ∀ place < writes, (answers.filter (·.1 == place)).length = each) :
    answers.length = writes * each := by
  induction writes generalizing answers with
  | zero =>
    rw [Nat.zero_mul, List.length_eq_zero_iff]
    exact List.eq_nil_iff_forall_not_mem.2 fun a ha => absurd (hknown a ha) (Nat.not_lt_zero _)
  | succ last ih =>
    -- the answers to the other writes
    have hothers : (answers.filter fun a => !(a.1 == last)).length = last * each := by
      refine ih (fun a ha => ?_) fun place hplace => ?_
      · obtain ⟨hmem, hne⟩ := List.mem_filter.1 ha
        have hlt := hknown a hmem
        simp only [Bool.not_eq_true', beq_eq_false_iff_ne] at hne
        omega
      · rw [List.filter_filter, ← heach place (by omega)]
        congr 1
        refine List.filter_congr fun a _ => ?_
        by_cases ha : a.1 = place
        · simp [ha]
          omega
        · simp [ha]
    have hlast := heach last (Nat.lt_succ_self _)
    have hsplit : answers.length = (answers.filter (·.1 == last)).length +
        (answers.filter fun a => !(a.1 == last)).length := by
      rw [← List.countP_eq_length_filter, ← List.countP_eq_length_filter]
      simpa only [Bool.not_eq_true, Bool.decide_eq_false] using
        List.length_eq_countP_add_countP (l := answers) fun a => a.1 == last
    rw [hsplit, hlast, hothers, Nat.succ_mul, Nat.add_comm]

/-- When no write is under way, every write has returned. -/
theorem Placed.returned_perm (hplaced : Placed h s) (hidle : s.writes = []) :
    (h.returned.map Prod.fst).Perm (List.range h.begun.length) := by
  have hnone : h.places = [] := by
    refine List.eq_nil_iff_forall_not_mem.2 fun e he => ?_
    have hlookup : h.places.lookup e.1 = none := (hplaced.underway e.1).2 (by simp [hidle])
    exact Numbered.lookup_eq_none_iff_not_mem.1 hlookup (List.mem_map_of_mem he)
  simpa [hnone] using hplaced.all

theorem Run.length_answers (hrun : Run sinks h s) (hidle : s.writes = []) :
    h.answers.length = h.begun.length * sinks := by
  refine length_eq_mul hrun.paced.known fun place hplace => ?_
  have hmem := (hrun.placed.returned_perm hidle).mem_iff.2 (List.mem_range.2 hplace)
  obtain ⟨r, hr, rfl⟩ := List.mem_map.1 hmem
  rw [← (hrun.paced.returned r hr).1, Chronicle.answersTo, List.length_map]

theorem Run.delivered_add_refused (hrun : Run sinks h s) (hidle : s.writes = []) :
    s.metrics.delivered + (List.range h.begun.length).countP h.isRefused = h.begun.length := by
  have hdelivered : s.metrics.delivered =
      (List.range h.begun.length).countP fun place => !h.isRefused place := by
    rw [hrun.counted.delivered, ← (hrun.placed.returned_perm hidle).countP_eq, List.countP_map]
    rfl
  have hsplit := List.length_eq_countP_add_countP (l := List.range h.begun.length) h.isRefused
  simp only [List.length_range, Bool.not_eq_true, Bool.decide_eq_false] at hsplit
  omega

/-- Sinks do not get into each other's way. For every number of sinks, whatever they answer, and
every run of any number of callers that make their writes one after another:

* every write that has returned succeeded, and every write under way succeeds when its sinks have
  answered, whatever they answer;
* what a sink got from a caller is what the caller wrote, each message once and in this order, but
  for the last message if its write is under way;
* when all writes have returned, every message was counted when it was received, and again for
  every sink as taken or refused; the messages that were not delivered are those that at least one
  sink refused, and so they are shown as long as the counters have not started again at 0. -/
theorem sinks_isolated (hrun : Run sinks h s) :
    (∀ r ∈ h.returned, r.2 = .ok ()) ∧
      (∀ id place results, h.places.lookup id = some place →
        (h.answersTo place ++ results).length = sinks →
          ∃ h' s', Run sinks h' s' ∧ h'.answersTo place = h.answersTo place ++ results ∧
            (place, .ok ()) ∈ h'.returned) ∧
      (∀ sink < sinks, ∀ id, h.receivedFrom sink id <+: h.writtenBy id ∧
        (s.writes.lookup id = none → h.receivedFrom sink id = h.writtenBy id)) ∧
      (s.writes = [] →
        s.metrics.received = h.begun.length ∧
          s.metrics.sinkWritesOk + s.metrics.sinkWritesFailed = h.begun.length * sinks ∧
          s.metrics.received - s.metrics.delivered =
            (List.range h.begun.length).countP h.isRefused ∧
          (h.begun.length < wordSize →
            s.metrics.partiallyFailed = (List.range h.begun.length).countP h.isRefused)) := by
  refine ⟨fun r hr => (hrun.paced.returned r hr).2, fun id place results hplace hall =>
    hrun.exists_return hplace results hall, ?_, fun hidle => ?_⟩
  · intro sink hsink id
    have hordered := hrun.ordered sink hsink id
    refine ⟨⟨_, hordered⟩, fun hnone => ?_⟩
    rw [State.outstanding_of_none hnone, List.append_nil] at hordered
    exact hordered
  · obtain ⟨hreceived, hok, hfailed, -⟩ := hrun.counted
    have hrefused := hrun.delivered_add_refused hidle
    refine ⟨hreceived, ?_, by omega, fun hlt => ?_⟩
    · rw [hok, hfailed, ← hrun.length_answers hidle]
      simpa using (List.length_eq_countP_add_countP (l := h.answers) fun a => a.2.isOk).symm
    · rw [Metrics.partiallyFailed, hreceived, shownCount_of_lt hlt,
        shownCount_of_lt (n := s.metrics.delivered) (by omega)]
      omega

/-- Two callers write at the same time. The second sink refuses the message of the first caller, and
nobody else is concerned. -/
theorem sinks_isolated_refusing_sink :
    ∃ h s, Run 2 h s ∧ s.writes = [] ∧ h.returned = [(0, .ok ()), (1, .ok ())] ∧
      (∀ sink < 2, ∀ id, h.receivedFrom sink id = h.writtenBy id) ∧
      s.metrics.sinkWritesOk + s.metrics.sinkWritesFailed = 4 ∧ s.metrics.partiallyFailed = 1 := by
  obtain ⟨h, s, hplay, hidle, hbegun, hreturned, hrefused⟩ :
      ∃ h s, play 2
          [.begin 0 { (default : Message) with body := "first" },
            .begin 1 { (default : Message) with body := "second" },
            .hand 1, .hand 0, .answer 1 (.ok ()), .hand 1, .answer 0 (.ok ()), .hand 0,
            .answer 0 (.error (.write "full")), .answer 1 (.ok ()), .conclude 0, .conclude 1]
          {} {} = some (h, s) ∧
        s.writes = [] ∧ h.begun.length = 2 ∧ h.returned = [(0, .ok ()), (1, .ok ())] ∧
        (List.range h.begun.length).countP h.isRefused = 1 :=
    ⟨_, _, rfl, rfl, rfl, rfl, rfl⟩
  have hrun := Run.refl.of_play hplay
  obtain ⟨-, -, hreceived, hcounters⟩ := sinks_isolated hrun
  obtain ⟨-, hanswers, -, hshown⟩ := hcounters hidle
  rw [hrefused] at hshown
  refine ⟨h, s, hrun, hidle, hreturned, fun sink hsink id => ?_, ?_, hshown ?_⟩
  · exact (hreceived sink hsink id).2 (by simp [hidle])
  · rw [hanswers, hbegun]
  · rw [hbegun]
    decide

end SyslogCollector.Fanout
