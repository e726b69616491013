import SyslogCollector.Fanout.Sink
/-!
# The fan-out as a sink

What the fan-out does as a sink is what a single caller does by the steps of `Fanout.State`: with
sinks that answer every write it comes to its end, and its write succeeds (`write_of_answers`).
-/

namespace SyslogCollector.Fanout

variable {σ : Type} {n : Nat} {start s : State} {shared : σ} {m : Message} {p : Progress}

/-- A sink that answers every write. -/
def AlwaysAnswers (sink : Sink σ) : Prop :=
  ∀ m shared, ∃ result shared', sink.write m shared = (some result, shared')

/-- The message goes to one sink after the other, up to the last. -/
theorem handAll_of_answers {rest : List (Sink σ)} (hanswers : ∀ sink ∈ rest, AlwaysAnswers sink)
    (hreach : State.Reachable n start s) (hwrite : s.writes.lookup soleCaller = some p)
    (hpace : p.answered = p.handed) (hcount : p.handed + rest.length = n) :
    ∃ s' shared' q, handAll m rest (s, shared) = (true, (s', shared')) ∧
      State.Reachable n start s' ∧ s'.writes.lookup soleCaller = some q ∧ q.answered = n := by
  induction rest generalizing s shared p with
  | nil => exact ⟨s, shared, p, rfl, hreach, hwrite, hpace.trans hcount⟩
  | cons sink rest ih =>
    obtain ⟨result, shared', hresult⟩ := hanswers sink (.head _) m shared
    rw [List.length_cons] at hcount
    -- the sink gets the message
    have hhand : s.enabled n (.hand soleCaller) = true := by
      simp [State.enabled, hwrite, hpace]
      omega
    have hhanded : (s.next (.hand soleCaller)).writes.lookup soleCaller =
        some { p with handed := p.handed + 1 } := by
      simp [State.next, hwrite]
    -- and answers
    have hanswer : (s.next (.hand soleCaller)).enabled n (.answer soleCaller result) = true := by
      simp [State.enabled, hhanded, hpace]
    have hanswered (t : State)
        (ht : t.writes.lookup soleCaller = some { p with handed := p.handed + 1 }) :
        (t.next (.answer soleCaller result)).writes.lookup soleCaller = some
          { p with
            handed := p.handed + 1
            answered := p.answered + 1
            failed := if result.isOk then p.failed else p.failed + 1 } := by
      simp only [State.next, ht]
      exact Numbered.lookup_assign_self _ _ _
    -- the rest is the same with the sinks that are left
    simp only [handAll, hresult]
    exact ih (fun other hother => hanswers other (.tail _ hother))
      ((hreach.step ⟨hhand, rfl⟩).step ⟨hanswer, rfl⟩) (hanswered _ hhanded)
      (congrArg (· + 1) hpace) (by simp only; omega)

/-- A write to sinks that answer comes to its end and succeeds, whatever they answer. -/
theorem write_of_answers {sinks : List (Sink σ)} (hanswers : ∀ sink ∈ sinks, AlwaysAnswers sink)
    (hidle : s.writes.lookup soleCaller = none) :
    (write sinks m (s, shared)).1 = some (.ok ()) ∧
      State.Reachable sinks.length s (write sinks m (s, shared)).2.1 ∧
      (write sinks m (s, shared)).2.1.writes.lookup soleCaller = none := by
  have hbegin : s.enabled sinks.length (.begin soleCaller m) = true := by
    simp [State.enabled, hidle]
  have hbegun : State.Reachable sinks.length s (s.next (.begin soleCaller m)) :=
    State.Reachable.refl.step ⟨hbegin, rfl⟩
  obtain ⟨s', shared', q, hall, hreach, hwrite, hanswered⟩ :
      ∃ s' shared' q, handAll m sinks (s.next (.begin soleCaller m), shared) =
          (true, (s', shared')) ∧ State.Reachable sinks.length s s' ∧
        s'.writes.lookup soleCaller = some q ∧ q.answered = sinks.length :=
    handAll_of_answers hanswers hbegun (Numbered.lookup_assign_self _ _ _) rfl (Nat.zero_add _)
  have hconclude : s'.enabled sinks.length (.conclude soleCaller) = true := by
    simp [State.enabled, hwrite, hanswered]
  simp only [write, hall, hwrite]
  refine ⟨rfl, hreach.step ⟨hconclude, rfl⟩, ?_⟩
  simp only [State.next, hwrite]
  exact Numbered.lookup_erase_self _ _

end SyslogCollector.Fanout
