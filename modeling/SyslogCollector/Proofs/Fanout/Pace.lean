import SyslogCollector.Proofs.Fanout.Chronicle
/-!
# The pace of the writes of a fan-out

The progress of a write tells how many answers there were to it and how many of these were refusals
(`Paced`). No write is ever stuck: as soon as its sinks have answered, whatever they answer, it
succeeds (`Run.exists_return`).
-/

namespace SyslogCollector.Fanout

variable {sinks : Nat} {h h₁ : Chronicle} {s s₁ : State} {id place : Nat} {p : Progress}

/-- The progress of a write tells how many answers there were to it, and how many refusals. -/
structure Paced (sinks : Nat) (h : Chronicle) (s : State) : Prop where
  pace : ∀ id p, s.writes.lookup id = some p → p.answered ≤ p.handed ∧ p.handed ≤ sinks
  underway : ∀ id place p, h.places.lookup id = some place → s.writes.lookup id = some p →
    (h.answersTo place).length = p.answered ∧
      (h.answersTo place).countP (fun result => !result.isOk) = p.failed
  /-- A write that has returned was answered by every sink, and it succeeded. -/
  returned : ∀ r ∈ h.returned, (h.answersTo r.1).length = sinks ∧ r.2 = .ok ()
  /-- Only to writes there are answers. -/
  known : ∀ a ∈ h.answers, a.1 < h.begun.length

namespace Paced

theorem initial : Paced sinks {} {} where
  pace _ _ hwrite := nomatch hwrite
  underway _ _ _ hplace := nomatch hplace
  returned _ hr := nomatch hr
  known _ ha := nomatch ha

/-- There are no answers yet to a write that is about to begin. -/
theorem answersTo_eq_nil (hpaced : Paced sinks h s) : h.answersTo h.begun.length = [] := by
  have hnone : h.answers.filter (·.1 == h.begun.length) = [] := by
    refine List.filter_eq_nil_iff.2 fun a ha => ?_
    have hlt := hpaced.known a ha
    simp
    omega
  rw [Chronicle.answersTo, hnone]
  rfl

theorem begin (hpaced : Paced sinks h s) {m : Message} {metrics : Metrics} :
    Paced sinks
      { h with begun := h.begun ++ [(id, m)], places := (id, h.begun.length) :: h.places }
      ⟨Numbered.assign id { message := m } s.writes, metrics⟩ := by
  refine ⟨fun c p hwrite => ?_, fun c place p hplace hwrite => ?_, hpaced.returned, fun a ha => ?_⟩
  · rcases Numbered.of_lookup_assign hwrite with ⟨-, rfl⟩ | ⟨-, hwrite⟩
    · exact ⟨Nat.le_refl 0, Nat.zero_le _⟩
    · exact hpaced.pace c p hwrite
  · rcases Numbered.of_lookup_assign hwrite with ⟨rfl, rfl⟩ | ⟨hid, hwrite⟩
    · -- nobody has answered yet
      rw [List.lookup_cons_self] at hplace
      cases hplace
      have hnone : h.answersTo h.begun.length = [] := hpaced.answersTo_eq_nil
      exact ⟨congrArg List.length hnone, congrArg (List.countP _) hnone⟩
    · rw [List.lookup_cons, beq_eq_false_iff_ne.2 hid] at hplace
      exact hpaced.underway c place p hplace hwrite
  · rw [List.length_append]
    exact Nat.lt_add_right _ (hpaced.known a ha)

theorem hand (hpaced : Paced sinks h s) {r : Receipt} (hwrite : s.writes.lookup id = some p)
    (hlt : p.handed < sinks) :
    Paced sinks { h with receipts := h.receipts ++ [r] }
      { s with writes := Numbered.assign id { p with handed := p.handed + 1 } s.writes } := by
  refine ⟨fun c q hc => ?_, fun c place q hplace hc => ?_, hpaced.returned, hpaced.known⟩
  · rcases Numbered.of_lookup_assign hc with ⟨rfl, rfl⟩ | ⟨-, hc⟩
    · obtain ⟨hle, -⟩ := hpaced.pace c p hwrite
      exact ⟨Nat.le_succ_of_le hle, hlt⟩
    · exact hpaced.pace c q hc
  · rcases Numbered.of_lookup_assign hc with ⟨rfl, rfl⟩ | ⟨-, hc⟩
    · exact hpaced.underway c place p hplace hwrite
    · exact hpaced.underway c place q hplace hc

theorem answer (hpaced : Paced sinks h s) (hplaced : Placed h s)
    {result : Except SinkError Unit} {metrics : Metrics}
    (hplace : h.places.lookup id = some place) (hwrite : s.writes.lookup id = some p)
    (hlt : p.answered < p.handed) :
    Paced sinks { h with answers := h.answers ++ [(place, result)] }
      ⟨Numbered.assign id
          { p with
            answered := p.answered + 1
            failed := if result.isOk then p.failed else p.failed + 1 } s.writes, metrics⟩ := by
  have hother {other : Nat} (hne : place ≠ other) :
      ({ h with answers := h.answers ++ [(place, result)] } : Chronicle).answersTo other =
        h.answersTo other := by
    rw [Chronicle.answersTo_append rfl, if_neg hne, List.append_nil]
  refine ⟨fun c q hc => ?_, fun c other q hc hq => ?_, fun r hr => ?_, fun a ha => ?_⟩
  · rcases Numbered.of_lookup_assign hc with ⟨rfl, rfl⟩ | ⟨-, hc⟩
    · exact ⟨hlt, (hpaced.pace c p hwrite).2⟩
    · exact hpaced.pace c q hc
  · rcases Numbered.of_lookup_assign hq with ⟨rfl, rfl⟩ | ⟨hid, hq⟩
    · cases hplace.symm.trans hc
      obtain ⟨hlength, hfailed⟩ := hpaced.underway c place p hplace hwrite
      rw [Chronicle.answersTo_append rfl, if_pos rfl, List.length_append, List.countP_append,
        hlength, hfailed]
      refine ⟨rfl, ?_⟩
      cases hok : result.isOk <;> simp [hok]
    · -- two writes under way are at two places
      have hne : place ≠ other := by
        rintro rfl
        exact hid (hplaced.eq_of_place_eq hc hq hplace hwrite)
      rw [hother hne]
      exact hpaced.underway c other q hc hq
  · rw [hother (hplaced.ne_of_returned hplace (List.mem_map_of_mem hr)).symm]
    exact hpaced.returned r hr
  · rcases List.mem_append.1 ha with ha | ha
    · exact hpaced.known a ha
    · rw [List.mem_singleton.1 ha]
      exact hplaced.place_lt hplace

theorem conclude (hpaced : Paced sinks h s) {metrics : Metrics}
    (hplace : h.places.lookup id = some place) (hwrite : s.writes.lookup id = some p)
    (hall : p.answered = sinks) :
    Paced sinks
      { h with
        places := Numbered.erase id h.places
        returned := h.returned ++ [(place, p.result)] }
      ⟨Numbered.erase id s.writes, metrics⟩ := by
  refine ⟨fun c q hc => ?_, fun c other q hc hq => ?_, fun r hr => ?_, hpaced.known⟩
  · exact hpaced.pace c q (Numbered.of_lookup_erase hc).2
  · obtain ⟨-, hc⟩ := Numbered.of_lookup_erase hc
    obtain ⟨-, hq⟩ := Numbered.of_lookup_erase hq
    exact hpaced.underway c other q hc hq
  · rcases List.mem_append.1 hr with hr | hr
    · exact hpaced.returned r hr
    · rw [List.mem_singleton.1 hr]
      exact ⟨(hpaced.underway id place p hplace hwrite).1.trans hall, rfl⟩

theorem next (hpaced : Paced sinks h s) (hplaced : Placed h s) (hmove : Move sinks h s h₁ s₁) :
    Paced sinks h₁ s₁ := by
  cases hmove with
  | began => exact hpaced.begin
  | handed _ hwrite _ hlt => exact hpaced.hand hwrite hlt
  | answered hplace hwrite hlt => exact hpaced.answer hplaced hplace hwrite hlt
  | concluded hplace hwrite hall => exact hpaced.conclude hplace hwrite hall

end Paced

theorem Run.paced (hrun : Run sinks h s) : Paced sinks h s :=
  hrun.keeps .initial fun _ _ _ _ hplaced hpaced hmove => hpaced.next hplaced hmove

/-- What is kept by every step at the right pace holds all along a run. -/
theorem Run.keeps_of_paced {P : Chronicle → State → Prop} (hrun : Run sinks h s)
    (hinitial : P {} {})
    (hnext : ∀ h s h₁ s₁, Placed h s → Paced sinks h s → P h s → Move sinks h s h₁ s₁ →
      P h₁ s₁) : P h s := by
  have hboth : Paced sinks h s ∧ P h s := by
    refine hrun.keeps (P := fun h s => Paced sinks h s ∧ P h s) ⟨.initial, hinitial⟩ ?_
    rintro h s h₁ s₁ hplaced ⟨hpaced, hbefore⟩ hmove
    exact ⟨hpaced.next hplaced hmove, hnext h s h₁ s₁ hplaced hpaced hbefore hmove⟩
  exact hboth.2

/-! ### Nobody is stuck -/

theorem Placed.exists_write (hplaced : Placed h s) (hplace : h.places.lookup id = some place) :
    ∃ p, s.writes.lookup id = some p := by
  cases hwrite : s.writes.lookup id with
  | some p => exact ⟨p, rfl⟩
  | none => cases hplace.symm.trans ((hplaced.underway id).2 hwrite)

/-- The sink that got the message of a caller last can answer as it likes. -/
theorem Run.answer (hrun : Run sinks h s) (hplace : h.places.lookup id = some place)
    (hwrite : s.writes.lookup id = some p) (hlt : p.answered < p.handed)
    (result : Except SinkError Unit) :
    ∃ h' s', Run sinks h' s' ∧ h'.places.lookup id = some place ∧
      h'.answersTo place = h.answersTo place ++ [result] := by
  have henabled : s.enabled sinks (.answer id result) = true := by
    simp [State.enabled, hwrite, hlt]
  refine ⟨_, _, hrun.step ⟨henabled, rfl⟩ nofun, ?_⟩
  simp only [Chronicle.record, hplace]
  refine ⟨trivial, ?_⟩
  rw [Chronicle.answersTo_append rfl, if_pos rfl]

/-- A write that lacks an answer gets one. -/
theorem Run.exists_answer (hrun : Run sinks h s) (hplace : h.places.lookup id = some place)
    (hlacks : (h.answersTo place).length < sinks) (result : Except SinkError Unit) :
    ∃ h' s', Run sinks h' s' ∧ h'.places.lookup id = some place ∧
      h'.answersTo place = h.answersTo place ++ [result] := by
  obtain ⟨p, hwrite⟩ := hrun.placed.exists_write hplace
  obtain ⟨hlength, -⟩ := hrun.paced.underway id place p hplace hwrite
  obtain ⟨hle, -⟩ := hrun.paced.pace id p hwrite
  rcases Nat.lt_or_eq_of_le hle with hlt | hall
  · exact hrun.answer hplace hwrite hlt result
  · -- the next sink has to get the message first
    have henabled : s.enabled sinks (.hand id) = true := by
      simp [State.enabled, hwrite, hall]
      omega
    have hhanded := hrun.step ⟨henabled, rfl⟩ nofun
    simp only [Chronicle.record, State.next, hwrite] at hhanded
    exact hhanded.answer hplace (Numbered.lookup_assign_self _ _ _) (by simp; omega) result

/-- A write succeeds when its sinks have answered, whatever they answer. -/
theorem Run.exists_return (hrun : Run sinks h s) (hplace : h.places.lookup id = some place)
    (results : List (Except SinkError Unit))
    (hall : (h.answersTo place ++ results).length = sinks) :
    ∃ h' s', Run sinks h' s' ∧ h'.answersTo place = h.answersTo place ++ results ∧
      (place, .ok ()) ∈ h'.returned := by
  induction results generalizing h s with
  | nil =>
    rw [List.append_nil] at hall ⊢
    obtain ⟨p, hwrite⟩ := hrun.placed.exists_write hplace
    obtain ⟨hlength, -⟩ := hrun.paced.underway id place p hplace hwrite
    have henabled : s.enabled sinks (.conclude id) = true := by
      simp [State.enabled, hwrite, ← hlength, hall]
    refine ⟨_, _, hrun.step ⟨henabled, rfl⟩ nofun, ?_⟩
    simp only [Chronicle.record, hplace, hwrite]
    exact ⟨rfl, List.mem_append_right _ (List.mem_singleton.2 rfl)⟩
  | cons result rest ih =>
    have hlacks : (h.answersTo place).length < sinks := by
      rw [List.length_append, List.length_cons] at hall
      omega
    obtain ⟨h₁, s₁, hrun₁, hplace₁, hanswers⟩ := hrun.exists_answer hplace hlacks result
    obtain ⟨h', s', hrun', hanswers', hreturned⟩ := ih hrun₁ hplace₁ (by
      rw [hanswers, List.append_assoc]
      exact hall)
    refine ⟨h', s', hrun', ?_, hreturned⟩
    rw [hanswers', hanswers, List.append_assoc]
    rfl

end SyslogCollector.Fanout
