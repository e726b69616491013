import SyslogCollector.Proofs.Listener.Connection
/-!
# The answers of the sink

A source that has handed a message over waits for the answer to it. So the answers of the sink to a
source belong to its messages one by one, and at most the last message has none yet
(`Run.answered`).
-/

namespace SyslogCollector.Listener

variable {source : Source} {id : Nat}

namespace State

variable {n : Network} {s : State} {a : Action}

/-! ### Messages that wait for their answer -/

/-- How many messages of a source wait for their answer. -/
def pending (s : State) (source : Source) : Nat :=
  if s.phase? source = some .handing then 1 else 0

theorem pending_of_phase? {phase : Phase} (h : s.phase? source = some phase)
    (hphase : phase ≠ .handing) : s.pending source = 0 := by
  refine if_neg fun hhanding => hphase ?_
  exact Option.some.inj (h.symm.trans hhanding)

theorem pending_congr {s' : State} (h : s'.phase? source = s.phase? source) :
    s'.pending source = s.pending source := by
  unfold pending
  rw [h]

theorem phase?_move_self {phase : Phase} (h : s.phase? source = some phase) (next : Phase) :
    (s.move next source).phase? source = some next := by
  cases source with
  | connection id =>
    obtain ⟨c, hc, -⟩ := Option.map_eq_some_iff.1 h
    rw [phase?, connection?_move_self, hc]
    rfl
  | datagrams => rfl

theorem phase?_endConnection_self {phase : Phase} (h : s.phase? (.connection id) = some phase)
    (events : List Event) :
    (s.endConnection id events).phase? (.connection id) = some .ended := by
  rw [endConnection, phase?_count, phase?_move_self h]

/-- A listener that starts waits for nothing. -/
theorem pending_start (h : s.datagrams = .ended) (n : Network) :
    (s.start n).pending .datagrams = 0 := by
  have hbind {s : State} (h : s.datagrams ≠ .handing) (transport : Transport) :
      (s.bindEndpoint n transport).datagrams ≠ .handing := by
    unfold bindEndpoint
    split
    · exact h
    · split
      · exact h
      · cases transport
        · exact h
        · show Phase.reading ≠ .handing
          decide
  have hstart : (s.start n).datagrams ≠ .handing := by
    refine hbind (hbind ?_ .tcp) .udp
    rw [h]
    decide
  exact pending_of_phase? rfl hstart

/-! ### Steps -/

/-- Only what a source takes in can be a message of it. -/
theorem source?_of_intake? {i : Intake} (h : Transition.intake? ⟨s, a⟩ = some i) :
    a.source? = some i.source := by
  cases a with
  | read id received =>
    obtain ⟨f, -, rfl⟩ := Option.map_eq_some_iff.1 h
    rfl
  | datagram bytes received =>
    cases h
    rfl
  | _ => cases h

/-- The messages of a source that a step hands over. -/
def handedFor (s : State) (a : Action) (source : Source) : List (Source × Message) :=
  (Transition.handed? ⟨s, a⟩).toList.filter (·.1 = source)

theorem handedFor_eq_nil (h : a.source? ≠ some source) : s.handedFor a source = [] := by
  unfold handedFor Transition.handed?
  cases hi : Transition.intake? ⟨s, a⟩ with
  | none => rfl
  | some i =>
    have hne : i.source ≠ source := by
      rintro rfl
      exact h (source?_of_intake? hi)
    cases hm : i.message? s.options <;> simp [Intake.handed?, hm, hne]

theorem length_handedFor {i : Intake} (h : Transition.intake? ⟨s, a⟩ = some i) :
    (s.handedFor a i.source).length = (i.fate s.options).message?.toList.length := by
  rw [handedFor, Transition.handed?, h, Intake.message?_fate]
  cases hm : i.message? s.options <;> simp [Intake.handed?, hm]

/-- Only the answer to a source is one. -/
theorem answer?_eq_none (h : a.source? ≠ some source) : a.answer? source = none := by
  cases a with
  | answer own taken =>
    refine if_neg ?_
    rintro rfl
    exact h rfl
  | _ => rfl

/-- A step of a reader leaves its connection waiting if it hands a message over. -/
theorem pending_read {c : Connection} (hc : s.connection? id = some c) (hphase : c.phase = .reading)
    (n : Network) (received : Instant) :
    (s.next n (.read id received)).pending (.connection id) =
      (s.handedFor (.read id received) (.connection id)).length := by
  have hnext : (s.next n (.read id received)).phase? (.connection id) =
      some (c.next s.options (.read id received)).phase := by
    have hself := connection?_next_self (a := .read id received) n hc rfl (by simp)
    rw [phase?, hself, Option.map_some]
  have hintake : Transition.intake? ⟨s, .read id received⟩ =
      (c.frame? s.options.maxMessageSize).map (.frame id · received) := by
    simp [Transition.intake?, hc]
  simp only [Connection.next] at hnext
  rw [Connection.frame?] at hintake
  cases hstep : step s.options.maxMessageSize c.reader c.arrived with
  | more reader rest =>
    rw [hstep] at hnext hintake
    rw [pending_of_phase? hnext (by simp [hphase]), handedFor, Transition.handed?, hintake]
    rfl
  | done r =>
    rw [hstep] at hnext hintake
    by_cases hend : r.frame = .endOfStream
    · have hended : c.phaseAfter s.options received r = .ended := by
        simp [Connection.phaseAfter, Reading.fate?, hend]
      simp only [if_pos hend] at hintake
      rw [pending_of_phase? hnext (by simp [hended]), handedFor, Transition.handed?, hintake]
      rfl
    · obtain ⟨events, hfate, -⟩ := Intake.fate?_eq hend s.options id received
      simp only [if_neg hend, Option.map_some] at hintake
      have hlength := length_handedFor hintake
      simp only [Connection.phaseAfter, hfate, hphase] at hnext
      rw [show Source.connection id = (Intake.frame id r.shown received).source from rfl, hlength]
      cases hm : ((Intake.frame id r.shown received).fate s.options).message? with
      | none =>
        rw [hm] at hnext
        exact pending_of_phase? hnext (by decide)
      | some m =>
        rw [hm] at hnext
        exact if_pos hnext

/-- Who takes a datagram waits if it is a message. -/
theorem pending_datagram (hphase : s.datagrams = .reading) (n : Network) (bytes : List UInt8)
    (received : Instant) :
    (s.next n (.datagram bytes received)).pending .datagrams =
      (s.handedFor (.datagram bytes received) .datagrams).length := by
  have hlength := length_handedFor (s := s) (a := .datagram bytes received) rfl
  refine Eq.trans ?_ hlength.symm
  simp only [next, Intake.fate_datagram s.options bytes received, deal]
  cases hm : ((Intake.datagram bytes received).fate s.options).message? with
  | none =>
    have hreading : s.phase? .datagrams = some .reading := congrArg some hphase
    exact pending_of_phase? ((phase?_count s _ .datagrams).trans hreading) (by decide)
  | some m => rfl

/-- What others do leaves a source with what waits. Only the start of the listener is nobody's own,
and it finds no datagram task. -/
theorem pending_next_of_ne (n : Network) (hidle : a = .start → s.datagrams = .ended)
    (hown : a.source? ≠ some source) : (s.next n a).pending source = s.pending source := by
  by_cases hstart : a = .start
  · subst hstart
    cases source with
    | connection id =>
      refine pending_congr ?_
      rw [phase?, connection?_next_of_ne n s hown, phase?]
    | datagrams =>
      have hended := hidle rfl
      have hbefore : s.pending .datagrams = 0 := pending_of_phase? rfl (by simp [hended])
      exact (pending_start hended n).trans hbefore.symm
  · exact pending_congr (phase?_next_of_ne n s hstart hown)

/-- A step of a source adds to its messages what it adds to its answers and to what waits for
them. -/
theorem pending_next_self (n : Network) (henabled : s.enabled a = true)
    (hown : a.source? = some source) :
    (a.answer? source).toList.length + (s.next n a).pending source =
      s.pending source + (s.handedFor a source).length := by
  cases a with
  | start | stop | close => cases hown
  | accept id =>
    cases hown
    simp only [enabled, Bool.and_eq_true, Option.isNone_iff_eq_none] at henabled
    have hbefore : s.pending (.connection id) = 0 := if_neg (by simp [phase?, henabled.2])
    have hafter : (s.next n (.accept id)).phase? (.connection id) = some .reading :=
      phase?_put_self s id {}
    rw [hbefore, pending_of_phase? hafter (by decide)]
    rfl
  | arrive id piece | finish id =>
    cases hown
    have hany : (s.connection? id).any (!·.isFinished) = true := by simp_all [enabled]
    obtain ⟨c, hc, -⟩ := (Option.any_eq_true _ _).1 hany
    have hsame (c' : Connection) (hphase : c'.phase = c.phase) :
        (s.put id c').pending (.connection id) = s.pending (.connection id) := by
      refine pending_congr ?_
      rw [phase?_put_self, phase?, hc, Option.map_some, hphase]
    simp only [next, hc]
    exact (Nat.zero_add _).trans (hsame _ rfl)
  | read id received =>
    cases hown
    obtain ⟨c, hc, hreading⟩ := (Option.any_eq_true _ _).1 henabled
    simp only [Bool.and_eq_true, beq_iff_eq] at hreading
    have hphase : s.phase? (.connection id) = some c.phase := by simp [phase?, hc]
    rw [pending_read hc hreading.1, pending_of_phase? hphase (by simp [hreading.1])]
    rfl
  | datagram bytes received =>
    cases hown
    simp only [enabled, Bool.and_eq_true, beq_iff_eq] at henabled
    rw [pending_datagram henabled.2, pending_of_phase? rfl (by simp [henabled.2])]
    rfl
  | answer own taken =>
    cases hown
    simp only [enabled, beq_iff_eq] at henabled
    have hbefore : s.pending source = 1 := if_pos henabled
    have hafter : (s.next n (.answer source taken)).phase? source = some .reading :=
      phase?_move_self ((phase?_count s _ source).trans henabled) .reading
    rw [hbefore, pending_of_phase? hafter (by decide), Action.answer?, if_pos rfl]
    rfl
  | expire id | reset id | fail id =>
    cases hown
    have hreading : s.phase? (.connection id) = some .reading := by simp_all [enabled]
    have hbefore : s.pending (.connection id) = 0 := pending_of_phase? hreading (by decide)
    rw [hbefore]
    exact congrArg (0 + ·) (pending_of_phase? (phase?_endConnection_self hreading _) (by decide))
  | leave own =>
    cases hown
    simp only [enabled, Bool.and_eq_true, beq_iff_eq] at henabled
    have hafter : (s.next n (.leave source)).phase? source = some .ended := by
      cases source with
      | connection id => exact phase?_endConnection_self henabled.2 []
      | datagrams => rfl
    rw [pending_of_phase? henabled.2 (by decide), pending_of_phase? hafter (by decide)]
    rfl

/-- A step adds to the messages of a source what it adds to its answers and to what waits for
them. -/
theorem pending_next (n : Network) (henabled : s.enabled a = true)
    (hidle : a = .start → s.datagrams = .ended) (source : Source) :
    (a.answer? source).toList.length + (s.next n a).pending source =
      s.pending source + (s.handedFor a source).length := by
  by_cases hown : a.source? = some source
  · exact pending_next_self n henabled hown
  · rw [answer?_eq_none hown, handedFor_eq_nil hown, pending_next_of_ne n hidle hown, Nat.add_comm]
    rfl

end State

/-- A datagram task runs only after the listener was started. -/
theorem Run.datagrams_of_not_started {n : Network} {options : Options} {tr : Trace} {s : State}
    (h : Run n { options } tr s) (hstarted : s.started = false) : s.datagrams = .ended := by
  induction h with
  | refl => rfl
  | @step tr s s' a hrun hstep ih =>
    obtain ⟨henabled, rfl⟩ := hstep
    have hstart : a ≠ .start := by
      rintro rfl
      cases (State.started_start n s).symm.trans hstarted
    obtain ⟨hsame, -⟩ := State.endpoint_next n s hstart
    have hended := ih (hsame.symm.trans hstarted)
    by_cases hown : a.source? = some .datagrams
    · -- a task that has come to its end does nothing
      rcases State.phase?_next_self (n := n) henabled hown with
        hphase | hphase | ⟨taken, rfl⟩ | ⟨-, hphase⟩
      · exact Option.some.inj (hphase.trans (congrArg some hended))
      · cases hended.symm.trans (Option.some.inj hphase)
      · simp [State.enabled, State.phase?, hended] at henabled
      · cases hphase
    · have hphase := State.phase?_next_of_ne n s hstart hown
      exact Option.some.inj (hphase.trans (congrArg some hended))

/-- The sink answers the messages of a source one by one, and at most the last one waits. -/
theorem Run.answered {n : Network} {options : Options} {tr : Trace} {s : State}
    (h : Run n { options } tr s) (source : Source) :
    (tr.answers source).length + s.pending source = (s.handedBy source).length := by
  induction h with
  | refl => cases source <;> rfl
  | @step tr s s' a hrun hstep ih =>
    obtain ⟨henabled, rfl⟩ := hstep
    have hidle : a = .start → s.datagrams = .ended := by
      rintro rfl
      simp only [State.enabled, Bool.and_eq_true, Bool.not_eq_true'] at henabled
      exact hrun.datagrams_of_not_started henabled.1
    obtain ⟨_, hadds, -⟩ := s.exists_adds_next n a
    have hnext := State.pending_next n henabled hidle source
    rw [State.handedBy, List.length_map] at ih
    rw [Trace.answers_concat, List.length_append, Nat.add_assoc, hnext, ← Nat.add_assoc, ih,
      State.handedBy, List.length_map, hadds.handed, List.filter_append, List.length_append]
    rfl

end SyslogCollector.Listener
