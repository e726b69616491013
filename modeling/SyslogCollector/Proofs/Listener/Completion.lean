import SyslogCollector.Proofs.Listener.Connection
/-!
# A connection comes to its end

Once the other side has finished, the task of a connection is never stuck: it reads on or waits for
the sink, whatever it has read and whatever the sink answers, until it has found the end of its
stream (`exists_run_ended`). Every frame is one less to come, and within a frame every step of the
reader leaves less work.
-/

namespace SyslogCollector.Listener

variable {n : Network} {s s' : State} {a : Action} {tr : Trace} {id : Nat} {c : Connection}

/-- A run that starts with a step. -/
theorem Run.cons {t : State} (hstep : s.Step n a s') (h : Run n s' tr t) :
    Run n s (⟨s, a⟩ :: tr) t := by
  induction h with
  | refl => exact Run.refl.step hstep
  | step _ hlast ih => exact ih.step hlast

/-- A step of a connection whose other side has finished, and where it leads. -/
theorem State.step_connection (hc : s.connection? id = some c) (henabled : s.enabled a = true)
    (hown : a.source? = some (.connection id)) :
    s.Step n a (s.next n a) ∧
      (s.next n a).connection? id = some (c.next s.options a) ∧
      (s.next n a).options = s.options := by
  have haccept : a ≠ .accept id := by
    rintro rfl
    simp [enabled, hc] at henabled
  obtain ⟨_, hadds, -⟩ := s.exists_adds_next n a
  exact ⟨⟨henabled, rfl⟩, connection?_next_self n hc hown haccept, hadds.options⟩

/-- The frames that are still to come on a connection. -/
def Connection.ahead (max : Nat) (c : Connection) : List ReadFrame :=
  (c.reader.outcome max c.arrived.flatten).frames max

/-- How far a connection is from its end: the frames to come, the work within the next one, and
whether the sink has to answer first. -/
def Connection.effort (max : Nat) (c : Connection) : Nat × Nat × Nat :=
  ((c.ahead max).length, remainingWork c.reader c.arrived, if c.phase = .handing then 1 else 0)

/-- A step of the reader takes a connection to its end, or closer to it. -/
theorem Connection.closer_read (o : Options) (received : Instant) (c : Connection) :
    (c.next o (.read id received)).phase = .ended ∨
      Prod.Lex (· < ·) (Prod.Lex (· < ·) (· < ·))
        ((c.next o (.read id received)).effort o.maxMessageSize) (c.effort o.maxMessageSize) := by
  -- nothing arrives any more, so what is there decides what is to come
  simp only [next]
  cases hstep : step o.maxMessageSize c.reader c.arrived with
  | more reader rest =>
    right
    have hahead : ahead o.maxMessageSize { c with reader, arrived := rest } =
        c.ahead o.maxMessageSize := by
      have hsame : c.reader.outcome o.maxMessageSize (c.arrived.flatten ++ []) =
          reader.outcome o.maxMessageSize (rest.flatten ++ []) :=
        outcome_eq_of_more hstep (.inr (.inr rfl))
      simp only [List.append_nil] at hsame
      rw [ahead, ahead, hsame]
    rw [effort, hahead]
    exact .right _ (.left _ _ (remainingWork_lt hstep))
  | done r =>
    by_cases hend : r.frame = .endOfStream
    · left
      simp [phaseAfter, Reading.fate?, hend]
    · right
      have hahead : c.ahead o.maxMessageSize =
          r.shown :: framesIn o.maxMessageSize r.rest.flatten := by
        have hsame : c.reader.outcome o.maxMessageSize (c.arrived.flatten ++ []) =
            ⟨r.frame, r.buffer, r.rest.flatten ++ []⟩ :=
          outcome_eq_of_done hstep (.inr (.inr rfl))
        simp only [List.append_nil] at hsame
        rw [ahead, hsame, FrameOutcome.frames, if_neg hend]
        rfl
      refine .left _ _ ?_
      rw [hahead, framesIn_eq]
      exact Nat.lt_succ_self _

/-- A connection whose other side has finished can always be taken on. -/
theorem State.exists_closer (received : State → Instant) (taken : State → Bool)
    (hc : s.connection? id = some c) (hfinished : c.isFinished = true)
    (hphase : c.phase ≠ .ended) :
    ∃ a, (a = .read id (received s) ∨ a = .answer (.connection id) (taken s)) ∧
      s.enabled a = true ∧
      ((c.next s.options a).phase = .ended ∨
        Prod.Lex (· < ·) (Prod.Lex (· < ·) (· < ·))
          ((c.next s.options a).effort s.options.maxMessageSize)
          (c.effort s.options.maxMessageSize)) := by
  cases hc' : c.phase with
  | reading =>
    refine ⟨_, .inl rfl, ?_, c.closer_read s.options (received s)⟩
    simp [enabled, hc, hc', Connection.canRead_eq, hfinished]
  | handing =>
    refine ⟨_, .inr rfl, ?_, .inr (.right _ (.right _ ?_))⟩
    · simp [enabled, phase?, hc, hc']
    · simp [Connection.next, hc']
  | ended => exact absurd hc' hphase

/-- The steps that take a connection on, when it is read at these times and the sink answers
so. -/
def Transition.TakesOn (id : Nat) (received : State → Instant) (taken : State → Bool)
    (x : Transition) : Prop :=
  x.action = .read id (received x.before) ∨ x.action = .answer (.connection id) (taken x.before)

/-- The task of a connection whose other side has finished comes to its end, whatever is in the
stream and whatever the sink answers. -/
theorem exists_run_ended (n : Network) (received : State → Instant) (taken : State → Bool)
    {s : State} {c : Connection} (hc : s.connection? id = some c)
    (hfinished : c.isFinished = true) :
    ∃ tr s', Run n s tr s' ∧ (∀ x ∈ tr, x.TakesOn id received taken) ∧
      s'.phase? (.connection id) = some .ended := by
  by_cases hended : c.phase = .ended
  · refine ⟨[], s, .refl, List.forall_mem_nil _, ?_⟩
    rw [State.phase?, hc, Option.map_some, hended]
  · obtain ⟨a, ha, henabled, hcloser⟩ := State.exists_closer received taken hc hfinished hended
    have hown : a.source? = some (.connection id) := by
      rcases ha with rfl | rfl <;> rfl
    obtain ⟨hstep, hc', hoptions⟩ := State.step_connection (n := n) hc henabled hown
    have hfinished' : (c.next s.options a).isFinished = true := by
      rcases ha with rfl | rfl
      · simp only [Connection.next]
        split <;> exact hfinished
      · exact hfinished
    rcases hcloser with hend | hless
    · refine ⟨[⟨s, a⟩], _, Run.refl.step hstep, List.forall_mem_singleton.2 ha, ?_⟩
      rw [State.phase?, hc', Option.map_some, hend]
    · obtain ⟨tr, t, hrun, htakes, hlast⟩ := exists_run_ended n received taken hc' hfinished'
      exact ⟨⟨s, a⟩ :: tr, t, hrun.cons hstep, List.forall_mem_cons.2 ⟨ha, htakes⟩, hlast⟩
  termination_by c.effort s.options.maxMessageSize
  decreasing_by
    rw [hoptions]
    exact hless

end SyslogCollector.Listener
