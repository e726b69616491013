import SyslogCollector.Proofs.Listener.Accounting
/-!
# One connection among others

What happens to a connection is decided by its own actions (`connection?_next_self`); all others,
whatever they come to, leave it as it is (`connection?_next_of_ne`). So a connection is followed
through a run as if it were alone: the frames it has read are the first of its stream, and where its
reader stands decides the others, whatever arrives later (`Run.follows`).
-/

namespace SyslogCollector.Listener

variable {id : Nat} {source : Source}

namespace State

variable {n : Network} {s : State} {a : Action} {c : Connection}

/-! ## The other connections -/

@[simp]
theorem options_put (s : State) (id : Nat) (c : Connection) : (s.put id c).options = s.options :=
  rfl

theorem connection?_put_self (s : State) (id : Nat) (c : Connection) :
    (s.put id c).connection? id = some c :=
  Numbered.lookup_assign_self id c s.connections

theorem connection?_put_of_ne {own : Nat} (h : id ≠ own) (s : State) (c : Connection) :
    (s.put own c).connection? id = s.connection? id :=
  Numbered.lookup_assign_of_ne h c s.connections

theorem connection?_move_self (s : State) (phase : Phase) (id : Nat) :
    (s.move phase (.connection id)).connection? id =
      (s.connection? id).map ({ · with phase }) := by
  simp only [move]
  split
  · rename_i c hc
    rw [connection?_put_self, hc, Option.map_some]
  · rename_i hc
    rw [hc, Option.map_none]

theorem connection?_move_of_ne (h : source ≠ .connection id) (s : State) (phase : Phase) :
    (s.move phase source).connection? id = s.connection? id := by
  cases source with
  | connection own =>
    simp only [move]
    split
    · refine connection?_put_of_ne ?_ s _
      rintro rfl
      exact h rfl
    · rfl
  | datagrams => rfl

theorem connection?_deal_of_ne (h : source ≠ .connection id) (s : State) (events : List Event)
    (fate : Fate) : (s.deal source events fate).connection? id = s.connection? id := by
  unfold deal
  split
  · exact connection?_move_of_ne h _ _
  · rfl

theorem connections_start (n : Network) (s : State) :
    (s.start n).connections = s.connections := by
  have hbind (s : State) (transport : Transport) :
      (s.bindEndpoint n transport).connections = s.connections := by
    unfold bindEndpoint
    split
    · rfl
    · split
      · rfl
      · cases transport <;> rfl
  exact (hbind _ .udp).trans (hbind _ .tcp)

/-- An action leaves all connections but the one it concerns. -/
theorem connection?_next_of_ne (n : Network) (s : State)
    (h : a.source? ≠ some (.connection id)) : (s.next n a).connection? id = s.connection? id := by
  have hne {own : Source} (ha : a.source? = some own) : own ≠ .connection id := by
    rintro rfl
    exact h ha
  have hput {own : Nat} (ha : a.source? = some (.connection own)) (s : State) (c : Connection) :
      (s.put own c).connection? id = s.connection? id := by
    refine connection?_put_of_ne ?_ s c
    rintro rfl
    exact h ha
  cases a with
  | start => exact congrArg (List.lookup id) (connections_start n s)
  | stop | close => rfl
  | accept own => exact hput rfl s {}
  | arrive own piece | finish own =>
    simp only [next]
    split
    · exact hput rfl s _
    · rfl
  | read own received =>
    simp only [next]
    split
    · unfold read
      split
      · exact hput rfl s _
      · dsimp only
        split
        · rw [connection?_deal_of_ne (hne rfl), hput rfl]
        · exact (connection?_move_of_ne (hne rfl) _ .ended).trans (hput rfl s _)
    · rfl
  | datagram bytes received => exact connection?_deal_of_ne (hne rfl) s _ _
  | answer own taken => exact connection?_move_of_ne (hne rfl) _ .reading
  | expire own | reset own | fail own => exact connection?_move_of_ne (hne rfl) s .ended
  | leave own =>
    cases own with
    | connection own => exact connection?_move_of_ne (hne rfl) s .ended
    | datagrams => rfl

end State

/-! ## A connection by itself -/

namespace Connection

/-- Where the task of a connection stands after a frame. -/
def phaseAfter (o : Options) (received : Instant) (c : Connection) (r : Reading) : Phase :=
  match r.fate? o.mode received with
  | none => .ended
  | some (_, fate) => if fate.message?.isSome then .handing else c.phase

/-- What an action does to the connection that it concerns. -/
def next (o : Options) (c : Connection) : Action → Connection
  | .arrive _ piece => { c with arrived := c.arrived ++ [piece] }
  | .finish _ => { c with isFinished := true }
  | .read _ received =>
    match step o.maxMessageSize c.reader c.arrived with
    | .more reader rest => { c with reader, arrived := rest }
    | .done r =>
      { c with reader := .start, arrived := r.rest, phase := c.phaseAfter o received r }
  | .answer .. => { c with phase := .reading }
  | .expire _ | .reset _ | .fail _ | .leave _ => { c with phase := .ended }
  | .start | .stop | .close | .accept _ | .datagram .. => c

end Connection

namespace State

variable {n : Network} {s : State} {a : Action} {c : Connection}

theorem connection?_deal_self (s : State) (id : Nat) (events : List Event) (fate : Fate) :
    (s.deal (.connection id) events fate).connection? id =
      (s.connection? id).map fun c =>
        { c with phase := if fate.message?.isSome then .handing else c.phase } := by
  unfold deal
  split
  · rename_i m hm
    rw [connection?_move_self, hm]
    rfl
  · rename_i hm
    rw [hm]
    exact Option.map_id'.symm

theorem connection?_read_self (s : State) (id : Nat) (received : Instant) (c : Connection) :
    (s.read id received c).connection? id = some (c.next s.options (.read id received)) := by
  unfold read
  cases hstep : step s.options.maxMessageSize c.reader c.arrived with
  | more reader rest =>
    simp only [Connection.next, hstep]
    exact connection?_put_self s id _
  | done r =>
    simp only [Connection.next, hstep, Connection.phaseAfter, options_put]
    cases r.fate? s.options.mode received with
    | none =>
      exact (connection?_move_self _ .ended id).trans
        (congrArg (Option.map _) (connection?_put_self s id _))
    | some outcome =>
      obtain ⟨events, fate⟩ := outcome
      exact (connection?_deal_self _ id events fate).trans
        (congrArg (Option.map _) (connection?_put_self s id _))

/-- An action does to its connection what it would do if there were no other. -/
theorem connection?_next_self (n : Network) (hc : s.connection? id = some c)
    (hown : a.source? = some (.connection id)) (haccept : a ≠ .accept id) :
    (s.next n a).connection? id = some (c.next s.options a) := by
  have hend :
      (s.move .ended (.connection id)).connection? id = some { c with phase := .ended } := by
    rw [connection?_move_self, hc, Option.map_some]
  cases a with
  | start | stop | close | datagram => cases hown
  | accept own =>
    cases hown
    exact absurd rfl haccept
  | arrive own piece | finish own =>
    cases hown
    simp only [next, hc]
    exact connection?_put_self s id _
  | read own received =>
    cases hown
    simp only [next, hc]
    exact connection?_read_self s id received c
  | answer own taken =>
    cases hown
    exact (connection?_move_self _ .reading id).trans (congrArg (Option.map _) hc)
  | expire own | reset own | fail own | leave own =>
    cases hown
    exact hend

end State

/-! ## A connection and its stream -/

/-- The reader finds the end of the stream only where no piece is left and it needs one. -/
theorem step_endOfStream {max : Nat} {s : ReaderState} {ps : Pieces} {r : Reading}
    (hstep : step max s ps = .done r) (hend : r.frame = .endOfStream) :
    ps = [] ∧ s.isComplete = false := by
  have hline (buffer : List UInt8) (read : Nat) (exceeded : Bool) (rest : Pieces) :
      endLine buffer read exceeded rest ≠ .done r := by
    intro h
    cases exceeded <;> cases h <;> cases hend
  cases s with
  | start =>
    cases ps with
    | nil => exact ⟨rfl, rfl⟩
    | cons piece rest => cases piece <;> cases hstep
  | count digits =>
    cases ps with
    | nil => cases hstep
    | cons piece rest =>
      cases piece with
      | nil => cases hstep
      | cons b piece =>
        simp only [step] at hstep
        split at hstep
        · cases hstep
        · split at hstep <;> cases hstep
  | skip n =>
    cases n with
    | zero =>
      cases hstep
      cases hend
    | succ n =>
      cases ps with
      | nil => exact ⟨rfl, rfl⟩
      | cons piece rest => cases hstep
  | body buffer n =>
    cases n with
    | zero =>
      cases hstep
      cases hend
    | succ n =>
      cases ps with
      | nil => exact ⟨rfl, rfl⟩
      | cons piece rest => cases hstep
  | line buffer read exceeded =>
    cases ps with
    | nil => exact ⟨rfl, rfl⟩
    | cons piece rest =>
      simp only [step, stepLine] at hstep
      split at hstep
      · exact absurd hstep (hline _ _ _ _)
      · cases hstep

namespace Connection

/-- A connection reads on if its frame is complete, or another piece or the end of the stream is
there. -/
theorem canRead_eq (c : Connection) :
    c.canRead = (c.reader.isComplete || (!c.arrived.isEmpty || c.isFinished)) := by
  obtain ⟨phase, reader, arrived, isFinished⟩ := c
  cases reader with
  | start | count | line => rfl
  | skip n | body buffer n => cases n <;> rfl

/-- What the reader needs in order to go on. -/
theorem sees_of_canRead {c : Connection} (hcan : c.canRead = true) {later : List UInt8}
    (hlater : c.isFinished = true → later = []) :
    c.arrived ≠ [] ∨ c.reader.isComplete = true ∨ later = [] := by
  rw [canRead_eq] at hcan
  simp only [Bool.or_eq_true, Bool.not_eq_true', List.isEmpty_eq_false_iff] at hcan
  rcases hcan with hcomplete | harrived | hfinished
  · exact .inr (.inl hcomplete)
  · exact .inl harrived
  · exact .inr (.inr (hlater hfinished))

/-- How far a connection is through what has arrived on it. -/
structure Follows (max : Nat) (arrived : Pieces) (frames : List ReadFrame) (c : Connection) :
    Prop where
  /-- The frames it has read are the first of the stream, and where its reader stands decides the
  others, whatever arrives later. Nothing does once the other side has finished. -/
  ongoing : c.phase ≠ .ended → ∀ later, (c.isFinished = true → later = []) →
    framesIn max (arrived.flatten ++ later) =
      frames ++ (c.reader.outcome max (c.arrived.flatten ++ later)).frames max
  /-- It does not end before its stream does. -/
  ended : c.phase = .ended → c.isFinished = true ∧ framesIn max arrived.flatten = frames

namespace Follows

variable {max : Nat} {arrived : Pieces} {frames : List ReadFrame} {c : Connection}

theorem initial (max : Nat) : Follows max [] [] {} where
  ongoing _ later _ := framesIn_eq max later
  ended hended := absurd hended (by decide)

theorem arrive (h : c.Follows max arrived frames) (hopen : c.isFinished = false)
    (piece : List UInt8) :
    Follows max (arrived ++ [piece]) frames
      { c with arrived := c.arrived ++ [piece] } where
  ongoing hphase later _ := by
    -- what has just arrived was still to come
    have hall := h.ongoing hphase (piece ++ later) (by simp [hopen])
    simpa using hall
  ended hphase := absurd (h.ended hphase).1 (by simp [hopen])

theorem finish (h : c.Follows max arrived frames) :
    Follows max arrived frames { c with isFinished := true } where
  ongoing hphase later hlater := h.ongoing hphase later fun _ => hlater rfl
  ended hphase := ⟨rfl, (h.ended hphase).2⟩

/-- A connection whose task goes on reads on where it was. -/
theorem proceed (h : c.Follows max arrived frames) (hphase : c.phase ≠ .ended)
    {phase : Phase} (hgo : phase ≠ .ended) :
    Follows max arrived frames { c with phase } where
  ongoing _ := h.ongoing hphase
  ended hended := absurd hended hgo

theorem readOn (h : c.Follows max arrived frames) (hphase : c.phase ≠ .ended)
    (hcan : c.canRead = true) {reader : ReaderState} {rest : Pieces}
    (hstep : step max c.reader c.arrived = .more reader rest) :
    Follows max arrived frames { c with reader, arrived := rest } where
  ongoing _ later hlater := by
    rw [h.ongoing hphase later hlater,
      outcome_eq_of_more hstep (sees_of_canRead hcan hlater)]
  ended hended := absurd hended hphase

/-- A complete frame is the next one of the stream. -/
theorem complete (h : c.Follows max arrived frames) (hphase : c.phase ≠ .ended)
    (hcan : c.canRead = true) {r : Reading} (hstep : step max c.reader c.arrived = .done r)
    (hframe : r.frame ≠ .endOfStream) {phase : Phase} (hgo : phase ≠ .ended) :
    Follows max arrived (frames ++ [r.shown])
      { c with phase, reader := .start, arrived := r.rest } where
  ongoing _ later hlater := by
    rw [h.ongoing hphase later hlater, outcome_eq_of_done hstep (sees_of_canRead hcan hlater),
      FrameOutcome.frames, if_neg hframe, framesIn_eq, List.append_assoc]
    rfl
  ended hended := absurd hended hgo

/-- At the end of the stream all its frames have been read. -/
theorem finishReading (h : c.Follows max arrived frames) (hphase : c.phase ≠ .ended)
    (hcan : c.canRead = true) {r : Reading} (hstep : step max c.reader c.arrived = .done r)
    (hframe : r.frame = .endOfStream) :
    Follows max arrived frames
      { c with phase := .ended, reader := .start, arrived := r.rest } where
  ongoing hgo := absurd rfl hgo
  ended _ := by
    -- the reader sees the end of the stream, and that is where the other side has finished
    obtain ⟨hnothing, hopen⟩ := step_endOfStream hstep hframe
    have hfinished : c.isFinished = true := by
      simpa [canRead_eq, hnothing, hopen] using hcan
    have hall := h.ongoing hphase [] fun _ => rfl
    rw [outcome_eq_of_done hstep (.inr (.inr rfl)), FrameOutcome.frames, if_pos hframe] at hall
    exact ⟨hfinished, by simpa using hall⟩

end Follows

/-- What the frame of a step adds to the frames of a connection. -/
theorem intake?_read {s : State} {c : Connection} (hc : s.connection? id = some c)
    (received : Instant) :
    (Transition.intake? ⟨s, .read id received⟩).bind (·.frameOf? id) =
      (c.frame? s.options.maxMessageSize).map (·, received) := by
  simp only [Transition.intake?, hc, Option.bind_some]
  cases c.frame? s.options.maxMessageSize with
  | none => rfl
  | some f => simp [Intake.frameOf?]

/-- A connection that goes on stays where its stream is. -/
theorem Follows.next {s : State} {a : Action} {c : Connection} {arrived : Pieces}
    {frames : List ReadFrame} (h : c.Follows s.options.maxMessageSize arrived frames)
    (hc : s.connection? id = some c) (henabled : s.enabled a = true)
    (hown : a.source? = some (.connection id)) (hgo : a.interrupted? ≠ some id) :
    (c.next s.options a).Follows s.options.maxMessageSize (arrived ++ (a.arrived? id).toList)
      (frames ++
        ((Transition.intake? ⟨s, a⟩).bind (·.frameOf? id)).toList.map Prod.fst) := by
  have hphase : s.phase? (.connection id) = some c.phase := by simp [State.phase?, hc]
  cases a with
  | start | stop | close | datagram => cases hown
  | accept own =>
    cases hown
    simp [State.enabled, hc] at henabled
  | expire own | reset own | fail own | leave own =>
    cases hown
    exact absurd rfl hgo
  | arrive own piece =>
    cases hown
    have hopen : c.isFinished = false := by
      simp only [State.enabled, hc, Option.any_some, Bool.and_eq_true,
        Bool.not_eq_true'] at henabled
      exact henabled.1
    simpa [Action.arrived?, Transition.intake?, Connection.next] using h.arrive hopen piece
  | finish own =>
    cases hown
    simpa [Action.arrived?, Transition.intake?, Connection.next] using h.finish
  | answer own taken =>
    cases hown
    have hhanding : c.phase ≠ .ended := by
      simp only [State.enabled, hphase, beq_iff_eq, Option.some.injEq] at henabled
      rw [henabled]
      decide
    have hreading : Follows _ arrived frames { c with phase := .reading } :=
      h.proceed hhanding (by decide)
    simpa [Action.arrived?, Transition.intake?, Connection.next] using hreading
  | read own received =>
    cases hown
    simp only [State.enabled, hc, Option.any_some, Bool.and_eq_true, beq_iff_eq] at henabled
    obtain ⟨hreading, hcan⟩ := henabled
    have hopen : c.phase ≠ .ended := by
      rw [hreading]
      decide
    have harrived : Action.arrived? id (.read id received) = none := rfl
    rw [intake?_read hc, harrived, Option.toList_none, List.append_nil]
    simp only [Connection.next, frame?]
    cases hstep : step s.options.maxMessageSize c.reader c.arrived with
    | more reader rest => simpa using h.readOn hopen hcan hstep
    | done r =>
      by_cases hend : r.frame = .endOfStream
      · simpa [hend, phaseAfter, Reading.fate?] using h.finishReading hopen hcan hstep hend
      · have hgo : c.phaseAfter s.options received r ≠ .ended := by
          obtain ⟨events, hfate, -⟩ := Intake.fate?_eq hend s.options id received
          simp only [phaseAfter, hfate]
          split
          · decide
          · exact hopen
        simpa [hend] using h.complete hopen hcan hstep hend hgo

end Connection

/-! ## A connection in a run -/

/-- Only the actions of a connection bring bytes to it. -/
theorem Action.arrived?_eq_none {a : Action} (h : a.source? ≠ some (.connection id)) :
    a.arrived? id = none := by
  cases a with
  | arrive own piece =>
    refine if_neg ?_
    rintro rfl
    exact h rfl
  | _ => rfl

/-- Only the actions of a connection complete a frame of it. -/
theorem Transition.frameOf?_eq_none {x : Transition}
    (h : x.action.source? ≠ some (.connection id)) :
    x.intake?.bind (·.frameOf? id) = none := by
  obtain ⟨s, a⟩ := x
  cases a with
  | read own received =>
    have hne : own ≠ id := by
      rintro rfl
      exact h rfl
    simp only [intake?]
    cases (s.connection? own).bind (·.frame? s.options.maxMessageSize) with
    | none => rfl
    | some f => exact if_neg hne
  | _ => rfl

/-- How far the connection of a number is. One that was never accepted is nowhere. -/
def State.Follows (s : State) (id : Nat) (arrived : Pieces) (frames : List ReadFrame) : Prop :=
  match s.connection? id with
  | none => arrived = [] ∧ frames = []
  | some c => c.Follows s.options.maxMessageSize arrived frames

/-- Whatever the other connections, the datagrams and the sink do, the frames of a connection that
is not interrupted are those of its stream. -/
theorem Run.follows {n : Network} {options : Options} {tr : Trace} {s : State}
    (h : Run n { options } tr s) (hgo : id ∉ tr.interruptions) :
    s.Follows id (tr.arrived id) ((tr.frames id).map Prod.fst) := by
  induction h with
  | refl => exact ⟨rfl, rfl⟩
  | @step tr s s' a _ hstep ih =>
    obtain ⟨henabled, rfl⟩ := hstep
    rw [Trace.mem_interruptions_concat, not_or] at hgo
    have hfollows := ih hgo.1
    have hoptions : (s.next n a).options = s.options := by
      obtain ⟨_, hadds, -⟩ := s.exists_adds_next n a
      exact hadds.options
    rw [Trace.arrived_concat, Trace.frames_concat, List.map_append, State.Follows, hoptions]
    by_cases hown : a.source? = some (.connection id)
    · cases hc : s.connection? id with
      | none =>
        -- the first action of a connection is to accept it
        rw [State.Follows, hc] at hfollows
        cases a with
        | start | stop | close | datagram => cases hown
        | accept own =>
          cases hown
          have hnew : (s.next n (.accept id)).connection? id = some {} :=
            State.connection?_put_self s id {}
          rw [hnew, hfollows.1, hfollows.2]
          exact Connection.Follows.initial _
        | arrive own | finish own | read own | expire own | reset own | fail own | answer own
        | leave own =>
          cases hown
          simp [State.enabled, State.phase?, hc] at henabled
      | some c =>
        rw [State.Follows, hc] at hfollows
        have haccept : a ≠ .accept id := by
          rintro rfl
          simp [State.enabled, hc] at henabled
        rw [State.connection?_next_self n hc hown haccept]
        exact hfollows.next hc henabled hown hgo.2
    · rw [State.connection?_next_of_ne n s hown, Action.arrived?_eq_none hown,
        Transition.frameOf?_eq_none hown]
      simpa [State.Follows] using hfollows

end SyslogCollector.Listener
