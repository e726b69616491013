import SyslogCollector.Listener.Step
/-!
# How a listener runs dry

An action concerns the task of one source (`phase?_next_of_ne`), and the listener itself never takes
a task away from a message that it has handed over (`handing_next`). A listener without an endpoint
and without a task that goes on is drained: nothing but a start brings it back (`Drained.next`).
-/

namespace SyslogCollector.Listener

/-- The source that an action concerns. -/
def Action.source? : Action → Option Source
  | .accept id | .arrive id _ | .finish id | .read id _ | .expire id | .reset id | .fail id =>
    some (.connection id)
  | .datagram .. => some .datagrams
  | .answer source _ | .leave source => some source
  | .start | .stop | .close => none

namespace State

variable {s : State} {source other : Source} {id : Nat}

/-! ### What a step leaves alone -/

theorem exists_move (s : State) (phase : Phase) (source : Source) :
    ∃ connections datagrams, s.move phase source = { s with connections, datagrams } := by
  cases source with
  | connection id =>
    simp only [move]
    split <;> exact ⟨_, _, rfl⟩
  | datagrams => exact ⟨_, _, rfl⟩

theorem exists_deal (s : State) (source : Source) (events : List Event) (fate : Fate) :
    ∃ connections datagrams handed metrics,
      s.deal source events fate = { s with connections, datagrams, handed, metrics } := by
  unfold deal
  split
  · rename_i m _
    obtain ⟨connections, datagrams, hmove⟩ := exists_move
      { s.count (events ++ fate.events) with handed := s.handed ++ [(source, m)] } .handing source
    exact ⟨connections, datagrams, _, _, hmove⟩
  · exact ⟨_, _, _, _, rfl⟩

theorem exists_endConnection (s : State) (id : Nat) (events : List Event) :
    ∃ connections datagrams metrics,
      s.endConnection id events = { s with connections, datagrams, metrics } := by
  obtain ⟨connections, datagrams, hmove⟩ := s.exists_move .ended (.connection id)
  rw [endConnection, hmove]
  exact ⟨connections, datagrams, _, rfl⟩

theorem exists_read (s : State) (id : Nat) (received : Instant) (c : Connection) :
    ∃ connections datagrams handed metrics,
      s.read id received c = { s with connections, datagrams, handed, metrics } := by
  unfold read
  split
  · exact ⟨_, _, _, _, rfl⟩
  · rename_i reading _
    dsimp only
    split
    · exact exists_deal (s.put id { c with reader := .start, arrived := reading.rest }) _ _ _
    · obtain ⟨connections, datagrams, metrics, hend⟩ := exists_endConnection
        (s.put id { c with reader := .start, arrived := reading.rest }) id []
      exact ⟨connections, datagrams, _, metrics, hend⟩

/-- Only a start opens an endpoint. -/
theorem endpoint_next {a : Action} (n : Network) (s : State) (hstart : a ≠ .start) :
    (s.next n a).started = s.started ∧
      ((s.next n a).tcp = s.tcp ∨ (s.next n a).tcp = .closed) := by
  cases a with
  | start => exact absurd rfl hstart
  | stop | accept => exact ⟨rfl, .inl rfl⟩
  | close => exact ⟨rfl, .inr rfl⟩
  | arrive | finish =>
    simp only [next]
    split <;> exact ⟨rfl, .inl rfl⟩
  | read id received =>
    simp only [next]
    split
    · rename_i c _
      obtain ⟨_, _, _, _, hread⟩ := s.exists_read id received c
      rw [hread]
      exact ⟨rfl, .inl rfl⟩
    · exact ⟨rfl, .inl rfl⟩
  | datagram bytes received =>
    obtain ⟨_, _, _, _, hdeal⟩ := s.exists_deal .datagrams
      (datagramFate s.options.maxMessageSize s.options.mode received bytes).1
      (datagramFate s.options.maxMessageSize s.options.mode received bytes).2
    simp [next, hdeal]
  | answer source taken =>
    obtain ⟨_, _, hmove⟩ :=
      (s.count (if taken then [] else [.sinkError])).exists_move .reading source
    rw [next, answer, hmove]
    exact ⟨rfl, .inl rfl⟩
  | expire id | reset id =>
    obtain ⟨_, _, _, hend⟩ := s.exists_endConnection id []
    simp [next, hend]
  | fail id =>
    obtain ⟨_, _, _, hend⟩ := s.exists_endConnection id [.error]
    simp [next, hend]
  | leave source =>
    cases source with
    | connection id =>
      obtain ⟨_, _, _, hend⟩ := s.exists_endConnection id []
      simp [next, leave, hend]
    | datagrams => exact ⟨rfl, .inl rfl⟩

/-- A listener that is started was told so. -/
theorem started_start (n : Network) (s : State) : (s.start n).started = true := by
  have hbind (s : State) (transport : Transport) (h : s.started = true) :
      (s.bindEndpoint n transport).started = true := by
    unfold bindEndpoint
    split
    · exact h
    · split
      · exact h
      · cases transport <;> exact h
  exact hbind _ .udp (hbind _ .tcp rfl)

/-! ### Where the tasks stand -/

@[simp]
theorem phase?_count (s : State) (events : List Event) (source : Source) :
    (s.count events).phase? source = s.phase? source := by
  cases source <;> rfl

theorem phase?_put_self (s : State) (id : Nat) (c : Connection) :
    (s.put id c).phase? (.connection id) = some c.phase :=
  congrArg (Option.map _) (Numbered.lookup_assign_self id c s.connections)

theorem phase?_put_of_ne (h : other ≠ .connection id) (s : State) (c : Connection) :
    (s.put id c).phase? other = s.phase? other := by
  cases other with
  | connection n =>
    have hne : n ≠ id := by
      rintro rfl
      exact h rfl
    exact congrArg (Option.map _) (Numbered.lookup_assign_of_ne hne c s.connections)
  | datagrams => rfl

theorem phase?_move_of_ne (h : other ≠ source) (s : State) (phase : Phase) :
    (s.move phase source).phase? other = s.phase? other := by
  cases source with
  | connection id =>
    simp only [move]
    split
    · exact phase?_put_of_ne h s _
    · rfl
  | datagrams =>
    cases other with
    | connection n => rfl
    | datagrams => exact absurd rfl h

theorem phase?_deal_of_ne (h : other ≠ source) (s : State) (events : List Event) (fate : Fate) :
    (s.deal source events fate).phase? other = s.phase? other := by
  unfold deal
  split
  · rw [phase?_move_of_ne h]
    cases other <;> rfl
  · exact phase?_count s _ other

theorem phase?_endConnection_of_ne (h : other ≠ .connection id) (s : State) (events : List Event) :
    (s.endConnection id events).phase? other = s.phase? other := by
  rw [endConnection, phase?_count, phase?_move_of_ne h]

theorem phase?_read_of_ne (h : other ≠ .connection id) (s : State) (received : Instant)
    (c : Connection) : (s.read id received c).phase? other = s.phase? other := by
  unfold read
  split
  · exact phase?_put_of_ne h s _
  · rename_i reading _
    rw [← phase?_put_of_ne h s { c with reader := .start, arrived := reading.rest }]
    dsimp only
    split
    · exact phase?_deal_of_ne h _ _ _
    · exact phase?_endConnection_of_ne h _ _

/-- An action leaves the tasks of all sources but one. -/
theorem phase?_next_of_ne {a : Action} (n : Network) (s : State) (hstart : a ≠ .start)
    (h : a.source? ≠ some source) : (s.next n a).phase? source = s.phase? source := by
  have hne {own : Source} (ha : a.source? = some own) : source ≠ own := by
    rintro rfl
    exact h ha
  cases a with
  | start => exact absurd rfl hstart
  | stop | close => cases source <;> rfl
  | accept id =>
    simp only [next]
    rw [phase?_count, phase?_put_of_ne (hne rfl)]
  | arrive id piece | finish id =>
    simp only [next]
    split
    · exact phase?_put_of_ne (hne rfl) s _
    · rfl
  | read id received =>
    simp only [next]
    split
    · exact phase?_read_of_ne (hne rfl) s received _
    · rfl
  | datagram bytes received => exact phase?_deal_of_ne (hne rfl) s _ _
  | answer own taken =>
    simp only [next, answer]
    rw [phase?_move_of_ne (hne rfl), phase?_count]
  | expire id | reset id | fail id => exact phase?_endConnection_of_ne (hne rfl) s _
  | leave own =>
    cases own with
    | connection id => exact phase?_endConnection_of_ne (hne rfl) s _
    | datagrams =>
      cases source with
      | connection id => rfl
      | datagrams => exact absurd rfl (hne rfl)

/-- What becomes of the source that an action concerns: it stays where it is, was waiting for a
message, has its answer, or is a new connection. -/
theorem phase?_next_self {a : Action} {n : Network} (henabled : s.enabled a = true)
    (hown : a.source? = some source) :
    (s.next n a).phase? source = s.phase? source ∨ s.phase? source = some .reading ∨
      (∃ taken, a = .answer source taken) ∨ s.tcp.isListening = true ∧ s.phase? source = none := by
  have hput {id : Nat} {c c' : Connection} (hc : s.connection? id = some c)
      (hphase : c'.phase = c.phase) :
      (s.put id c').phase? (.connection id) = s.phase? (.connection id) := by
    rw [phase?_put_self, phase?, hc, Option.map_some, hphase]
  cases a with
  | start | stop | close => cases hown
  | accept id =>
    cases hown
    simp only [enabled, Bool.and_eq_true, Option.isNone_iff_eq_none] at henabled
    exact .inr (.inr (.inr ⟨henabled.1, by simp [phase?, henabled.2]⟩))
  | arrive id piece | finish id =>
    cases hown
    left
    simp only [next]
    split
    · rename_i hc
      exact hput hc rfl
    · rfl
  | read id received =>
    cases hown
    obtain ⟨c, hc, hreading⟩ := (Option.any_eq_true _ _).1 henabled
    simp only [Bool.and_eq_true, beq_iff_eq] at hreading
    exact .inr (.inl (by simp [phase?, hc, hreading.1]))
  | datagram bytes received =>
    cases hown
    simp only [enabled, Bool.and_eq_true, beq_iff_eq] at henabled
    exact .inr (.inl (congrArg some henabled.2))
  | answer own taken =>
    cases hown
    exact .inr (.inr (.inl ⟨taken, rfl⟩))
  | expire id =>
    cases hown
    simp only [enabled, Bool.and_eq_true, beq_iff_eq] at henabled
    exact .inr (.inl henabled.1)
  | reset id | fail id =>
    cases hown
    simp only [enabled, beq_iff_eq] at henabled
    exact .inr (.inl henabled)
  | leave own =>
    cases hown
    simp only [enabled, Bool.and_eq_true, beq_iff_eq] at henabled
    exact .inr (.inl henabled.2)

/-- Only its answer takes a task away from the message that it has handed over. -/
theorem handing_next {a : Action} {n : Network} (henabled : s.enabled a = true)
    (hstart : a ≠ .start) (hanswer : ∀ taken, a ≠ .answer source taken)
    (hphase : s.phase? source = some .handing) : (s.next n a).phase? source = some .handing := by
  by_cases hown : a.source? = some source
  · rcases phase?_next_self henabled hown with hsame | hreading | ⟨taken, ha⟩ | ⟨-, hnone⟩
    · rw [hsame, hphase]
    · cases hphase.symm.trans hreading
    · exact absurd ha (hanswer taken)
    · cases hphase.symm.trans hnone
  · rw [phase?_next_of_ne n s hstart hown, hphase]

/-! ### Running dry -/

/-- No endpoint listens for connections, and every task has come to its end. -/
structure Drained (s : State) : Prop where
  closed : s.tcp.isListening = false
  ended : ∀ source phase, s.phase? source = some phase → phase = .ended

theorem Drained.initial (options : Options) : Drained { options } where
  closed := rfl
  ended source phase h := by
    cases source with
    | connection id => cases h
    | datagrams =>
      cases h
      rfl

/-- A listener without tasks is drained. -/
theorem Drained.of_isQuiet (h : s.isQuiet = true) : s.Drained := by
  simp only [isQuiet, Bool.and_eq_true, Bool.not_eq_true', beq_iff_eq, List.all_eq_true] at h
  obtain ⟨⟨hclosed, hdatagrams⟩, hconnections⟩ := h
  refine ⟨hclosed, fun source phase hphase => ?_⟩
  cases source with
  | connection id =>
    obtain ⟨c, hc, rfl⟩ := Option.map_eq_some_iff.1 hphase
    exact hconnections _ (Numbered.mem_of_lookup_eq_some hc)
  | datagrams =>
    cases hphase
    exact hdatagrams

/-- A drained listener waits for no answer. -/
theorem Drained.not_handing (h : s.Drained) (source : Source) :
    s.phase? source ≠ some .handing := by
  intro hphase
  cases h.ended source _ hphase

theorem Drained.next {a : Action} {n : Network} (h : s.Drained) (henabled : s.enabled a = true)
    (hstart : a ≠ .start) : (s.next n a).Drained := by
  have hends (source : Source) (phase : Phase)
      (hphase : (s.next n a).phase? source = some phase) : phase = .ended := by
    by_cases hown : a.source? = some source
    · rcases phase?_next_self (n := n) henabled hown with hsame | hreading | ⟨taken, rfl⟩ | ⟨hopen, -⟩
      · exact h.ended source phase (hsame ▸ hphase)
      · cases h.ended source _ hreading
      · simp only [enabled, beq_iff_eq] at henabled
        exact absurd henabled (h.not_handing source)
      · cases h.closed.symm.trans hopen
    · rw [phase?_next_of_ne n s hstart hown] at hphase
      exact h.ended source phase hphase
  refine ⟨?_, hends⟩
  obtain ⟨-, hsame | hclosed⟩ := endpoint_next n s hstart
  · rw [hsame, h.closed]
  · rw [hclosed]
    rfl

end State

end SyslogCollector.Listener
