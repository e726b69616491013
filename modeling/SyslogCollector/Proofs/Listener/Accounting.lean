import SyslogCollector.Proofs.Framing.Limit
import SyslogCollector.Proofs.Listener.Trace
/-!
# What a listener hands over and counts

Every frame and every datagram that is taken in is counted as parsed, malformed or oversized, unless
it is blank, and it is handed over if it was parsed. Nothing else is handed over or counted as one
of these (`State.exists_adds_next`). So the messages that were handed over and the counters can be
read off the trace (`Run.accounted`).
-/

namespace SyslogCollector.Listener

/-! ## Counters -/

/-- Whether an event says what became of a frame or a datagram. -/
def Event.settles : Event → Bool
  | .parsed | .malformed | .oversized => true
  | _ => false

namespace Metrics

/-- How many frames and datagrams are counted for what became of them. -/
def settled (m : Metrics) : Nat :=
  m.parsed + m.malformed + m.oversized

/-- What every event of a kind adds 1 to, and no other event changes, counts the events of that
kind. -/
theorem tally_countAll {tally : Metrics → Nat} {kind : Event → Bool}
    (h : ∀ m e, tally (m.count e) = tally m + [e].countP kind) (m : Metrics)
    (events : List Event) : tally (m.countAll events) = tally m + events.countP kind := by
  induction events generalizing m with
  | nil => rfl
  | cons e events ih =>
    calc tally ((m.count e).countAll events)
        = tally m + [e].countP kind + events.countP kind := by rw [ih, h]
      _ = tally m + (e :: events).countP kind := by
          rw [Nat.add_assoc, ← List.countP_append, List.singleton_append]

theorem parsed_countAll (m : Metrics) (events : List Event) :
    (m.countAll events).parsed = m.parsed + events.count .parsed :=
  tally_countAll (fun _ e => by cases e <;> rfl) m events

theorem settled_countAll (m : Metrics) (events : List Event) :
    (m.countAll events).settled = m.settled + events.countP Event.settles :=
  tally_countAll (fun _ e => by cases e <;> simp +arith [count, settled, Event.settles]) m events

theorem sinkErrors_countAll (m : Metrics) (events : List Event) :
    (m.countAll events).sinkErrors = m.sinkErrors + events.count .sinkError :=
  tally_countAll (fun _ e => by cases e <;> rfl) m events

end Metrics

/-! ## Fates -/

namespace Fate

/-- The events of a fate tell whether there is a message, and whether it is not blank. -/
theorem message?_ofBytes (mode : Syslog.Mode) (received : Instant) (bytes : List UInt8) :
    (ofBytes mode received bytes).message? = messageOf? mode received bytes := by
  unfold ofBytes messageOf?
  dsimp only
  by_cases hblank : trimLineEnd bytes = []
  · rw [if_pos hblank, hblank]
    rfl
  · rw [if_neg hblank, if_neg (by simpa using hblank)]
    cases Syslog.parse (trimLineEnd bytes) mode received <;> rfl

theorem settles_ofBytes (mode : Syslog.Mode) (received : Instant) (bytes : List UInt8) :
    (ofBytes mode received bytes).events.countP Event.settles =
      if (trimLineEnd bytes).isEmpty then 0 else 1 := by
  unfold ofBytes
  dsimp only
  split
  · rfl
  · cases Syslog.parse (trimLineEnd bytes) mode received <;> rfl

theorem count_parsed_events (fate : Fate) :
    fate.events.count .parsed = fate.message?.toList.length := by
  cases fate <;> rfl

theorem count_sinkError_events (fate : Fate) : fate.events.count .sinkError = 0 := by
  cases fate <;> rfl

end Fate

namespace Intake

/-- What becomes of a frame or a datagram. -/
def fate (o : Options) (i : Intake) : Fate :=
  match i.kept? o.maxMessageSize with
  | some bytes => .ofBytes o.mode i.received bytes
  | none => .oversized

theorem message?_fate (o : Options) (i : Intake) : (i.fate o).message? = i.message? o := by
  unfold fate message?
  split
  · rename_i bytes hkept
    rw [hkept, Option.bind_some, Fate.message?_ofBytes]
  · rename_i hkept
    rw [hkept]
    rfl

theorem settles_fate (o : Options) (i : Intake) :
    (i.fate o).events.countP Event.settles = [i].countP (·.matters o.maxMessageSize) := by
  unfold fate matters
  cases hkept : i.kept? o.maxMessageSize with
  | some bytes =>
    rw [Fate.settles_ofBytes]
    cases hblank : (trimLineEnd bytes).isEmpty <;> simp [hkept, hblank]
  | none => simp [hkept, Fate.events, Event.settles]

/-- The fate of a reading is that of its frame. -/
theorem fate?_eq {r : Reading} (hgo : r.frame ≠ .endOfStream) (o : Options) (id : Nat)
    (received : Instant) :
    ∃ events, r.fate? o.mode received = some (events, (frame id r.shown received).fate o) ∧
      events.countP Event.settles = 0 ∧ events.count .parsed = 0 ∧ events.count .sinkError = 0 := by
  obtain ⟨frame, buffer, rest⟩ := r
  cases frame with
  | message size => exact ⟨[.received size], rfl, rfl, rfl, rfl⟩
  | tooLong => exact ⟨[], rfl, rfl, rfl, rfl⟩
  | endOfStream => exact absurd rfl hgo

/-- A datagram has the fate of what is taken of it. -/
theorem fate_datagram (o : Options) (bytes : List UInt8) (received : Instant) :
    (datagramFate o.maxMessageSize o.mode received bytes).2 = (datagram bytes received).fate o := by
  rw [datagramFate_eq]
  show _ = match if bytes.length ≤ o.maxMessageSize then some bytes else none with
    | some bytes => Fate.ofBytes o.mode received bytes
    | none => .oversized
  split <;> rfl

end Intake

/-! ## Steps -/

namespace State

/-- What a step adds to the messages that were handed over and to the counters. -/
structure Adds (s s' : State) (messages : List (Source × Message)) (events : List Event) :
    Prop where
  options : s'.options = s.options
  handed : s'.handed = s.handed ++ messages
  metrics : s'.metrics = s.metrics.countAll events

variable {s : State} {a : Action}

theorem Adds.nothing {s' : State} (hoptions : s'.options = s.options)
    (hhanded : s'.handed = s.handed) (hmetrics : s'.metrics = s.metrics) : Adds s s' [] [] :=
  ⟨hoptions, by rw [hhanded, List.append_nil], hmetrics⟩

theorem Adds.move {s' : State} {messages : List (Source × Message)} {events : List Event}
    (h : Adds s s' messages events) (phase : Phase) (source : Source) :
    Adds s (s'.move phase source) messages events := by
  obtain ⟨_, _, hmove⟩ := s'.exists_move phase source
  rw [hmove]
  exact ⟨h.options, h.handed, h.metrics⟩

theorem adds_deal (s : State) (source : Source) (events : List Event) (fate : Fate) :
    Adds s (s.deal source events fate) (fate.message?.toList.map (source, ·))
      (events ++ fate.events) := by
  unfold deal
  split
  · rename_i m hm
    rw [hm]
    have hadds : Adds s { s.count (events ++ fate.events) with handed := s.handed ++ [(source, m)] }
        [(source, m)] (events ++ fate.events) := ⟨rfl, rfl, rfl⟩
    exact hadds.move .handing source
  · rename_i hm
    rw [hm]
    exact ⟨rfl, (List.append_nil _).symm, rfl⟩

theorem Adds.endConnection {s' : State} {messages : List (Source × Message)}
    (h : Adds s s' messages []) (id : Nat) (events : List Event) :
    Adds s (s'.endConnection id events) messages (events ++ [.closed]) := by
  obtain ⟨_, _, hmove⟩ := s'.exists_move .ended (.connection id)
  rw [State.endConnection, hmove]
  refine ⟨h.options, h.handed, ?_⟩
  show s'.metrics.countAll _ = _
  rw [h.metrics]
  rfl

theorem adds_endConnection (s : State) (id : Nat) (events : List Event) :
    Adds s (s.endConnection id events) [] (events ++ [.closed]) :=
  Adds.endConnection (.nothing rfl rfl rfl) id events

theorem adds_start (n : Network) (s : State) : Adds s (s.start n) [] [] := by
  have hbind {s' : State} (h : Adds s s' [] []) (transport : Transport) :
      Adds s (s'.bindEndpoint n transport) [] [] := by
    obtain ⟨hoptions, hhanded, hmetrics⟩ := h
    unfold bindEndpoint
    split
    · exact ⟨hoptions, hhanded, hmetrics⟩
    · split
      · exact ⟨hoptions, hhanded, hmetrics⟩
      · cases transport <;> exact ⟨hoptions, hhanded, hmetrics⟩
  have hstarted : Adds s { s with started := true } [] [] := .nothing rfl rfl rfl
  exact hbind (hbind hstarted .tcp) .udp

/-- What the events of a step count, if it takes something in or not. -/
structure Tallies (o : Options) (i : Option Intake) (a : Action) (events : List Event) : Prop where
  parsed : events.count .parsed = (i.bind (·.handed? o)).toList.length
  settled : events.countP Event.settles = i.toList.countP (·.matters o.maxMessageSize)
  refused : events.count .sinkError = [a].countP Action.isRefusal

/-- What is taken in is dealt with by its fate. -/
theorem exists_adds_deal {i : Intake} {s' : State} {events : List Event} (hs' : Adds s s' [] [])
    (ha : a.isRefusal = false) (hsettled : events.countP Event.settles = 0)
    (hparsed : events.count .parsed = 0) (hrefused : events.count .sinkError = 0) :
    ∃ events', Adds s (s'.deal i.source events (i.fate s.options))
        (i.handed? s.options).toList events' ∧
      Tallies s.options (some i) a events' := by
  have hmessages : (i.fate s.options).message?.toList.map (i.source, ·) =
      (i.handed? s.options).toList := by
    rw [Intake.message?_fate]
    cases hm : i.message? s.options <;> simp [Intake.handed?, hm]
  have hadds := adds_deal s' i.source events (i.fate s.options)
  refine ⟨events ++ (i.fate s.options).events, ⟨?_, ?_, ?_⟩, ?_, ?_, ?_⟩
  · rw [hadds.options, hs'.options]
  · rw [hadds.handed, hs'.handed, List.append_nil, hmessages]
  · rw [hadds.metrics, hs'.metrics]
    rfl
  · rw [List.count_append, hparsed, Nat.zero_add, Fate.count_parsed_events, Option.bind_some,
      ← hmessages, List.length_map]
  · rw [List.countP_append, hsettled, Nat.zero_add, Intake.settles_fate, Option.toList_some]
  · rw [List.count_append, hrefused, Nat.zero_add, Fate.count_sinkError_events]
    simp [ha]

/-- A reading ends the stream, or its frame is dealt with. -/
theorem exists_adds_read (n : Network) (s : State) (id : Nat) (received : Instant) :
    ∃ events,
      Adds s (s.next n (.read id received)) (Transition.handed? ⟨s, .read id received⟩).toList
          events ∧
        Tallies s.options (Transition.intake? ⟨s, .read id received⟩) (.read id received)
          events := by
  cases hc : s.connection? id with
  | none =>
    have hi : Transition.intake? ⟨s, .read id received⟩ = none := by simp [Transition.intake?, hc]
    simp only [next, hc, Transition.handed?, hi]
    exact ⟨[], .nothing rfl rfl rfl, rfl, rfl, rfl⟩
  | some c =>
    have hi : Transition.intake? ⟨s, .read id received⟩ =
        (c.frame? s.options.maxMessageSize).map (.frame id · received) := by
      simp [Transition.intake?, hc]
    simp only [next, hc, Transition.handed?, hi, read, Connection.frame?]
    cases hstep : step s.options.maxMessageSize c.reader c.arrived with
    | more reader rest => exact ⟨[], .nothing rfl rfl rfl, rfl, rfl, rfl⟩
    | done r =>
      have hput : Adds s (s.put id { c with reader := .start, arrived := r.rest }) [] [] :=
        .nothing rfl rfl rfl
      by_cases hend : r.frame = .endOfStream
      · have hfate : r.fate? s.options.mode received = none := by simp [Reading.fate?, hend]
        simp only [hput.options, hfate, if_pos hend]
        exact ⟨[.closed], hput.endConnection id [], rfl, rfl, rfl⟩
      · obtain ⟨events, hfate, hsettled, hparsed, hrefused⟩ :=
          Intake.fate?_eq hend s.options id received
        simp only [hput.options, hfate, if_neg hend]
        exact exists_adds_deal (i := .frame id r.shown received) hput rfl hsettled hparsed hrefused

/-- A step hands over the message of what it takes in and counts what becomes of it, and counts a
refusal of the sink. It does nothing else of the kind. -/
theorem exists_adds_next (n : Network) (s : State) (a : Action) :
    ∃ events, Adds s (s.next n a) (Transition.handed? ⟨s, a⟩).toList events ∧
      Tallies s.options (Transition.intake? ⟨s, a⟩) a events := by
  cases a with
  | start => exact ⟨[], adds_start n s, rfl, rfl, rfl⟩
  | stop | close => exact ⟨[], .nothing rfl rfl rfl, rfl, rfl, rfl⟩
  | accept id => exact ⟨[.opened], ⟨rfl, (List.append_nil _).symm, rfl⟩, rfl, rfl, rfl⟩
  | arrive id piece | finish id =>
    refine ⟨[], ?_, rfl, rfl, rfl⟩
    simp only [next]
    split <;> exact .nothing rfl rfl rfl
  | read id received => exact exists_adds_read n s id received
  | datagram bytes received =>
    simp only [next, Intake.fate_datagram s.options bytes received]
    exact exists_adds_deal (i := .datagram bytes received) (.nothing rfl rfl rfl) rfl rfl rfl rfl
  | answer source taken =>
    have hcount : Adds s (s.count (if taken then [] else [.sinkError])) []
        (if taken then [] else [.sinkError]) := ⟨rfl, (List.append_nil _).symm, rfl⟩
    refine ⟨_, hcount.move .reading source, ?_⟩
    cases taken <;> exact ⟨rfl, rfl, rfl⟩
  | expire id | reset id =>
    exact ⟨[.closed], adds_endConnection s id [], rfl, rfl, rfl⟩
  | fail id => exact ⟨[.error, .closed], adds_endConnection s id [.error], rfl, rfl, rfl⟩
  | leave source =>
    cases source with
    | connection id => exact ⟨[.closed], adds_endConnection s id [], rfl, rfl, rfl⟩
    | datagrams => exact ⟨[], .nothing rfl rfl rfl, rfl, rfl, rfl⟩

end State

/-! ## Runs -/

/-- What a listener has handed over and counted is what its trace shows. -/
structure Accounted (o : Options) (tr : Trace) (s : State) : Prop where
  /-- The setup stays. -/
  options : s.options = o
  /-- What was taken in was handed over if it was a message, in its order. -/
  handed : s.handed = tr.intakes.filterMap (·.handed? o)
  /-- What was handed over counts as parsed. -/
  parsed : s.metrics.parsed = s.handed.length
  /-- What was taken in counts once if it was not blank. -/
  settled : s.metrics.settled = tr.intakes.countP (·.matters o.maxMessageSize)
  /-- The refusals of the sink are counted. -/
  refused : s.metrics.sinkErrors = tr.countP (·.action.isRefusal)

/-- Whatever happens, everything is handed over and counted as the trace shows it. -/
theorem Run.accounted {n : Network} {options : Options} {tr : Trace} {s : State}
    (h : Run n { options } tr s) : Accounted options tr s := by
  induction h with
  | refl => exact ⟨rfl, rfl, rfl, rfl, rfl⟩
  | @step tr s s' a _ hstep ih =>
    obtain ⟨-, rfl⟩ := hstep
    obtain ⟨hoptions, hhanded, hparsed, hsettled, hrefused⟩ := ih
    obtain ⟨events, hadds, htallies⟩ := s.exists_adds_next n a
    subst hoptions
    refine ⟨hadds.options, ?_, ?_, ?_, ?_⟩
    · rw [hadds.handed, hhanded, Trace.intakes_concat, List.filterMap_append]
      cases hi : Transition.intake? ⟨s, a⟩ with
      | none => simp [Transition.handed?, hi]
      | some i => cases hm : i.handed? s.options <;> simp [Transition.handed?, hi, hm]
    · rw [hadds.metrics, Metrics.parsed_countAll, hparsed, htallies.parsed, hadds.handed,
        List.length_append]
      rfl
    · rw [hadds.metrics, Metrics.settled_countAll, hsettled, htallies.settled,
        Trace.intakes_concat, List.countP_append]
    · rw [hadds.metrics, Metrics.sinkErrors_countAll, hrefused, htallies.refused,
        List.countP_append]
      simp only [List.countP_singleton]

end SyslogCollector.Listener
