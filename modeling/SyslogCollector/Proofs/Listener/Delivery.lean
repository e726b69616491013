import SyslogCollector.Proofs.Listener.Answers
import SyslogCollector.Proofs.Listener.Completion
/-!
# Every frame is dealt with once

The messages that a connection hands to the sink are those of the frames of its stream that are
messages, in their order. What a frame comes to depends on the frame alone, so one that is blank,
too long or no message, and one that the sink refuses, changes nothing for the others
(`frames_delivered_and_counted`).
-/

namespace SyslogCollector.Listener

/-- Readings that show some frames are, with the times of these, the same messages. -/
theorem filterMap_zip_shown (mode : Syslog.Mode) {rs : List Reading}
    {frames : List (ReadFrame × Instant)} (h : rs.map Reading.shown = frames.map Prod.fst) :
    ((rs.zip (frames.map Prod.snd)).filterMap fun r => r.1.shown.message? mode r.2) =
      frames.filterMap fun f => f.1.message? mode f.2 := by
  have hframes : frames = (rs.zip (frames.map Prod.snd)).map (Prod.map Reading.shown id) := by
    rw [← List.zip_map_left]
    exact List.zip_of_prod h.symm rfl
  calc (rs.zip (frames.map Prod.snd)).filterMap (fun r => r.1.shown.message? mode r.2)
      = ((rs.zip (frames.map Prod.snd)).map (Prod.map Reading.shown id)).filterMap
          fun f => f.1.message? mode f.2 := by rw [List.filterMap_map]; rfl
    _ = frames.filterMap fun f => f.1.message? mode f.2 := by rw [← hframes]

variable {n : Network} {options : Options} {tr : Trace} {s : State} {id : Nat}

/-- What a source takes in is a message of a connection if it is a frame of that connection and a
message. -/
theorem Intake.handed?_connection (o : Options) (id : Nat) (i : Intake) :
    ((i.handed? o).filter (·.1 = .connection id)).map Prod.snd =
      (i.frameOf? id).bind fun f => f.1.message? o.mode f.2 := by
  cases i with
  | datagram bytes received =>
    cases hm : (datagram bytes received).message? o <;>
      simp [handed?, hm, frameOf?, source]
  | frame own f received =>
    have hmessage : (frame own f received).message? o = f.message? o.mode received := rfl
    rw [handed?, hmessage, frameOf?]
    by_cases hown : own = id
    · cases hm : f.message? o.mode received <;> simp [hown, hm, source]
    · cases hm : f.message? o.mode received <;> simp [hown, source]

/-- The messages of a connection are those of its frames. -/
theorem Accounted.handedBy_connection (h : Accounted options tr s) (id : Nat) :
    s.handedBy (.connection id) =
      (tr.frames id).filterMap fun f => f.1.message? options.mode f.2 := by
  rw [State.handedBy, h.handed, Trace.frames, List.filter_filterMap, List.map_filterMap,
    List.filterMap_filterMap]
  refine congrArg (List.filterMap · tr.intakes) (funext fun i => ?_)
  exact Intake.handed?_connection options id i

/-- The frames that were read are the first of the stream, whatever arrives later. When the
connection has ended they are all of them. -/
theorem Run.framesIn_eq (h : Run n { options } tr s) (hgo : id ∉ tr.interruptions) {c : Connection}
    (hc : s.connection? id = some c) {later : List UInt8}
    (hlater : c.isFinished = true → later = []) :
    ∃ rest, framesIn options.maxMessageSize ((tr.arrived id).flatten ++ later) =
        (tr.frames id).map Prod.fst ++ rest ∧
      (c.phase = .ended → c.isFinished = true ∧ rest = []) := by
  have hfollows := h.follows hgo
  rw [State.Follows, hc, h.accounted.options] at hfollows
  by_cases hended : c.phase = .ended
  · obtain ⟨hfinished, hall⟩ := hfollows.ended hended
    refine ⟨[], ?_, fun _ => ⟨hfinished, rfl⟩⟩
    rw [hlater hfinished, List.append_nil, List.append_nil, hall]
  · exact ⟨_, hfollows.ongoing hended later hlater, fun h => absurd h hended⟩

/-- A listener hands over exactly the messages among the frames it gets, in their order, and
accounts for every frame and every datagram once. For every run of a listener, whatever arrives on
its connections and in which pieces, whatever datagrams come, however all of this interleaves, and
whatever the sink answers:

* when a connection that was not interrupted has ended, what it handed over are the messages of the
  frames of its stream, each read at some time;
* at any time, what such a connection has read are the first frames of its stream, whatever still
  arrives, and it does not end before the stream does;
* once the other side has finished, the connection can be taken to its end by the steps of its
  reader and any answers of the sink;
* what is handed over at all are the messages among the frames and the datagrams taken in;
* the counts of messages, of malformed and of oversized ones are together the number of frames and
  datagrams that were too long or not blank; the messages that count as parsed are those handed
  over; and the errors of the sink are its refusals, of which every source gets at most one for
  each message. -/
theorem frames_delivered_and_counted (h : Run n { options } tr s) :
    (∀ id, id ∉ tr.interruptions → s.phase? (.connection id) = some .ended →
      ∃ times : List Instant,
        times.length = (readFrames options.maxMessageSize (tr.arrived id)).length ∧
        s.handedBy (.connection id) =
          ((readFrames options.maxMessageSize (tr.arrived id)).zip times).filterMap
            fun r => r.1.shown.message? options.mode r.2) ∧
    (∀ id c later, id ∉ tr.interruptions → s.connection? id = some c →
      (c.isFinished = true → later = []) →
      ∃ rest, framesIn options.maxMessageSize ((tr.arrived id).flatten ++ later) =
          (tr.frames id).map Prod.fst ++ rest ∧
        (c.phase = .ended → c.isFinished = true ∧ rest = [])) ∧
    (∀ id c received taken, s.connection? id = some c → c.isFinished = true →
      ∃ tr' s', Run n s tr' s' ∧ (∀ x ∈ tr', x.TakesOn id received taken) ∧
        s'.phase? (.connection id) = some .ended) ∧
    s.handed = tr.intakes.filterMap (·.handed? options) ∧
    s.metrics.parsed + s.metrics.malformed + s.metrics.oversized =
      tr.intakes.countP (·.matters options.maxMessageSize) ∧
    s.metrics.parsed = s.handed.length ∧
    s.metrics.sinkErrors = tr.countP (·.action.isRefusal) ∧
    ∀ source, (tr.answers source).length + s.pending source = (s.handedBy source).length := by
  have haccounted := h.accounted
  refine ⟨fun id hgo hended => ?_, fun id c later hgo hc hlater => h.framesIn_eq hgo hc hlater,
    fun id c received taken hc hfinished => exists_run_ended n received taken hc hfinished,
    haccounted.handed, haccounted.settled, haccounted.parsed, haccounted.refused, h.answered⟩
  obtain ⟨c, hc, hphase⟩ := Option.map_eq_some_iff.1 hended
  have hnothing : c.isFinished = true → ([] : List UInt8) = [] := fun _ => rfl
  obtain ⟨rest, hframes, hlast⟩ := h.framesIn_eq hgo hc hnothing
  obtain ⟨-, rfl⟩ := hlast hphase
  rw [List.append_nil, List.append_nil, ← map_shown_readFrames] at hframes
  refine ⟨(tr.frames id).map Prod.snd, ?_, ?_⟩
  · rw [List.length_map, ← List.length_map (f := Prod.fst), ← hframes, List.length_map]
  · rw [haccounted.handedBy_connection, filterMap_zip_shown options.mode hframes]

/-- A message that the sink refuses, a line that is none, a blank one, one that is too long and a
counted message on a connection, in three pieces, with a datagram between them. -/
theorem frames_delivered_and_counted_mixed :
    ∃ tr s, Run .isolated
        { options := {
            tcp := some "127.0.0.1:514", udp := some "127.0.0.1:514", maxMessageSize := 20 } }
        tr s ∧
      0 ∉ tr.interruptions ∧ s.phase? (.connection 0) = some .ended ∧
      (∃ times : List Instant, times.length = (readFrames 20 (tr.arrived 0)).length ∧
        s.handedBy (.connection 0) = ((readFrames 20 (tr.arrived 0)).zip times).filterMap
          fun r => r.1.shown.message? .automatic r.2) ∧
      s.handed.map (·.2.body) = ["x", "z", "y"] ∧
      s.metrics.parsed + s.metrics.malformed + s.metrics.oversized = 5 ∧
      s.metrics.sinkErrors = 1 := by
  obtain ⟨tr, s, hplay, hgo, hphase, hhanded, hmatters, hrefusals⟩ : ∃ tr s,
      Run.play .isolated
          [.start, .accept 0,
            .arrive 0 ("<14>1 - - a - - - x\nno".toList.map fun c => .ofNat c.toNat),
            .arrive 0 ("\n\n<14>1 - - a - - - too".toList.map fun c => .ofNat c.toNat),
            .read 0 ⟨0, 0⟩, .read 0 ⟨0, 0⟩,
            .datagram ("<14>1 - - a - - - z".toList.map fun c => .ofNat c.toNat) ⟨0, 0⟩,
            .answer (.connection 0) false, .read 0 ⟨0, 0⟩, .read 0 ⟨0, 0⟩, .read 0 ⟨0, 0⟩,
            .read 0 ⟨0, 0⟩, .read 0 ⟨0, 0⟩,
            .arrive 0 (" long\n19 <14>1 - - a - - - y".toList.map fun c => .ofNat c.toNat),
            .read 0 ⟨0, 0⟩, .read 0 ⟨0, 0⟩, .read 0 ⟨0, 0⟩, .finish 0, .read 0 ⟨0, 0⟩,
            .read 0 ⟨0, 0⟩, .read 0 ⟨0, 0⟩, .read 0 ⟨0, 0⟩, .read 0 ⟨0, 0⟩, .read 0 ⟨0, 0⟩,
            .answer .datagrams true, .answer (.connection 0) true, .read 0 ⟨0, 0⟩]
          [] { options := {
            tcp := some "127.0.0.1:514", udp := some "127.0.0.1:514", maxMessageSize := 20 } } =
          some (tr, s) ∧
        tr.interruptions = [] ∧ s.phase? (.connection 0) = some .ended ∧
        s.handed.map (·.2.body) = ["x", "z", "y"] ∧ tr.intakes.countP (·.matters 20) = 5 ∧
        tr.countP (·.action.isRefusal) = 1 :=
    ⟨_, _, rfl, rfl, rfl, rfl, rfl, rfl⟩
  have hrun := Run.refl.of_play hplay
  have hnone : 0 ∉ tr.interruptions := by simp [hgo]
  obtain ⟨hstream, -, -, -, hsettled, -, hrefused, -⟩ := frames_delivered_and_counted hrun
  exact ⟨tr, s, hrun, hnone, hphase, hstream 0 hnone hphase, hhanded, hsettled.trans hmatters,
    hrefused.trans hrefusals⟩

end SyslogCollector.Listener
