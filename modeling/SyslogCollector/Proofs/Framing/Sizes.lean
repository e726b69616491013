import Mathlib.Algebra.BigOperators.Group.List.Basic
import Mathlib.Algebra.GroupWithZero.Nat
import Mathlib.Data.List.TakeWhile
import SyslogCollector.Listener.Delivery
import SyslogCollector.Proofs.Framing.Wire
/-!
# The sizes that frames are accounted with

Every complete frame carries a number, and the numbers of all frames add up to the bytes that a
listener counts as received. The number is the length of what the reader keeps: a whole line, its
line feed included, but only the body of a counted frame. So the numbers of a stream fall short of
its bytes by the lengths, with their spaces, that stand in front of counted frames
(`sizes_account_for_stream`).
-/

namespace SyslogCollector.Listener

/-- What stands in front of the text of the first frame of some bytes: the length and the space of a
counted frame, and nothing of a line. -/
def frameHead (bytes : List UInt8) : List UInt8 :=
  let digits := bytes.takeWhile isDigit
  if digits ≠ [] ∧ digits.length ≤ maxCountDigits ∧ bytes[digits.length]? = some space then
    digits ++ [space]
  else []

section

variable {digits : List UInt8} (h : ∀ b ∈ digits, isDigit b = true)

include h in
/-- Digits in front of another byte are all that is taken for a length. -/
theorem takeWhile_digits {b : UInt8} (hb : isDigit b = false) (bytes : List UInt8) :
    (digits ++ b :: bytes).takeWhile isDigit = digits := by
  rw [List.takeWhile_append_of_pos h, List.takeWhile_cons, hb]
  exact List.append_nil _

include h in
/-- A length and the space behind it stand in front of the text. -/
theorem frameHead_length (hne : digits ≠ []) (hlength : digits.length ≤ maxCountDigits)
    (bytes : List UInt8) : frameHead (digits ++ space :: bytes) = digits ++ [space] := by
  have hdigits := takeWhile_digits h (b := space) rfl bytes
  have hspace : (digits ++ space :: bytes)[digits.length]? = some space := by simp
  unfold frameHead
  rw [hdigits]
  exact if_pos ⟨hne, hlength, hspace⟩

include h in
/-- Nothing stands in front of a text that is no length and space. -/
theorem frameHead_of_next {b : UInt8}
    (hdigit : ¬ (isDigit b = true ∧ digits.length < maxCountDigits))
    (hspace : ¬ (b = space ∧ digits ≠ [])) (bytes : List UInt8) :
    frameHead (digits ++ b :: bytes) = [] := by
  unfold frameHead
  by_cases hb : isDigit b = true
  · -- there are more digits than a length may have
    have hlong : maxCountDigits ≤ digits.length := Nat.not_lt.1 fun hroom => hdigit ⟨hb, hroom⟩
    refine if_neg fun hcounted => ?_
    have hmore := hcounted.2.1
    rw [List.takeWhile_append_of_pos h, List.takeWhile_cons, hb, List.length_append] at hmore
    simp only [if_true, List.length_cons] at hmore
    omega
  · rw [takeWhile_digits h (by simpa using hb)]
    refine if_neg fun hcounted => hspace ⟨?_, hcounted.1⟩
    simpa using hcounted.2.2

include h in
/-- Nothing stands in front of digits that go on to the end. -/
theorem frameHead_of_digits : frameHead digits = [] := by
  unfold frameHead
  rw [List.takeWhile_eq_self_iff.2 h]
  refine if_neg fun hcounted => ?_
  simp at hcounted

end

/-! ## What one call takes -/

namespace FrameOutcome

/-- A complete frame is accounted with the number of its bytes, and these are the first of some
bytes, of which the others are left. -/
def Keeps (o : FrameOutcome) (bytes : List UInt8) : Prop :=
  ∀ size, o.frame = .message size → size = o.buffer.length ∧ bytes = o.buffer ++ o.rest

theorem keeps_message (buffer rest : List UInt8) :
    Keeps ⟨.message buffer.length, buffer, rest⟩ (buffer ++ rest) := by
  rintro size ⟨⟩
  exact ⟨rfl, rfl⟩

theorem keeps_tooLong (rest bytes : List UInt8) : Keeps ⟨.tooLong, [], rest⟩ bytes := by
  rintro size ⟨⟩

theorem keeps_ended (bytes : List UInt8) : ended.Keeps bytes := by
  rintro size ⟨⟩

theorem keeps_ofLine {buffer : List UInt8} {read : Nat} (hread : read = buffer.length)
    (exceeded : Bool) (rest : List UInt8) :
    (ofLine buffer read exceeded rest).Keeps (buffer ++ rest) := by
  cases exceeded with
  | true => exact keeps_tooLong rest _
  | false => exact hread ▸ keeps_message buffer rest

end FrameOutcome

/-- A line keeps all its bytes, those that were read before included. -/
theorem lineFromOutcome_keeps (max : Nat) (digits bytes : List UInt8) :
    (lineFromOutcome max digits bytes).Keeps (digits ++ bytes) := by
  unfold lineFromOutcome lineOutcome
  split
  · rename_i line after hcut
    rw [Lines.append_of_cut? hcut, ← List.append_assoc]
    exact FrameOutcome.keeps_ofLine List.length_append.symm _ after
  · dsimp only
    split
    · exact FrameOutcome.keeps_ended _
    · -- nothing follows the last line
      have hkeeps (exceeded : Bool) :
          (FrameOutcome.ofLine (digits ++ bytes) (digits.length + bytes.length) exceeded []).Keeps
            (digits ++ bytes ++ []) :=
        FrameOutcome.keeps_ofLine List.length_append.symm exceeded []
      rw [List.append_nil] at hkeeps
      exact hkeeps _

/-- A counted frame keeps the bytes behind its length. -/
theorem countedOutcome_keeps (max length : Nat) (bytes : List UInt8) :
    (countedOutcome max length bytes).Keeps bytes := by
  unfold countedOutcome skipOutcome bodyOutcome
  split
  · split
    · exact FrameOutcome.keeps_ended _
    · exact FrameOutcome.keeps_tooLong _ _
  · split
    · exact FrameOutcome.keeps_ended _
    · rename_i hthere
      have hbody : (bytes.take length).length = length :=
        List.length_take_of_le (Nat.not_lt.1 hthere)
      rintro size ⟨⟩
      exact ⟨by simp [hbody], (List.take_append_drop length bytes).symm⟩

/-- A frame that starts with digits keeps all but what stands in front of its text. -/
theorem countOutcome_keeps (max : Nat) {digits : List UInt8}
    (h : ∀ b ∈ digits, isDigit b = true) (hlength : digits.length ≤ maxCountDigits)
    (bytes : List UInt8) :
    ∃ text, digits ++ bytes = frameHead (digits ++ bytes) ++ text ∧
      (countOutcome max digits bytes).Keeps text := by
  -- on the bytes that are left; those that were taken so far are digits, and few enough of them
  induction bytes generalizing digits with
  | nil =>
    rw [List.append_nil, frameHead_of_digits h]
    have hkeeps := lineFromOutcome_keeps max digits []
    rw [List.append_nil] at hkeeps
    exact ⟨digits, rfl, hkeeps⟩
  | cons b bytes ih =>
    rw [countOutcome]
    split
    · -- one more digit of the length
      rename_i hdigit
      have hall : ∀ c ∈ digits ++ [b], isDigit c = true := by
        simpa [or_imp, forall_and] using ⟨h, hdigit.1⟩
      have hroom : (digits ++ [b]).length ≤ maxCountDigits := by
        rw [List.length_append]
        exact hdigit.2
      obtain ⟨text, htext, hkeeps⟩ := ih hall hroom
      rw [List.append_assoc, List.singleton_append] at htext
      exact ⟨text, htext, hkeeps⟩
    · rename_i hdigit
      split
      · -- the space behind the length
        rename_i hspace
        obtain ⟨rfl, hne⟩ := hspace
        rw [frameHead_length h hne hlength]
        exact ⟨bytes, by simp, countedOutcome_keeps max _ bytes⟩
      · -- no length after all
        rename_i hspace
        rw [frameHead_of_next h hdigit hspace]
        exact ⟨digits ++ b :: bytes, rfl, lineFromOutcome_keeps max digits (b :: bytes)⟩

/-- A frame keeps all but what stands in front of its text. -/
theorem frameOutcome_keeps (max : Nat) (bytes : List UInt8) :
    ∃ text, bytes = frameHead bytes ++ text ∧ (frameOutcome max bytes).Keeps text := by
  cases bytes with
  | nil => exact ⟨[], rfl, FrameOutcome.keeps_ended []⟩
  | cons b bytes =>
    -- no digits have been read yet
    have hnone : ∀ c ∈ ([] : List UInt8), isDigit c = true := nofun
    rw [frameOutcome]
    split
    · exact countOutcome_keeps max hnone (Nat.zero_le _) (b :: bytes)
    · rename_i hb
      have hhead : frameHead (b :: bytes) = [] :=
        frameHead_of_next hnone (fun hdigit => hb hdigit.1) (fun hspace => hspace.2 rfl) bytes
      rw [hhead]
      exact ⟨b :: bytes, rfl, lineFromOutcome_keeps max [] (b :: bytes)⟩

/-- A call that reads a complete frame takes what stands in front of its text, and the text, which
it is accounted with. -/
theorem flatten_of_message {max size : Nat} {ps : Pieces}
    (h : (readFrame max ps).frame = .message size) :
    size = (readFrame max ps).buffer.length ∧
      ps.flatten =
        frameHead ps.flatten ++ (readFrame max ps).buffer ++ (readFrame max ps).rest.flatten := by
  obtain ⟨text, htext, hkeeps⟩ := frameOutcome_keeps max ps.flatten
  -- the pieces do not matter to what a call gives
  rw [← outcome_readFrame] at hkeeps
  obtain ⟨hsize, rfl⟩ := hkeeps size h
  rw [List.append_assoc]
  exact ⟨hsize, htext⟩

/-! ## What the calls on a stream take -/

/-- A call that read a frame, with what stood in front of the text. -/
structure Taken where
  /-- The length and the space of a counted frame, else nothing. -/
  head : List UInt8
  /-- What the call gave. -/
  reading : Reading

/-- The calls on a stream that holds complete frames within the limit and nothing else. -/
inductive ReadsWhole (max : Nat) : Pieces → List Taken → Prop
  /-- Nothing is left. -/
  | done {ps : Pieces} (h : ps.flatten = []) : ReadsWhole max ps []
  /-- The call reads a complete frame and the next ones go on with what it left. -/
  | next {ps : Pieces} {size : Nat} {calls : List Taken}
      (h : (readFrame max ps).frame = .message size)
      (hrest : ReadsWhole max (readFrame max ps).rest calls) :
      ReadsWhole max ps (⟨frameHead ps.flatten, readFrame max ps⟩ :: calls)

/-- What some readings count for when they are read. -/
def readingEvents (mode : Syslog.Mode) (received : Instant) (rs : List Reading) : List Event :=
  (rs.filterMap (·.fate? mode received)).flatMap Prod.fst

/-- How many bytes an event counts as received. -/
def Event.bytes : Event → Nat
  | .received bytes => bytes
  | _ => 0

theorem Metrics.bytesReceived_countAll (m : Metrics) (events : List Event) :
    (m.countAll events).bytesReceived = m.bytesReceived + (events.map Event.bytes).sum := by
  induction events generalizing m with
  | nil => rfl
  | cons e events ih =>
    have hone : (m.count e).bytesReceived = m.bytesReceived + e.bytes := by cases e <;> rfl
    have hrest : (m.countAll (e :: events)).bytesReceived =
        ((m.count e).countAll events).bytesReceived := rfl
    rw [hrest, ih, hone, List.map_cons, List.sum_cons, Nat.add_assoc]

namespace ReadsWhole

variable {max : Nat} {ps : Pieces} {calls : List Taken}

/-- The calls are all calls up to the one that finds the end of the stream. -/
theorem readsToEnd (h : ReadsWhole max ps calls) :
    ∃ last, ReadsToEnd max ps (calls.map Taken.reading ++ [last]) := by
  induction h with
  | @done ps hnil =>
    have hend : (readFrame max ps).outcome = .ended := by
      rw [outcome_readFrame, hnil]
      rfl
    exact ⟨readFrame max ps, .last (congrArg FrameOutcome.frame hend)⟩
  | next hmessage _ ih =>
    obtain ⟨last, hlast⟩ := ih
    exact ⟨last, .next (by rw [hmessage]; nofun) hlast⟩

theorem readFrames_eq (h : ReadsWhole max ps calls) :
    readFrames max ps = calls.map Taken.reading := by
  obtain ⟨last, hlast⟩ := h.readsToEnd
  rw [hlast.readFrames_eq, List.dropLast_concat]

/-- The bytes of the stream are what stands in front of the texts, and the texts. -/
theorem flatten_eq (h : ReadsWhole max ps calls) :
    ps.flatten = calls.flatMap fun c => c.head ++ c.reading.buffer := by
  induction h with
  | done hnil => exact hnil
  | next hmessage _ ih =>
    rw [List.flatMap_cons, ← ih]
    exact (flatten_of_message hmessage).2

/-- What the calls count for as received is the bytes of the texts. -/
theorem received_eq (h : ReadsWhole max ps calls) (mode : Syslog.Mode) (received : Instant) :
    ((readingEvents mode received (calls.map Taken.reading)).map Event.bytes).sum =
      (calls.map fun c => c.reading.buffer.length).sum := by
  induction h with
  | done => rfl
  | @next ps size calls hmessage _ ih =>
    have hfate : (readFrame max ps).fate? mode received =
        some ([.received size], .ofBytes mode received (readFrame max ps).buffer) := by
      rw [Reading.fate?, hmessage]
    obtain ⟨hsize, -⟩ := flatten_of_message hmessage
    rw [List.map_cons, readingEvents, List.filterMap_cons_some hfate, List.flatMap_cons,
      List.map_append, List.sum_append, List.map_cons, List.sum_cons, ← readingEvents, ih, hsize]
    rfl

end ReadsWhole

/-- The numbers that frames carry account for the stream, but for what stands in front of counted
frames. In whatever pieces the bytes arrive, a call that reads a complete frame takes the length and
the space in front of a counted frame, and the bytes that it keeps, and carries the number of these;
so a line carries the number of all bytes that were taken, and a counted frame carries fewer. On a
stream that holds complete frames within the limit and nothing else, the bytes that are counted as
received and those that stand in front of counted frames make up the stream. -/
theorem sizes_account_for_stream (max : Nat) (ps : Pieces) :
    (∀ size, (readFrame max ps).frame = .message size →
      size = (readFrame max ps).buffer.length ∧
        ps.flatten = frameHead ps.flatten ++ (readFrame max ps).buffer ++
          (readFrame max ps).rest.flatten ∧
        (ps.flatten.length = size + (readFrame max ps).rest.flatten.length ↔
          frameHead ps.flatten = [])) ∧
    ∀ calls, ReadsWhole max ps calls →
      readFrames max ps = calls.map Taken.reading ∧
        ∀ (m : Metrics) (mode : Syslog.Mode) (received : Instant),
          (m.countAll (readingEvents mode received (readFrames max ps))).bytesReceived +
              (calls.map fun c => c.head.length).sum =
            m.bytesReceived + ps.flatten.length := by
  refine ⟨fun size hsize => ?_, fun calls hcalls => ⟨hcalls.readFrames_eq, ?_⟩⟩
  · obtain ⟨hlength, hflat⟩ := flatten_of_message hsize
    refine ⟨hlength, hflat, ?_⟩
    have htotal := congrArg List.length hflat
    rw [List.length_append, List.length_append, ← hlength] at htotal
    rw [← List.length_eq_zero_iff]
    omega
  · intro m mode received
    have htotal : ps.flatten.length = (calls.map fun c => c.head.length).sum +
        (calls.map fun c => c.reading.buffer.length).sum := by
      rw [hcalls.flatten_eq, List.length_flatMap, ← List.sum_map_add]
      simp only [List.length_append]
    rw [hcalls.readFrames_eq, Metrics.bytesReceived_countAll, hcalls.received_eq, htotal]
    omega

/-- A counted frame and a line after it, in two pieces. The five bytes of their texts are counted as
received, and the two in front of the first one make up the rest of the stream. -/
theorem sizes_account_for_stream_mixed :
    let ps : Pieces := [[51, 32, 97], [98, 99, 120, 10]]
    let first := readFrame 8 ps
    let second := readFrame 8 first.rest
    ReadsWhole 8 ps [⟨[51, 32], first⟩, ⟨[], second⟩] ∧ first.frame = .message 3 ∧
      ps.flatten.length ≠ 3 + first.rest.flatten.length ∧
      (({} : Metrics).countAll
        (readingEvents .automatic ⟨0, 0⟩ (readFrames 8 ps))).bytesReceived + 2 = 7 := by
  intro ps first second
  have hfirst : first.frame = .message 3 := by decide +kernel
  have hsecond : second.frame = .message 2 := by decide +kernel
  have hlast : ReadsWhole 8 first.rest [⟨frameHead first.rest.flatten, second⟩] :=
    .next hsecond (.done (by decide +kernel))
  have hline : frameHead first.rest.flatten = [] := by decide +kernel
  rw [hline] at hlast
  have hwhole : ReadsWhole 8 ps [⟨[51, 32], first⟩, ⟨[], second⟩] := .next hfirst hlast
  obtain ⟨hone, hall⟩ := sizes_account_for_stream 8 ps
  obtain ⟨-, hcounted⟩ := hall _ hwhole
  have hhead : frameHead ps.flatten ≠ [] := by decide +kernel
  exact ⟨hwhole, hfirst, mt (hone 3 hfirst).2.2.1 hhead, hcounted {} .automatic ⟨0, 0⟩⟩

/-- The number of a counted frame leaves out its length and the space behind it: of the five bytes
of `3 abc` that are taken, three are counted. -/
theorem counted_frame_carries_body_alone :
    let ps : Pieces := [[51, 32, 97, 98, 99]]
    (readFrame 8 ps).frame = .message 3 ∧ (readFrame 8 ps).rest.flatten = [] ∧
      ps.flatten.length = 5 ∧ ReadsWhole 8 ps [⟨[51, 32], readFrame 8 ps⟩] ∧
      (({} : Metrics).countAll
        (readingEvents .automatic ⟨0, 0⟩ (readFrames 8 ps))).bytesReceived = 3 := by
  intro ps
  have hmessage : (readFrame 8 ps).frame = .message 3 := by decide +kernel
  have hrest : (readFrame 8 ps).rest.flatten = [] := by decide +kernel
  have hwhole : ReadsWhole 8 ps [⟨[51, 32], readFrame 8 ps⟩] := .next hmessage (.done hrest)
  refine ⟨hmessage, hrest, rfl, hwhole, ?_⟩
  rw [Metrics.bytesReceived_countAll, hwhole.readFrames_eq, hwhole.received_eq]
  decide +kernel

end SyslogCollector.Listener
