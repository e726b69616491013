import SyslogCollector.Listener.Step
import SyslogCollector.Proofs.Framing.Wire
/-!
# The limit on the size of a message

The same message can be put on the wire as a line, as a counted frame or as a datagram, and a sender
may close it with a line end that is no part of it. On a stream the line feed does not count against
the limit; a datagram is limited as a whole, so there a line end takes room from the message
(`message_limited`). A message that is within the limit reaches the parser without its line end,
whatever way it came.
-/

namespace SyslogCollector.Listener

open Lines (lineFeed)

/-- The byte that some senders put in front of a line feed. -/
def carriageReturn : UInt8 := 13

/-- The byte that opens the priority of a message. -/
def openingBracket : UInt8 := 60

/-! ## A message and its line end -/

/-- The bytes of a message on one line, without a line end. -/
structure MessageBytes (m : List UInt8) : Prop where
  /-- They start with the priority. -/
  opened : m.head? = some openingBracket
  /-- They are on one line. -/
  one_line : lineFeed ∉ m
  /-- They do not end with a carriage return. -/
  no_return : m.getLast? ≠ some carriageReturn

/-- What becomes of a message that is handed to the parser as it is. -/
def Fate.parsed (mode : Syslog.Mode) (received : Instant) (m : List UInt8) : Fate :=
  match Syslog.parse m mode received with
  | .ok parsed => .message parsed
  | .error complaint => .malformed complaint

/-- What becomes of a message of which so many bytes count: within the limit it is handed to the
parser as it is, above it is dropped as too long. -/
def Fate.limited (max counted : Nat) (mode : Syslog.Mode) (received : Instant)
    (m : List UInt8) : Fate :=
  if counted ≤ max then .parsed mode received m else .oversized

/-! ### Taking the line end off -/

/-- A line feed is taken off a line that has no carriage return in front of it. -/
theorem trimLineEnd_concat_lineFeed {m : List UInt8} (h : m.getLast? ≠ some carriageReturn) :
    trimLineEnd (m ++ [lineFeed]) = m := by
  have hreverse : (m ++ [lineFeed]).reverse = lineFeed :: m.reverse := by simp
  unfold trimLineEnd
  rw [hreverse]
  split
  · -- the byte in front of the line feed would be a carriage return
    rename_i front hfront
    have hlast : m.getLast? = some carriageReturn := by
      rw [← List.head?_reverse, (List.cons.inj hfront).2]
      rfl
    exact absurd hlast h
  · rename_i front _ hfront
    rw [← (List.cons.inj hfront).2, List.reverse_reverse]
  · rename_i hnone
    exact absurd rfl (hnone m.reverse)

/-- A carriage return goes with the line feed. -/
theorem trimLineEnd_append_return (m : List UInt8) :
    trimLineEnd (m ++ [carriageReturn, lineFeed]) = m := by
  have hreverse : (m ++ [carriageReturn, lineFeed]).reverse =
      lineFeed :: carriageReturn :: m.reverse := by simp
  unfold trimLineEnd
  rw [hreverse]
  exact List.reverse_reverse m

/-- Bytes on one line have no line end to take off. -/
theorem trimLineEnd_of_not_mem {m : List UInt8} (h : lineFeed ∉ m) : trimLineEnd m = m := by
  have hlast {front : List UInt8} (hfront : m.reverse = 10 :: front) : False := by
    refine h (List.mem_reverse.1 ?_)
    rw [hfront]
    exact List.mem_cons_self
  unfold trimLineEnd
  split
  · rename_i hfront
    exact (hlast hfront).elim
  · rename_i hfront
    exact (hlast hfront).elim
  · rfl

/-- Bytes that are a message without their line end are handed to the parser as that message. -/
theorem Fate.ofBytes_eq_parsed {m bytes : List UInt8} (hne : m ≠ [])
    (htrim : trimLineEnd bytes = m) (mode : Syslog.Mode) (received : Instant) :
    Fate.ofBytes mode received bytes = .parsed mode received m := by
  unfold ofBytes parsed
  rw [htrim]
  exact if_neg (by simpa using hne)

namespace MessageBytes

variable {m : List UInt8}

theorem ne_nil (h : MessageBytes m) : m ≠ [] := by
  rintro rfl
  exact absurd h.opened (by decide)

/-- The first byte of a message is no digit, so a line that starts with it is not taken for a
counted frame. -/
theorem no_length (h : MessageBytes m) (rest : List UInt8) :
    ∀ b ∈ (m ++ rest).head?, isDigit b = false := by
  intro b hb
  have hopen : (m ++ rest).head? = some openingBracket := by
    rw [List.head?_append, h.opened]
    rfl
  rw [hopen] at hb
  cases hb
  decide

end MessageBytes

/-! ## On a stream -/

/-- What becomes of the next frame of a stream, and the bytes that it leaves. -/
structure Pieces.Yields (ps : Pieces) (max : Nat) (mode : Syslog.Mode) (received : Instant)
    (fate : Fate) (rest : List UInt8) : Prop where
  /-- The frame comes to this fate. -/
  fate : ((readFrame max ps).fate? mode received).map Prod.snd = some fate
  /-- What follows it is left. -/
  rest : (readFrame max ps).rest.flatten = rest

/-- A written frame is handed on with its text, if its body is within the limit. -/
theorem yields_ofBytes (w : WireFrame) {rest : List UInt8} {ps : Pieces}
    (h : ps.flatten = w.bytes ++ rest) (max : Nat) (mode : Syslog.Mode) (received : Instant) :
    ps.Yields max mode received
      (if w.body.length ≤ max then .ofBytes mode received w.text else .oversized) rest := by
  have houtcome : (readFrame max ps).outcome = w.outcome max rest := by
    rw [outcome_readFrame, h, frameOutcome_bytes]
  have hframe : (readFrame max ps).frame = (w.outcome max rest).frame :=
    congrArg FrameOutcome.frame houtcome
  have hbuffer : (readFrame max ps).buffer = (w.outcome max rest).buffer :=
    congrArg FrameOutcome.buffer houtcome
  refine ⟨?_, (congrArg FrameOutcome.rest houtcome).trans (w.rest_outcome max rest)⟩
  unfold Reading.fate?
  rw [hframe, hbuffer, WireFrame.outcome]
  by_cases hfits : w.body.length ≤ max
  · simp only [if_pos hfits, Option.map_some]
  · simp only [if_neg hfits, Option.map_some]

/-- A written frame whose text is a message without its line end is handed to the parser as that
message, if its body is within the limit. -/
theorem yields_of_written (w : WireFrame) {m rest : List UInt8} (hne : m ≠ [])
    (htrim : trimLineEnd w.text = m) {ps : Pieces} (h : ps.flatten = w.bytes ++ rest) (max : Nat)
    (mode : Syslog.Mode) (received : Instant) :
    ps.Yields max mode received (.limited max w.body.length mode received m) rest := by
  have hyields := yields_ofBytes w h max mode received
  rw [Fate.ofBytes_eq_parsed hne htrim] at hyields
  exact hyields

/-! ## In a datagram -/

/-- A datagram is dropped if it is above the limit with all its bytes, and else handed on whole. -/
theorem datagramFate_eq (max : Nat) (mode : Syslog.Mode) (received : Instant)
    (bytes : List UInt8) : (datagramFate max mode received bytes).2 =
      if bytes.length ≤ max then .ofBytes mode received bytes else .oversized := by
  unfold datagramFate
  dsimp only
  by_cases hfits : bytes.length ≤ max
  · -- the byte that shows too long a datagram is not there
    have htaken : bytes.take (max + 1) = bytes := List.take_of_length_le (by omega)
    rw [htaken, if_pos hfits, if_neg (Nat.not_lt.2 hfits)]
  · have htaken : (bytes.take (max + 1)).length = max + 1 := by
      rw [List.length_take]
      omega
    rw [htaken, if_neg hfits, if_pos (Nat.lt_succ_self max)]

/-- A datagram that is a message without its line end is limited with the line end. -/
theorem datagramFate_eq_limited {m bytes : List UInt8} (hne : m ≠ [])
    (htrim : trimLineEnd bytes = m) (max : Nat) (mode : Syslog.Mode) (received : Instant) :
    (datagramFate max mode received bytes).2 =
      .limited max bytes.length mode received m := by
  rw [datagramFate_eq, Fate.limited, Fate.ofBytes_eq_parsed hne htrim]

/-! ## Whatever way it comes -/

/-- The limit on a message, by the way it comes. For every limit and every message that starts with
its priority, is on one line and does not end with a carriage return:

* as a line that ends with a line feed, as a counted frame, and as a datagram of its own, it is
  handed to the parser as it is if it is within the limit, and else dropped as too long;
* the same holds of a line that ends with a carriage return and a line feed, unless the message has
  exactly as many bytes as the limit allows;
* in a datagram its line end counts as well;
* what is dropped is counted as too long, and nothing is handed to the sink.

What follows it on a stream is left to the next frame. -/
theorem message_limited (max : Nat) (mode : Syslog.Mode) (received : Instant) {m : List UInt8}
    (h : MessageBytes m) :
    (∀ (ps : Pieces) (rest : List UInt8), ps.flatten = m ++ lineFeed :: rest →
      ps.Yields max mode received (.limited max m.length mode received m) rest) ∧
    (∀ (length : WrittenLength m.length) (ps : Pieces) (rest : List UInt8),
      ps.flatten = length.digits ++ space :: m ++ rest →
        ps.Yields max mode received (.limited max m.length mode received m) rest) ∧
    (datagramFate max mode received m).2 = .limited max m.length mode received m ∧
    (∀ (ps : Pieces) (rest : List UInt8), m.length ≠ max →
      ps.flatten = m ++ carriageReturn :: lineFeed :: rest →
        ps.Yields max mode received (.limited max m.length mode received m) rest) ∧
    (datagramFate max mode received (m ++ [lineFeed])).2 =
      .limited max (m.length + 1) mode received m ∧
    (datagramFate max mode received (m ++ [carriageReturn, lineFeed])).2 =
      .limited max (m.length + 2) mode received m ∧
    ∀ (s : State) (source : Source) (events : List Event),
      (s.deal source events .oversized).metrics = s.metrics.countAll (events ++ [.oversized]) ∧
        (s.deal source events .oversized).handed = s.handed := by
  have htrim : trimLineEnd (m ++ [lineFeed]) = m := trimLineEnd_concat_lineFeed h.no_return
  refine ⟨?_, ?_, ?_, ?_, ?_, ?_, fun s source events => ⟨rfl, rfl⟩⟩
  · intro ps rest hps
    let w : WireFrame := .line m h.one_line (by simpa using h.no_length [])
    exact yields_of_written w h.ne_nil htrim (by simpa [w, WireFrame.bytes] using hps) max mode
      received
  · intro length ps rest hps
    let w : WireFrame := .counted m length
    exact yields_of_written w h.ne_nil (trimLineEnd_of_not_mem h.one_line) hps max mode received
  · exact datagramFate_eq_limited h.ne_nil (trimLineEnd_of_not_mem h.one_line) max mode received
  · intro ps rest hlength hps
    -- on a line the carriage return is one more byte of the body
    have hline : lineFeed ∉ m ++ [carriageReturn] := by
      simpa [carriageReturn, lineFeed] using h.one_line
    let w : WireFrame := .line (m ++ [carriageReturn]) hline (h.no_length _)
    have hbytes : ps.flatten = w.bytes ++ rest := by simpa [w, WireFrame.bytes] using hps
    have hyields := yields_of_written w h.ne_nil
      (by simpa [w, WireFrame.text] using trimLineEnd_append_return m) hbytes max mode received
    have hsame : Fate.limited max w.body.length mode received m =
        .limited max m.length mode received m := by
      have hbody : w.body.length = m.length + 1 := by simp [w, WireFrame.body]
      have hiff : m.length + 1 ≤ max ↔ m.length ≤ max := by omega
      simp only [Fate.limited, hbody, hiff]
    exact hsame ▸ hyields
  · simpa using datagramFate_eq_limited h.ne_nil htrim max mode received
  · simpa using datagramFate_eq_limited h.ne_nil (trimLineEnd_append_return m) max mode received

/-- A message of five bytes where five are allowed: the line feed does not count on a stream, but in
a datagram. -/
theorem message_limited_at_limit :
    let m : List UInt8 := [60, 49, 52, 62, 120]
    let received : Instant := ⟨0, 0⟩
    MessageBytes m ∧
      Pieces.Yields [[60, 49], [52, 62, 120, 10], [60]] 5 .automatic received
        (.parsed .automatic received m) [60] ∧
      (datagramFate 5 .automatic received (m ++ [lineFeed])).2 = .oversized := by
  intro m received
  have hm : MessageBytes m := ⟨rfl, by decide, by decide⟩
  obtain ⟨hline, -, -, -, hdatagram, -⟩ := message_limited 5 .automatic received hm
  exact ⟨hm, hline [[60, 49], [52, 62, 120, 10], [60]] [60] rfl, hdatagram⟩

/-- What is handed to the parser is not dropped as too long. -/
theorem Fate.parsed_ne_oversized (mode : Syslog.Mode) (received : Instant) (m : List UInt8) :
    Fate.parsed mode received m ≠ .oversized := by
  unfold parsed
  split <;> nofun

/-- The line end of a datagram counts, so the limit is not on the message alone. -/
theorem limit_not_on_message_alone :
    ¬ ∀ (max : Nat) (mode : Syslog.Mode) (received : Instant) (m : List UInt8), MessageBytes m →
      (datagramFate max mode received (m ++ [lineFeed])).2 =
        .limited max m.length mode received m := by
  intro h
  have hm : MessageBytes [60, 49, 52, 62, 120] := ⟨rfl, by decide, by decide⟩
  have hdropped := h 5 .automatic ⟨0, 0⟩ _ hm
  rw [datagramFate_eq] at hdropped
  exact Fate.parsed_ne_oversized _ _ _ hdropped.symm

end SyslogCollector.Listener
