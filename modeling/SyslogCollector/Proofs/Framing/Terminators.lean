import SyslogCollector.Proofs.Framing.Limit
import SyslogCollector.Proofs.Text.LossyReading
/-!
# Terminators behind a message

Senders close a message in many ways, and the framings leave some of what they write to the parser:
the carriage return before a line feed, a zero byte, the line end inside a counted frame or a
datagram. None of it changes what the message is read as, also where it cuts a character short
(`terminators_never_change_parse`). The bytes are read as text before anything is cut off, so this
rests on `Utf8.decodeLossy_append`.
-/

namespace SyslogCollector.Listener

open Lines (lineFeed)

/-- Bytes that may close a message without being part of it: carriage returns, line feeds and zero
bytes. -/
def Terminators (bytes : List UInt8) : Prop :=
  ∀ b ∈ bytes, b = carriageReturn ∨ b = lineFeed ∨ b = 0

/-! ## Reading what they close -/

/-- Terminators are ASCII, and the parser cuts them off. -/
theorem Terminators.cut_off {bytes : List UInt8} (h : Terminators bytes) :
    (∀ b ∈ bytes, Utf8.isAsciiByte b = true) ∧
      ∀ c ∈ bytes.map Utf8.ofAscii, Syslog.isTerminator c = true := by
  refine ⟨fun b hb => ?_, fun c hc => ?_⟩
  · rcases h b hb with rfl | rfl | rfl <;> rfl
  · obtain ⟨b, hb, rfl⟩ := List.mem_map.1 hc
    rcases h b hb with rfl | rfl | rfl <;> rfl

/-- A frame is read the same with terminators behind it. -/
theorem parse_append_terminators (frame : List UInt8) {bytes : List UInt8}
    (h : Terminators bytes) (mode : Syslog.Mode) (received : Instant) :
    Syslog.parse (frame ++ bytes) mode received = Syslog.parse frame mode received := by
  unfold Syslog.parse
  rw [Utf8.decodeLossy_append frame h.cut_off.1, Text.trimEnd_append h.cut_off.2]

/-! ## Line ends -/

/-- What is taken off a frame as its line end are terminators. -/
theorem exists_trimLineEnd_append (frame : List UInt8) :
    ∃ lineEnd, Terminators lineEnd ∧ frame = trimLineEnd frame ++ lineEnd := by
  unfold trimLineEnd
  split
  · rename_i rest hrest
    refine ⟨[carriageReturn, lineFeed], by simp [Terminators], ?_⟩
    rw [List.reverse_eq_iff.1 hrest]
    simp [carriageReturn, lineFeed]
  · rename_i rest _ hrest
    refine ⟨[lineFeed], by simp [Terminators], ?_⟩
    rw [List.reverse_eq_iff.1 hrest]
    simp [lineFeed]
  · exact ⟨[], by simp [Terminators], (List.append_nil frame).symm⟩

/-- A frame is read the same without its line end. -/
theorem parse_trimLineEnd (frame : List UInt8) (mode : Syslog.Mode) (received : Instant) :
    Syslog.parse (trimLineEnd frame) mode received = Syslog.parse frame mode received := by
  obtain ⟨lineEnd, hlineEnd, hframe⟩ := exists_trimLineEnd_append frame
  conv_rhs => rw [hframe]
  exact (parse_append_terminators _ hlineEnd mode received).symm

/-- A message that starts with its priority is handed to the parser with the same result whatever
terminators close it. -/
theorem ofBytes_append_terminators {m bytes : List UInt8} (hopened : m.head? = some openingBracket)
    (h : Terminators bytes) (mode : Syslog.Mode) (received : Instant) :
    Fate.ofBytes mode received (m ++ bytes) = .parsed mode received m := by
  -- the first byte is no terminator, so something is left
  have hne : trimLineEnd (m ++ bytes) ≠ [] := by
    intro hnil
    obtain ⟨lineEnd, hlineEnd, hframe⟩ := exists_trimLineEnd_append (m ++ bytes)
    rw [hnil, List.nil_append] at hframe
    obtain ⟨rest, rfl⟩ := List.head?_eq_some_iff.1 hopened
    have hmem : openingBracket ∈ lineEnd := by
      rw [← hframe]
      exact List.mem_cons_self
    exact absurd (hlineEnd _ hmem) (by decide)
  rw [Fate.ofBytes_eq_parsed hne rfl, Fate.parsed, parse_trimLineEnd,
    parse_append_terminators m h]
  rfl

/-! ## Whatever way it comes -/

/-- Trailing terminators never change what is read. For every frame of whatever bytes, every mode
and every time:

* with carriage returns, line feeds and zero bytes behind it, it is read as it is without them,
* and so it is without its line end.

Hence a message that starts with its priority comes to the same, with such bytes behind it or not,
as a line, as a counted frame and as a datagram, wherever it is within the limit. -/
theorem terminators_never_change_parse (frame : List UInt8) (mode : Syslog.Mode)
    (received : Instant) :
    (∀ bytes, Terminators bytes →
      Syslog.parse (frame ++ bytes) mode received = Syslog.parse frame mode received) ∧
    Syslog.parse (trimLineEnd frame) mode received = Syslog.parse frame mode received ∧
    (frame.head? = some openingBracket → ∀ bytes, Terminators bytes → ∀ max,
      (frame ++ bytes).length ≤ max →
        (lineFeed ∉ frame ++ bytes → ∀ (ps : Pieces) (rest : List UInt8),
          ps.flatten = frame ++ bytes ++ lineFeed :: rest →
            ps.Yields max mode received (.parsed mode received frame) rest) ∧
        (∀ (length : WrittenLength (frame ++ bytes).length) (ps : Pieces) (rest : List UInt8),
          ps.flatten = length.digits ++ space :: (frame ++ bytes) ++ rest →
            ps.Yields max mode received (.parsed mode received frame) rest) ∧
        (datagramFate max mode received (frame ++ bytes)).2 = .parsed mode received frame) := by
  refine ⟨fun bytes hbytes => parse_append_terminators frame hbytes mode received,
    parse_trimLineEnd frame mode received, fun hopened bytes hbytes max hfits => ⟨?_, ?_, ?_⟩⟩
  · intro hline ps rest hps
    have hdigit : ∀ b ∈ (frame ++ bytes).head?, isDigit b = false := by
      rw [List.head?_append, hopened]
      rintro b ⟨⟩
      rfl
    let w : WireFrame := .line (frame ++ bytes) hline hdigit
    have hyields := yields_ofBytes w (by simpa [w, WireFrame.bytes] using hps) max mode received
    have hend : Terminators (bytes ++ [lineFeed]) := by
      intro b hb
      rcases List.mem_append.1 hb with hb | hb
      · exact hbytes b hb
      · exact .inr (.inl (List.mem_singleton.1 hb))
    have htext : w.text = frame ++ (bytes ++ [lineFeed]) := List.append_assoc _ _ _
    rw [if_pos (show w.body.length ≤ max from hfits), htext,
      ofBytes_append_terminators hopened hend] at hyields
    exact hyields
  · intro length ps rest hps
    let w : WireFrame := .counted (frame ++ bytes) length
    have hyields := yields_ofBytes w hps max mode received
    have htext : w.text = frame ++ bytes := rfl
    rw [if_pos (show w.body.length ≤ max from hfits), htext,
      ofBytes_append_terminators hopened hbytes] at hyields
    exact hyields
  · rw [datagramFate_eq, if_pos hfits, ofBytes_append_terminators hopened hbytes]

/-- A message that ends within a character: the replacement of what is there of it is the same
whether the bytes stop there or a line end and a zero byte follow. -/
theorem terminators_never_change_parse_cut_character :
    let frame : List UInt8 := [60, 49, 52, 62, 120, 0xE2, 0x82]
    let bytes : List UInt8 := [13, 10, 0]
    let received : Instant := ⟨0, 0⟩
    Terminators bytes ∧ frame.head? = some openingBracket ∧
      Syslog.parse (frame ++ bytes) .automatic received =
        Syslog.parse frame .automatic received ∧
      (Syslog.parse frame .automatic received).map Message.body = .ok "x\uFFFD" ∧
      (datagramFate 10 .automatic received (frame ++ bytes)).2 =
        .parsed .automatic received frame := by
  intro frame bytes received
  have hbytes : Terminators bytes := by simp [bytes, Terminators, carriageReturn, lineFeed]
  obtain ⟨happend, -, htransports⟩ := terminators_never_change_parse frame .automatic received
  obtain ⟨-, -, hdatagram⟩ := htransports rfl bytes hbytes 10 (by decide)
  exact ⟨hbytes, rfl, happend bytes hbytes, by decide +kernel, hdatagram⟩

end SyslogCollector.Listener
