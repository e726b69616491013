import SyslogCollector.Proofs.Framing.Terminators
import SyslogCollector.Proofs.Syslog.Provenance
import SyslogCollector.Tail.Basic
/-!
# Messages shown line by line

The console and the live tail show a message on one line and end it with a line feed. Nothing that
they put around the fields of a message breaks the line: stamps, severities, brackets and the
sequences that switch colours hold no line feed. The fields themselves are shown as they are, so the
line of a message holds the line feeds of its hostname, its application name and its body
(`lineFeeds_render`).

Those stand in the frame (`Syslog.fields_sublist_of_parse`), in front of its terminators. A sender
who is heard up to the next line feed cannot break a line that way. Inside a counted frame and a
datagram there may be line feeds, and they are shown (`message_shown_as_two_lines`).
-/

namespace SyslogCollector.Console

open Listener (Terminators)
open Lines (lineFeed)
open Syslog (fields)

/-! ## Line feeds in a line -/

/-- How many line feeds a text holds. -/
def lineFeeds (text : String) : Nat :=
  text.toList.count '\n'

theorem lineFeeds_append (s t : String) : lineFeeds (s ++ t) = lineFeeds s + lineFeeds t := by
  rw [lineFeeds, String.toList_append, List.count_append]
  rfl

theorem lineFeeds_ofList (s : List Char) : lineFeeds (String.ofList s) = s.count '\n' := by
  rw [lineFeeds, String.toList_ofList]

theorem lineFeeds_toString (n : Nat) : lineFeeds (toString n) = 0 := by
  change lineFeeds n.repr = 0
  rw [Nat.repr_eq_ofList_toDigits, lineFeeds_ofList, List.count_eq_zero]
  intro h
  exact absurd (Nat.isDigit_of_mem_toDigits (by decide) (by decide) h) (by decide)

theorem lineFeeds_padded (width n : Nat) : lineFeeds (Decimal.padded width n) = 0 := by
  rw [Decimal.padded, lineFeeds_append, lineFeeds_ofList, lineFeeds_toString, List.count_replicate]
  rfl

theorem lineFeeds_shownTime (m : Message) : lineFeeds (shownTime m) = 0 := by
  have hyear (year : Int) : lineFeeds (Rfc3339.renderYear year) = 0 := by
    unfold Rfc3339.renderYear
    split
    · exact lineFeeds_padded ..
    · rw [lineFeeds_append, lineFeeds_padded]
      split <;> rfl
  have hfraction (n : Nat) : lineFeeds (Rfc3339.renderFraction .millis n) = 0 := by
    rw [Rfc3339.renderFraction, lineFeeds_append, lineFeeds_padded]
    rfl
  simp only [shownTime, Rfc3339.render, lineFeeds_append, lineFeeds_padded, hyear, hfraction]
  rfl

theorem lineFeeds_severity (s : Severity) : lineFeeds s.name = 0 := by
  cases s <;> rfl

/-- The hyphen for an empty name brings no line feed. -/
theorem lineFeeds_orDash (text : String) : lineFeeds (orDash text) = lineFeeds text := by
  unfold orDash
  split
  · rename_i hempty
    rw [String.isEmpty_iff.1 hempty]
    rfl
  · rfl

/-- Switching a style on and off brings no line feed. -/
theorem lineFeeds_apply (style : Style) (text : String) :
    lineFeeds (style.apply text) = lineFeeds text := by
  have hswitch (code : Nat) : lineFeeds ("\x1b[" ++ toString code ++ "m") = 0 := by
    simp only [lineFeeds_append, lineFeeds_toString]
    rfl
  unfold Style.apply
  split
  · rfl
  · rw [lineFeeds_append, lineFeeds_append, hswitch]
    exact Nat.zero_add _

theorem count_fields (m : Message) :
    (fields m).count '\n' = lineFeeds m.hostname + lineFeeds m.appName + lineFeeds m.body := by
  rw [fields, List.count_append, List.count_append, Nat.add_assoc]
  rfl

theorem lineFeeds_line (m : Message) : lineFeeds (line m) = (fields m).count '\n' := by
  have hmarks : lineFeeds " " = 0 ∧ lineFeeds "[" = 0 ∧ lineFeeds "]: " = 0 := ⟨rfl, rfl, rfl⟩
  simp only [line, lineFeeds_append, lineFeeds_shownTime, lineFeeds_orDash, lineFeeds_severity,
    hmarks, count_fields]
  omega

theorem lineFeeds_colouredLine (m : Message) :
    lineFeeds (colouredLine m) = (fields m).count '\n' := by
  have hmarks : lineFeeds " " = 0 ∧ lineFeeds "[" = 0 ∧ lineFeeds "]" = 0 ∧ lineFeeds ": " = 0 :=
    ⟨rfl, rfl, rfl, rfl⟩
  simp only [colouredLine, lineFeeds_append, lineFeeds_apply, lineFeeds_shownTime,
    lineFeeds_orDash, lineFeeds_severity, hmarks, count_fields]
  omega

/-- The line of a message holds the line feeds of its fields, with colours and without. -/
theorem lineFeeds_render (s : State) (m : Message) :
    lineFeeds (s.render m) = (fields m).count '\n' := by
  unfold State.render
  split
  · exact lineFeeds_colouredLine m
  · exact lineFeeds_line m

/-! ## Line feeds in a message -/

/-- The line feeds of a message stand in its frame, in front of the terminators. -/
theorem count_fields_le {content ending : List UInt8} (hending : Terminators ending)
    {mode : Syslog.Mode} {received : Instant} {m : Message}
    (h : Syslog.parse (content ++ ending) mode received = .ok m) :
    (fields m).count '\n' ≤ content.count lineFeed := by
  rw [Listener.parse_append_terminators content hending] at h
  rw [← Utf8.count_decodeLossy content (b := lineFeed) rfl]
  exact (Syslog.fields_sublist_of_parse h).count_le '\n'

/-! ## What a console shows -/

/-- Writes messages one after the other. -/
def State.writeAll (s : State) (messages : List Message) : State :=
  messages.foldl (fun s m => (s.write m).2) s

/-- An output that takes all lines holds them in order, each with a line feed behind it. -/
theorem output_writeAll {s : State} (h : s.fault = none) (messages : List Message) :
    (s.writeAll messages).output.toList =
      s.output.toList ++ messages.flatMap fun m => (s.render m).toList ++ ['\n'] := by
  induction messages generalizing s with
  | nil => simp [State.writeAll]
  | cons m messages ih =>
    have hwrite : (s.write m).2.output = s.output ++ s.render m ++ "\n" := by
      simp only [State.write, h]
    have hrest := ih (s := (s.write m).2) (by simp only [State.write, h])
    have hrender : (s.write m).2.render = s.render := by
      simp only [State.write, h]
      rfl
    rw [State.writeAll, List.foldl_cons]
    rw [State.writeAll] at hrest
    rw [hrest, hrender, hwrite, List.flatMap_cons]
    simp [String.toList_append]

/-- A message with the frame that it was read from, which has terminators behind its content. -/
structure Sent where
  /-- The frame without its terminators. -/
  content : List UInt8
  /-- The terminators. There may be none. -/
  ending : List UInt8
  /-- They are terminators. -/
  terminators : Terminators ending
  /-- The mode that the frame was read in. -/
  mode : Syslog.Mode
  /-- When it was received. -/
  received : Instant
  /-- The message. -/
  message : Message
  /-- The parser returns the message for the frame. -/
  parsed : Syslog.parse (content ++ ending) mode received = .ok message

/-- What a working console has shown of messages that were sent is their lines in order, each with a
line feed behind it. The line of a message, with colours or without and on the console as in the
live tail, holds the line feeds of its hostname, its application name and its body and no others.
These stand in the frame in front of its terminators, so a message whose frame holds none there is
shown on one line. A BSD message has none in its application name. -/
theorem messages_shown_line_by_line (colour : Bool) (sent : List Sent) :
    let console : State := { colour }
    (console.writeAll (sent.map (·.message))).output.toList =
        (sent.flatMap fun m => (console.render m.message).toList ++ ['\n']) ∧
      ∀ m ∈ sent,
        lineFeeds (console.render m.message) = (fields m.message).count '\n' ∧
        lineFeeds (Tail.line m.message) = (fields m.message).count '\n' + 1 ∧
        (fields m.message).count '\n' ≤ m.content.count lineFeed ∧
        (lineFeed ∉ m.content → '\n' ∉ (console.render m.message).toList ∧
          '\n' ∉ (line m.message).toList) ∧
        (m.message.dialect = .rfc3164 → '\n' ∉ m.message.appName.toList) := by
  refine ⟨?_, fun m _ => ?_⟩
  · rw [output_writeAll rfl, List.flatMap_map]
    rfl
  have hfields := count_fields_le m.terminators m.parsed
  refine ⟨lineFeeds_render _ _, ?_, hfields, fun hcontent => ?_, fun hdialect h => ?_⟩
  · rw [Tail.line, lineFeeds_append, lineFeeds_line]
    rfl
  · have hnone : (fields m.message).count '\n' = 0 := by
      rw [List.count_eq_zero.2 hcontent] at hfields
      exact Nat.le_zero.1 hfields
    exact ⟨List.count_eq_zero.1 ((lineFeeds_render _ _).trans hnone),
      List.count_eq_zero.1 ((lineFeeds_line _).trans hnone)⟩
  · exact absurd (Syslog.isTagChar_of_parse m.parsed hdialect _ h) (by decide)

/-- A message closed by a line end is shown on one line. A BSD message in a frame with a line feed
inside has it in its line, and the output still starts with the line of the first. -/
theorem messages_shown_line_by_line_interior_line_feed :
    ∃ closed broken : Sent,
      closed.content = "<14>1 - h app - - - x".toUTF8.toList ∧ closed.ending = [0x0D, 0x0A] ∧
      broken.content = "<14>app: x\ny".toUTF8.toList ∧ broken.ending = [] ∧
      '\n' ∉ (State.render {} closed.message).toList ∧
      lineFeeds (State.render {} broken.message) = 1 ∧
      (State.writeAll {} [closed.message, broken.message]).output.toList =
        (State.render {} closed.message).toList ++ '\n' ::
          ((State.render {} broken.message).toList ++ ['\n']) := by
  let closed : Sent := ⟨"<14>1 - h app - - - x".toUTF8.toList, [0x0D, 0x0A],
    by simp [Terminators, Listener.carriageReturn, lineFeed], .automatic, ⟨0, 0⟩,
    ⟨⟨0, 0⟩, "h", .info, .user, "app", "x", .rfc5424⟩, by decide +kernel⟩
  let broken : Sent := ⟨"<14>app: x\ny".toUTF8.toList, [], by simp [Terminators], .automatic,
    ⟨0, 0⟩, ⟨⟨0, 0⟩, "", .info, .user, "app", "x\ny", .rfc3164⟩, by decide +kernel⟩
  obtain ⟨houtput, hlines⟩ := messages_shown_line_by_line true [closed, broken]
  obtain ⟨-, -, -, hclosed, -⟩ := hlines closed (by simp)
  obtain ⟨hbroken, -⟩ := hlines broken (by simp)
  refine ⟨closed, broken, rfl, rfl, rfl, rfl, (hclosed (by decide +kernel)).1,
    hbroken.trans (by decide +kernel), ?_⟩
  simpa using houtput

/-- A sender who puts a line feed and a line of its own making into a counted frame gets two lines
shown, the same as two messages would. -/
theorem message_shown_as_two_lines :
    let received : Instant := ⟨1717243200, 0⟩
    let forged : Message := ⟨received, "h", .info, .user, "app",
      "x\n2024-06-01T12:00:00.000Z h sshd[info]: y", .rfc5424⟩
    Syslog.parse
        "<14>1 - h app - - - x\n2024-06-01T12:00:00.000Z h sshd[info]: y".toUTF8.toList .automatic
        received = .ok forged ∧
      (({ colour := false } : State).writeAll [forged]).output =
        (({ colour := false } : State).writeAll
          [{ forged with body := "x" }, { forged with appName := "sshd", body := "y" }]).output ∧
      ∀ colour, 1 < lineFeeds (({ colour } : State).writeAll [forged]).output := by
  refine ⟨?_, ?_, ?_⟩
  · decide +kernel
  · decide +kernel
  · decide +kernel

end SyslogCollector.Console
