import SyslogCollector.Proofs.Syslog.BsdForm
import SyslogCollector.Proofs.Syslog.Detection
/-!
# Where the characters of a message come from

The parsers take a message apart and make nothing up: its hostname, its application name and its
body stand in the text in this order, and no character of the text goes into two of them. So a
message holds a character at most as often as the frame does (`fields_sublist_of_parse`). What keeps
a character out of a message is the dialect's grammar alone: words may hold anything but a space,
and only the tag of a BSD message is picky.
-/

namespace SyslogCollector.Syslog

open Text

/-- The names and the body of a message, one after the other. -/
def fields (m : Message) : List Char :=
  m.hostname.toList ++ (m.appName.toList ++ m.body.toList)

/-! ## The IETF dialect -/

/-- Part of a word and part of what follows it are part of both together. -/
theorem HeaderWord.append_sublist_before {w : HeaderWord} {front s rest : List Char}
    (hfront : front.Sublist w.chars) (h : s.Sublist rest) :
    (front ++ s).Sublist (w.before rest) :=
  hfront.append (h.cons ' ')

/-- The field of a word holds the word or nothing. -/
theorem Rfc5424.field_sublist (w : HeaderWord) :
    (if w.chars = ['-'] then "" else String.ofList w.chars).toList.Sublist w.chars := by
  split
  · exact List.nil_sublist _
  · simp only [String.toList_ofList, List.Sublist.refl]

/-- The body without its mark stands at the end. -/
theorem Rfc5424.withoutMark_sublist (r : Ending) :
    (withoutMark (r.body.getD [])).Sublist r.text := by
  have hmark (body : List Char) : (withoutMark body).Sublist body := by
    cases body with
    | nil => exact List.Sublist.refl _
    | cons c body =>
      rw [withoutMark]
      split
      · exact List.sublist_cons_self c body
      · exact List.Sublist.refl _
  refine (hmark _).trans ?_
  unfold Ending.text
  cases r.body with
  | none => exact List.nil_sublist _
  | some body => exact (List.sublist_cons_self ' ' body).trans (List.sublist_append_right _ _)

theorem Rfc5424.fields_sublist {text : List Char} {received : Instant} {m : Message}
    (h : parse text received = .ok m) : (fields m).Sublist text := by
  obtain ⟨p, rfl, hm⟩ := exists_parts_of_parse h
  rw [fields, hm.hostname, hm.appName, hm.body, String.toList_ofList]
  -- from the end to the front; the words that no field is read from are left out
  have hending := withoutMark_sublist p.ending
  have hid := p.id.append_sublist_before (List.nil_sublist _) hending
  have hprocess := p.process.append_sublist_before (List.nil_sublist _) hid
  have happ := p.app.append_sublist_before (field_sublist p.app) hprocess
  have hhost := p.host.append_sublist_before (field_sublist p.host) happ
  have hstamp := p.stamp.append_sublist_before (List.nil_sublist _) hhost
  exact ((((hstamp.cons ' ').cons '1').cons '>').trans (List.sublist_append_right _ _)).cons '<'

/-! ## The BSD dialect -/

theorem Rfc3164.Origin.sublist {text host rest : List Char} (h : Origin text host rest) :
    (host ++ rest).Sublist text := by
  cases h with
  | unstamped => exact List.Sublist.refl _
  | stamped stamp spaces host _ htext =>
    have hhost := host.append_sublist_before (List.Sublist.refl _) (List.Sublist.refl rest)
    rw [htext]
    exact (hhost.trans (List.sublist_append_right _ _)).trans (List.sublist_append_right _ _)
  | last stamp spaces host htext =>
    rw [htext, List.append_nil]
    exact (List.sublist_append_right _ _).trans (List.sublist_append_right _ _)

theorem Rfc3164.Tagging.sublist {text tag body : List Char} (h : Tagging text tag body) :
    (tag ++ body).Sublist text := by
  cases h with
  | untagged => exact List.Sublist.refl _
  | tagged tag s _ htext =>
    rw [htext]
    exact (List.Sublist.refl _).append (List.sublist_append_right _ _)

/-- A tag holds only characters of tags. -/
theorem Rfc3164.Tagging.isTagChar {text tag body : List Char} (h : Tagging text tag body) :
    ∀ c ∈ tag, isTagChar c = true := by
  cases h with
  | untagged => nofun
  | tagged tag => exact tag.all_tagChars

theorem Rfc3164.fields_sublist {text : List Char} {received : Instant} {m : Message}
    (h : parse text received = .ok m) : (fields m).Sublist text := by
  obtain ⟨priority, rest, host, remainder, tag, body, rfl, horigin, htagging, hm⟩ :=
    parse_eq_ok_iff.1 h
  rw [fields, hm.hostname, hm.appName, hm.body, String.toList_ofList, String.toList_ofList,
    String.toList_ofList]
  have hrest : (host ++ (tag ++ body)).Sublist rest :=
    ((List.Sublist.refl host).append htagging.sublist).trans horigin.sublist
  exact ((hrest.cons '>').trans (List.sublist_append_right _ _)).cons '<'

/-- The application is named by the characters of a tag. -/
theorem Rfc3164.isTagChar_appName {text : List Char} {received : Instant} {m : Message}
    (h : parse text received = .ok m) : ∀ c ∈ m.appName.toList, isTagChar c = true := by
  obtain ⟨_, _, _, _, _, _, -, -, htagging, hm⟩ := parse_eq_ok_iff.1 h
  rw [hm.appName, String.toList_ofList]
  exact htagging.isTagChar

/-! ## Frames -/

/-- The names and the body of a message are taken from the frame, in this order. -/
theorem fields_sublist_of_parse {frame : List UInt8} {mode : Mode} {received : Instant}
    {m : Message} (h : parse frame mode received = .ok m) :
    (fields m).Sublist (Utf8.decodeLossy frame) := by
  have htext : (trimEnd isTerminator (Utf8.decodeLossy frame)).Sublist (Utf8.decodeLossy frame) :=
    trimEnd_sublist _ _
  rcases bsd_or_ietf_of_parse h with hbsd | hietf
  · exact (Rfc3164.fields_sublist hbsd).trans htext
  · exact (Rfc5424.fields_sublist hietf).trans htext

/-- The application of a BSD message is named by a tag, or not at all. -/
theorem isTagChar_of_parse {frame : List UInt8} {mode : Mode} {received : Instant} {m : Message}
    (h : parse frame mode received = .ok m) (hdialect : m.dialect = .rfc3164) :
    ∀ c ∈ m.appName.toList, Rfc3164.isTagChar c = true := by
  rcases bsd_or_ietf_of_parse h with hbsd | hietf
  · exact Rfc3164.isTagChar_appName hbsd
  · exact absurd (hdialect.symm.trans (dialect_of_parse hietf)) nofun

end SyslogCollector.Syslog
