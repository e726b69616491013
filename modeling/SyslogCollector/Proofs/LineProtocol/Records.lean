import Mathlib
import SyslogCollector.Proofs.LineProtocol.Escaping
import SyslogCollector.Syslog.Mode
import SyslogCollector.Text.Blank
/-!
# Records of line protocol are kept apart

A record is what stands before the quoted text, the text in its quotes, and the time. As long as
no measurement ends with a backslash, a sequence of records says what its points say and nothing
else (`encode_eq_encode_iff`), whatever the hosts and the texts are. Outside the quotes a record
holds the line feeds of its names and the one at its end (`count_lineFeed_outside`).

A measurement that ends with a backslash takes the comma behind it for a part of the name, and a
name may hold a line feed: both reach the store through frames that the parser accepts
(`names_break_records`).
-/

namespace SyslogCollector.LineProtocol

open Text

/-- What the record of a point says. -/
structure Contents where
  /-- The application. -/
  measurement : String
  /-- The host; empty if there is no such tag. -/
  hostname : String
  /-- How severe it is. -/
  severity : Severity
  /-- Which part of the system it comes from. -/
  facility : Facility
  /-- The text. -/
  body : String
  /-- The time in nanoseconds. -/
  nanos : Int
  deriving DecidableEq, Repr

/-- What the record of a point has to say. -/
def contents (p : Point) : Contents :=
  ⟨p.measurement, p.hostname, p.severity, p.facility, p.body, p.nanos⟩

/-! ## The parts of a record -/

/-- What stands before the quoted text. -/
def head (p : Point) : List Char :=
  escape measurementSpecials p.measurement.toList ++ (tags p).flatMap encodeTag ++
    " message=".toList

/-- The text in its quotes. -/
def quotedBody (p : Point) : List Char :=
  '"' :: escape fieldSpecials p.body.toList ++ ['"']

/-- What stands behind the quoted text. -/
def tail (p : Point) : List Char :=
  ' ' :: (toString p.nanos).toList ++ ['\n']

theorem encodePoint_append (p : Point) :
    encodePoint p ++ ['\n'] = head p ++ quotedBody p ++ tail p := by
  simp [encodePoint, head, quotedBody, tail]

/-- The tag of the host, without the comma in front and with the one behind it. -/
def hostTag (p : Point) : List Char :=
  if p.hostname.isEmpty then []
  else "hostname=".toList ++ escape tagSpecials p.hostname.toList ++ [',']

theorem encodeTag_severity (s : Severity) :
    encodeTag ("severity", s.name) = ",severity=".toList ++ s.name.toList := by
  cases s <;> rfl

theorem encodeTag_facility (f : Facility) :
    encodeTag ("facility", f.name) = ",facility=".toList ++ f.name.toList := by
  cases f <;> rfl

theorem flatMap_tags (p : Point) :
    (tags p).flatMap encodeTag =
      ',' :: hostTag p ++ "severity=".toList ++ p.severity.name.toList ++
        ",facility=".toList ++ p.facility.name.toList := by
  simp only [tags, List.flatMap_cons, List.flatMap_nil, encodeTag_severity, encodeTag_facility]
  unfold encodeTag hostTag
  split <;> simp

/-- A record with anything behind it, cut where the separators are. -/
theorem encodePoint_append_eq (p : Point) (rest : List Char) :
    encodePoint p ++ '\n' :: rest =
      escape measurementSpecials p.measurement.toList ++ ',' :: (hostTag p ++
        ("severity=".toList ++ (p.severity.name.toList ++ ',' ::
          ("facility=".toList ++ (p.facility.name.toList ++ ' ' ::
            ("message=\"".toList ++ (escape fieldSpecials p.body.toList ++ '"' ::
              (' ' :: (toString p.nanos).toList ++ '\n' :: rest)))))))) := by
  simp [encodePoint, flatMap_tags]

/-! ## One record -/

theorem comma_not_mem_severity (s : Severity) : ',' ∉ s.name.toList := by
  cases s <;> decide

theorem space_not_mem_facility (f : Facility) : ' ' ∉ f.name.toList := by
  cases f <;> decide

theorem name_injective_severity : Function.Injective Severity.name := by
  intro s s' h
  cases s <;> cases s' <;> first | rfl | exact absurd h (by decide)

theorem name_injective_facility : Function.Injective Facility.name := by
  intro f f' h
  cases f <;> cases f' <;> first | rfl | exact absurd h (by decide)

/-- A number is written with digits and a minus sign. -/
theorem lineFeed_not_mem_nanos (n : Int) : '\n' ∉ (toString n).toList := by
  have hdigits (m : Nat) : '\n' ∉ m.repr.toList := by
    rw [Nat.repr_eq_ofList_toDigits, String.toList_ofList]
    intro h
    exact absurd (Nat.isDigit_of_mem_toDigits (by decide) (by decide) h) (by decide)
  change '\n' ∉ n.repr.toList
  rw [Int.repr_eq_if]
  split
  · exact hdigits _
  · rw [String.toList_append, List.mem_append, not_or]
    exact ⟨by decide, hdigits _⟩

theorem hostTag_of_isEmpty {p : Point} (h : p.hostname.isEmpty = true) : hostTag p = [] :=
  if_pos h

theorem hostTag_of_named {p : Point} (h : ¬ p.hostname.isEmpty = true) :
    hostTag p = "hostname=".toList ++ escape tagSpecials p.hostname.toList ++ [','] :=
  if_neg h

/-- The tag of a host does not read like the tag of the severity. -/
theorem hostTag_append_ne {p : Point} (h : ¬ p.hostname.isEmpty = true) (rest rest' : List Char) :
    hostTag p ++ rest ≠ "severity=".toList ++ rest' := by
  rw [hostTag_of_named h]
  intro hcut
  exact absurd (List.cons.inj hcut).1 (by decide)

/-- The host of a record is determined by what follows the measurement, backslashes or not: its
value ends in front of the comma that belongs to the first bare equals sign. -/
theorem hostTag_append_inj {p q : Point} {rest rest' : List Char}
    (h : hostTag p ++ ("severity=".toList ++ rest) = hostTag q ++ ("severity=".toList ++ rest')) :
    p.hostname = q.hostname ∧ rest = rest' := by
  by_cases hp : p.hostname.isEmpty = true <;> by_cases hq : q.hostname.isEmpty = true
  · rw [hostTag_of_isEmpty hp, hostTag_of_isEmpty hq] at h
    refine ⟨?_, List.append_cancel_left h⟩
    rw [String.isEmpty_iff.1 hp, String.isEmpty_iff.1 hq]
  · rw [hostTag_of_isEmpty hp, List.nil_append] at h
    exact absurd h.symm (hostTag_append_ne hq _ _)
  · rw [hostTag_of_isEmpty hq, List.nil_append] at h
    exact absurd h (hostTag_append_ne hp _ _)
  · have hequals : '=' ∈ tagSpecials := by decide
    have hguarded (p : Point) :
        Guarded '=' (escape tagSpecials p.hostname.toList ++ ",severity".toList) :=
      (guarded_escape hequals (by decide) _).append (.of_not_mem (by decide))
    have hlast (p : Point) :
        (escape tagSpecials p.hostname.toList ++ ",severity".toList).getLast? ≠ some '\\' := by
      rw [List.getLast?_append]
      exact fun h => absurd (Option.some.inj h) (by decide)
    rw [hostTag_of_named hp, hostTag_of_named hq] at h
    have hcut : (escape tagSpecials p.hostname.toList ++ ",severity".toList) ++ '=' :: rest =
        (escape tagSpecials q.hostname.toList ++ ",severity".toList) ++ '=' :: rest' := by
      simpa using h
    obtain ⟨hhost, hrest⟩ :=
      append_cons_inj_of_guarded (hguarded p) (hguarded q) (hlast p) (hlast q) hcut
    have hhost := escape_injective (by decide) (List.append_cancel_right hhost)
    exact ⟨String.toList_injective hhost, hrest⟩

/-- A record whose measurement does not end with a backslash is determined, in all that it says, by
any text that starts with it. -/
theorem encodePoint_append_inj {p q : Point} {rest rest' : List Char}
    (hp : p.measurement.toList.getLast? ≠ some '\\')
    (hq : q.measurement.toList.getLast? ≠ some '\\')
    (h : encodePoint p ++ '\n' :: rest = encodePoint q ++ '\n' :: rest') :
    contents p = contents q ∧ rest = rest' := by
  rw [encodePoint_append_eq, encodePoint_append_eq] at h
  -- part by part from the front, each cut off at the separator behind it
  have hcomma : ',' ∈ measurementSpecials := by decide
  obtain ⟨hmeasurement, h⟩ := append_cons_inj_of_guarded
    (guarded_escape hcomma (by decide) _) (guarded_escape hcomma (by decide) _)
    (by rwa [getLast?_escape]) (by rwa [getLast?_escape]) h
  have hmeasurement := escape_injective (by decide) hmeasurement
  obtain ⟨hhost, h⟩ := hostTag_append_inj h
  obtain ⟨hseverity, h⟩ := append_cons_inj_of_not_mem (comma_not_mem_severity _)
    (comma_not_mem_severity _) h
  obtain ⟨hfacility, h⟩ := append_cons_inj_of_not_mem (space_not_mem_facility _)
    (space_not_mem_facility _) (List.append_cancel_left h)
  obtain ⟨hbody, h⟩ := escape_field_append_inj (List.append_cancel_left h)
  obtain ⟨hnanos, h⟩ := append_cons_inj_of_not_mem (lineFeed_not_mem_nanos _)
    (lineFeed_not_mem_nanos _) (List.cons.inj h).2
  refine ⟨?_, h⟩
  simp only [contents, Contents.mk.injEq]
  exact ⟨String.toList_injective hmeasurement, hhost,
    name_injective_severity (String.toList_injective hseverity),
    name_injective_facility (String.toList_injective hfacility),
    String.toList_injective hbody, Int.repr_injective (String.toList_injective hnanos)⟩

/-! ## Sequences of records -/

/-- What records say is all that they depend on. -/
theorem encodePoint_eq_of_contents_eq {p q : Point} (h : contents p = contents q) :
    encodePoint p = encodePoint q := by
  simp only [contents, Contents.mk.injEq] at h
  obtain ⟨hmeasurement, hhost, hseverity, hfacility, hbody, hnanos⟩ := h
  simp only [encodePoint, tags, hmeasurement, hhost, hseverity, hfacility, hbody, hnanos]

/-- As long as no measurement ends with a backslash, records say what their points say and nothing
else: two sequences of points are written alike only if they agree point by point. -/
theorem encode_eq_encode_iff {ps qs : List Point}
    (hps : ∀ p ∈ ps, p.measurement.toList.getLast? ≠ some '\\')
    (hqs : ∀ q ∈ qs, q.measurement.toList.getLast? ≠ some '\\') :
    encode ps = encode qs ↔ ps.map contents = qs.map contents := by
  have hne (p : Point) (rest : List Char) : encodePoint p ++ ['\n'] ++ rest ≠ [] := by simp
  unfold encode
  rw [String.ofList_inj]
  constructor
  · intro h
    induction ps generalizing qs with
    | nil =>
      cases qs with
      | nil => rfl
      | cons q qs => exact absurd h.symm (hne q _)
    | cons p ps ih =>
      cases qs with
      | nil => exact absurd h (hne p _)
      | cons q qs =>
        rw [List.forall_mem_cons] at hps hqs
        simp only [List.flatMap_cons, List.append_assoc, List.singleton_append] at h
        obtain ⟨hcontents, hrest⟩ := encodePoint_append_inj hps.1 hqs.1 h
        rw [List.map_cons, List.map_cons, hcontents, ih hps.2 hqs.2 hrest]
  · intro h
    induction ps generalizing qs with
    | nil => rw [List.map_eq_nil_iff.1 h.symm]
    | cons p ps ih =>
      obtain ⟨q, qs, rfl, hq, hrest⟩ := List.map_eq_cons_iff.1 h.symm
      rw [List.forall_mem_cons] at hps hqs
      rw [List.flatMap_cons, List.flatMap_cons, encodePoint_eq_of_contents_eq hq,
        ih hps.2 hqs.2 hrest.symm]

/-! ## Line feeds -/

/-- To escape other characters adds no line feed. -/
theorem count_lineFeed_escape {special : List Char} (h : '\n' ∉ special) (text : List Char) :
    (escape special text).count '\n' = text.count '\n' := by
  induction text with
  | nil => rfl
  | cons c text ih =>
    by_cases hc : c ∈ special
    · have hne : c ≠ '\n' := fun hnl => h (hnl ▸ hc)
      rw [escape_cons_of_mem hc, List.count_cons_of_ne (by decide), List.count_cons_of_ne hne,
        List.count_cons_of_ne hne, ih]
    · rw [escape_cons_of_not_mem hc, List.count_cons, List.count_cons, ih]

theorem count_lineFeed_hostTag (p : Point) :
    (hostTag p).count '\n' = p.hostname.toList.count '\n' := by
  by_cases hp : p.hostname.isEmpty = true
  · rw [hostTag_of_isEmpty hp, String.isEmpty_iff.1 hp]
    rfl
  · have hkey : "hostname=".toList.count '\n' = 0 := by decide
    rw [hostTag_of_named hp, List.count_append, List.count_append,
      count_lineFeed_escape (by decide), hkey]
    simp

/-- Outside the quoted text, a record holds the line feeds of its names and one at its end. -/
theorem count_lineFeed_outside (p : Point) :
    (head p ++ tail p).count '\n' =
      p.measurement.toList.count '\n' + p.hostname.toList.count '\n' + 1 := by
  have hseverity : p.severity.name.toList.count '\n' = 0 := by cases p.severity <;> decide
  have hfacility : p.facility.name.toList.count '\n' = 0 := by cases p.facility <;> decide
  have hnanos := List.count_eq_zero.2 (lineFeed_not_mem_nanos p.nanos)
  have hmeasurement := count_lineFeed_escape (by decide : '\n' ∉ measurementSpecials)
  have hkeys : ("severity=".toList.count '\n' = 0 ∧ ",facility=".toList.count '\n' = 0) ∧
      " message=".toList.count '\n' = 0 := by decide
  simp only [head, tail, flatMap_tags, List.count_append, List.count_cons, List.count_nil,
    hmeasurement, count_lineFeed_hostTag, hseverity, hfacility, hnanos, hkeys]
  simp

/-- Records are kept apart. As long as no measurement ends with a backslash, two sequences of points
are written alike only if they agree in all that records say, point by point. A text is its records
one after the other, and outside the quoted text a record holds one line feed, at its end, besides
those of its names. -/
theorem records_kept_apart {ps qs : List Point}
    (hps : ∀ p ∈ ps, p.measurement.toList.getLast? ≠ some '\\')
    (hqs : ∀ q ∈ qs, q.measurement.toList.getLast? ≠ some '\\') :
    (encode ps = encode qs ↔ ps.map contents = qs.map contents) ∧
      (encode ps).toList = (ps.flatMap fun p => head p ++ quotedBody p ++ tail p) ∧
      ∀ p ∈ ps, (tail p).getLast? = some '\n' ∧
        (head p ++ tail p).count '\n' =
          p.measurement.toList.count '\n' + p.hostname.toList.count '\n' + 1 := by
  refine ⟨encode_eq_encode_iff hps hqs, ?_, fun p _ => ⟨?_, count_lineFeed_outside p⟩⟩
  · simp only [encode, String.toList_ofList, encodePoint_append]
  · exact List.getLast?_concat

/-- A text that imitates the end of its record and a further record is still one text, under a
measurement with a comma and a host with a backslash at its end. -/
theorem records_kept_apart_imitated_record :
    ∃ p q r : Point,
      (∀ p' ∈ [p], p'.measurement.toList.getLast? ≠ some '\\') ∧
      (∀ q' ∈ [q, r], q'.measurement.toList.getLast? ≠ some '\\') ∧
      p.body = q.body ++ "\" 0\n" ++ r.measurement ++
        ",severity=info,facility=user message=\"" ++ r.body ∧
      encode [p] ≠ encode [q, r] ∧ (head p ++ tail p).count '\n' = 1 := by
  refine ⟨⟨"a,b", "h\\", .info, .user,
      "x\" 0\nc,severity=info,facility=user message=\"y", ⟨0, 0⟩⟩,
    ⟨"a,b", "h\\", .info, .user, "x", ⟨0, 0⟩⟩, ⟨"c", "", .info, .user, "y", ⟨0, 0⟩⟩,
    by decide, by decide, by decide, ?_⟩
  obtain ⟨hencode, -, hlines⟩ := @records_kept_apart
    [⟨"a,b", "h\\", .info, .user,
      "x\" 0\nc,severity=info,facility=user message=\"y", ⟨0, 0⟩⟩]
    [⟨"a,b", "h\\", .info, .user, "x", ⟨0, 0⟩⟩, ⟨"c", "", .info, .user, "y", ⟨0, 0⟩⟩]
    (by decide) (by decide)
  refine ⟨fun h => ?_, (hlines _ List.mem_cons_self).2⟩
  exact absurd (congrArg List.length (hencode.1 h)) (by decide)

/-- What names can do to records. The parser accepts a message of host `h` and application `a\` and
one without host of application `a,hostname=h`, and their records are the same. It also accepts an
application name with a line feed in it, which ends its record before the text. -/
theorem names_break_records :
    (∃ m m' : Message,
      Syslog.parse "<14>1 - h a\\ - - - x".toUTF8.toList .automatic ⟨0, 0⟩ = .ok m ∧
      Syslog.parse "<14>1 - - a,hostname=h - - - x".toUTF8.toList .automatic ⟨0, 0⟩ = .ok m' ∧
      m.hasAppName = true ∧ m'.hasAppName = true ∧
      contents (.ofMessage m ⟨0, 0⟩) ≠ contents (.ofMessage m' ⟨0, 0⟩) ∧
      encode [.ofMessage m ⟨0, 0⟩] = encode [.ofMessage m' ⟨0, 0⟩]) ∧
    ∃ m : Message,
      Syslog.parse "<14>1 - h a\nb - - - x".toUTF8.toList .automatic ⟨0, 0⟩ = .ok m ∧
      m.hasAppName = true ∧ '\n' ∈ head (.ofMessage m ⟨0, 0⟩) := by
  refine ⟨⟨⟨⟨0, 0⟩, "h", .info, .user, "a\\", "x", .rfc5424⟩,
    ⟨⟨0, 0⟩, "", .info, .user, "a,hostname=h", "x", .rfc5424⟩, ?_, ?_, rfl, rfl, ?_, rfl⟩,
    ⟨⟨0, 0⟩, "h", .info, .user, "a\nb", "x", .rfc5424⟩, ?_, rfl, ?_⟩
  · decide +kernel
  · decide +kernel
  · decide
  · decide +kernel
  · decide

end SyslogCollector.LineProtocol
