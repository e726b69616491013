import SyslogCollector.Proofs.LineProtocol.Records
import SyslogCollector.Proofs.LineProtocol.Unescaping
import SyslogCollector.Proofs.Text.Integer
/-!
# Reading line protocol

A reader of line protocol knows the format and nothing of points: a measurement up to a bare comma
or space, tags with a key and a value up to bare separators, one field in quotes, a time and a line
feed (`record?`). It gets back what was written (`written_points_read_back`), whatever the texts
are, as long as no name holds a line feed or ends with a backslash.
-/

namespace SyslogCollector.LineProtocol

open Text

/-! ## The reader -/

/-- One record, as line protocol has it. -/
structure Record where
  /-- The measurement. -/
  measurement : String
  /-- The tags, by key. -/
  tags : List (String × String)
  /-- The value of the field `message`. -/
  message : String
  /-- The time. -/
  nanos : Int
  deriving DecidableEq, Repr

/-- Reads a name up to a special character that has no backslash. A name is not empty, and a line
feed, which has no escape, ends it as well. -/
def name? (special s : List Char) : Option (String × List Char) := do
  let (text, s) ← unescape? special ('\n' :: special) s
  if text.isEmpty then none else some (String.ofList text, s)

/-- Reads a tag with the comma in front of it. -/
def tag? (s : List Char) : Option ((String × String) × List Char) := do
  let s ← afterChar? ',' s
  let (key, s) ← name? tagSpecials s
  let s ← afterChar? '=' s
  let (value, s) ← name? tagSpecials s
  some ((key, value), s)

/-- Reads tags as long as there are any. -/
def tags? (s : List Char) : Option (List (String × String) × List Char) :=
  match tag? s with
  | none => some ([], s)
  | some (tag, rest) =>
    if rest.length < s.length then (tags? rest).map fun (tags, rest) => (tag :: tags, rest)
    else none
  termination_by s.length

/-- Reads what stands behind the tags: the field `message`, the time and the line feed. -/
def values? (s : List Char) : Option ((String × Int) × List Char) := do
  let s ← afterPrefix? " message=".toList s
  let (message, s) ← quoted? '"' s
  let s ← afterChar? ' ' s
  let (nanos, s) ← Decimal.integer? s
  let s ← afterChar? '\n' s
  some ((message, nanos), s)

/-- Reads a record with its line feed. -/
def record? (s : List Char) : Option (Record × List Char) := do
  let (measurement, s) ← name? measurementSpecials s
  let (tags, s) ← tags? s
  let ((message, nanos), s) ← values? s
  some (⟨measurement, tags, message, nanos⟩, s)

/-- Reads records to the end of a text. -/
def records? (s : List Char) : Option (List Record) :=
  if s.isEmpty then some []
  else match record? s with
    | none => none
    | some (record, rest) =>
      if rest.length < s.length then (records? rest).map (record :: ·) else none
  termination_by s.length

/-- What a record says, if its tags name a severity and a facility. The host is empty if there is no
tag for it. -/
def Record.contents? (r : Record) : Option Contents := do
  let severity ← (r.tags.lookup "severity").bind Severity.ofName?
  let facility ← (r.tags.lookup "facility").bind fun name => Facility.all.find? (·.name == name)
  some ⟨r.measurement, (r.tags.lookup "hostname").getD "", severity, facility, r.message, r.nanos⟩

/-- Reads a text of line protocol. -/
def read? (text : String) : Option (List Contents) :=
  (records? text.toList).bind fun records => records.mapM Record.contents?

/-! ## Names -/

/-- A text that can be told from what follows it. -/
structure Tellable (text : String) : Prop where
  /-- It holds no line feed, -/
  lineFeed : '\n' ∉ text.toList
  /-- and it does not end with a backslash. -/
  backslash : text.toList.getLast? ≠ some '\\'

instance (text : String) : Decidable (Tellable text) :=
  decidable_of_iff ('\n' ∉ text.toList ∧ text.toList.getLast? ≠ some '\\')
    ⟨fun h => ⟨h.1, h.2⟩, fun h => ⟨h.lineFeed, h.backslash⟩⟩

/-- A text without line feeds and backslashes can always be told from what follows it. -/
theorem Tellable.of_not_mem {text : String} (hlineFeed : '\n' ∉ text.toList)
    (hbackslash : '\\' ∉ text.toList) : Tellable text :=
  ⟨hlineFeed, fun hlast => hbackslash (List.mem_of_getLast? hlast)⟩

theorem isEmpty_toList {text : String} (h : text ≠ "") : text.toList.isEmpty = false := by
  rw [List.isEmpty_eq_false_iff]
  exact fun hnil => h (String.toList_eq_nil_iff.1 hnil)

/-- A name is read back up to the special character behind it. -/
theorem name?_append {special : List Char} (hbackslash : '\\' ∉ special) {text : String}
    (hne : text ≠ "") (h : Tellable text) {c : Char} (hc : c ∈ special) (rest : List Char) :
    name? special (escape special text.toList ++ c :: rest) = some (text, c :: rest) := by
  have hread : unescape? special ('\n' :: special) (escape special text.toList ++ c :: rest) =
      some (text.toList, c :: rest) := by
    refine unescape?_escape_append (List.mem_cons_of_mem _ hc) ?_ ?_ (.inr h.backslash) rest
    · rw [List.mem_cons, not_or]
      exact ⟨by decide, hbackslash⟩
    · intro d hd hends
      -- the only end without an escape is the line feed
      exact (List.mem_cons.1 hends).resolve_left fun hnl => h.lineFeed (hnl ▸ hd)
  rw [name?, hread, Option.bind_eq_bind, Option.bind_some]
  simp only [isEmpty_toList hne, String.ofList_toList]
  rfl

/-! ## Tags -/

/-- A tag whose key needs no escapes and whose value can be told from what follows it. -/
structure PlainTag (tag : String × String) : Prop where
  key_ne : tag.1 ≠ ""
  key : Tellable tag.1
  plain : escape tagSpecials tag.1.toList = tag.1.toList
  value : Tellable tag.2

/-- A tag with a value is read back. -/
theorem tag?_append {tag : String × String} (h : PlainTag tag) (hvalue : tag.2 ≠ "") {c : Char}
    (hc : c ∈ tagSpecials) (rest : List Char) :
    tag? (encodeTag tag ++ c :: rest) = some (tag, c :: rest) := by
  have htext : encodeTag tag ++ c :: rest =
      ',' :: (escape tagSpecials tag.1.toList ++
        '=' :: (escape tagSpecials tag.2.toList ++ c :: rest)) := by
    rw [encodeTag, if_neg (by simpa using hvalue), h.plain]
    simp
  rw [tag?, htext, afterChar?_eq_some_iff.2 rfl, Option.bind_eq_bind, Option.bind_some,
    name?_append (by decide) h.key_ne h.key (by decide)]
  simp only [Option.bind_eq_bind, Option.bind_some, afterChar?_eq_some_iff.2 rfl,
    name?_append (by decide : '\\' ∉ tagSpecials) hvalue h.value hc]

/-- Tags are followed by a comma or the space in front of the field. -/
theorem exists_cons_tags (all : List (String × String)) (rest : List Char) :
    ∃ c more, all.flatMap encodeTag ++ ' ' :: rest = c :: more ∧ (c = ',' ∨ c = ' ') := by
  induction all with
  | nil => exact ⟨' ', rest, rfl, .inr rfl⟩
  | cons tag all ih =>
    rw [List.flatMap_cons]
    unfold encodeTag
    split
    · exact ih
    · exact ⟨',', _, rfl, .inl rfl⟩

/-- Tags are read back, but for those without a value. -/
theorem tags?_append {all : List (String × String)} (h : ∀ tag ∈ all, PlainTag tag)
    (rest : List Char) :
    tags? (all.flatMap encodeTag ++ ' ' :: rest) =
      some (all.filter fun tag => !tag.2.isEmpty, ' ' :: rest) := by
  induction all with
  | nil =>
    rw [tags?]
    rfl
  | cons tag all ih =>
    obtain ⟨htag, hall⟩ := List.forall_mem_cons.1 h
    rw [List.flatMap_cons, List.append_assoc, List.filter_cons]
    by_cases hempty : tag.2.isEmpty = true
    · -- a tag without a value is not written
      have hnone : encodeTag tag = [] := if_pos hempty
      rw [hnone, List.nil_append, ih hall]
      simp [hempty]
    · -- the value ends in front of the next tag or the field, whichever it is
      obtain ⟨c, more, hmore, hc⟩ := exists_cons_tags all rest
      have hspecial : c ∈ tagSpecials := by
        rcases hc with rfl | rfl <;> decide
      have hread := tag?_append htag (by simpa using hempty) hspecial more
      have hshorter : (c :: more).length < (encodeTag tag ++ c :: more).length := by
        rw [encodeTag, if_neg hempty]
        simp only [List.length_append, List.length_cons]
        omega
      have ih := ih hall
      rw [hmore] at ih ⊢
      rw [tags?, hread]
      simp only [hshorter, if_true, ih, Option.map_some]
      simp [hempty]

/-- The names that the collector itself writes can be told from what follows them. -/
theorem tellable_severity (s : Severity) : Tellable s.name := by
  cases s <;> exact .of_not_mem (by decide) (by decide)

theorem tellable_facility (f : Facility) : Tellable f.name := by
  cases f <;> exact .of_not_mem (by decide) (by decide)

theorem plainTag_of_mem_tags {p : Point} (h : Tellable p.hostname) {tag : String × String}
    (htag : tag ∈ tags p) : PlainTag tag := by
  have hkey : ∀ key ∈ ["hostname", "severity", "facility"],
      key ≠ "" ∧ '\n' ∉ key.toList ∧ key.toList.getLast? ≠ some '\\' ∧
        escape tagSpecials key.toList = key.toList := by
    decide
  have hvalue : ∀ tag ∈ tags p, Tellable tag.2 := by
    simp only [tags, List.forall_mem_cons]
    exact ⟨h, tellable_severity _, tellable_facility _, List.forall_mem_nil _⟩
  have hmem : tag.1 ∈ ["hostname", "severity", "facility"] :=
    List.mem_map_of_mem (f := Prod.fst) htag
  obtain ⟨hne, hlineFeed, hbackslash, hplain⟩ := hkey _ hmem
  exact ⟨hne, ⟨hlineFeed, hbackslash⟩, hplain, hvalue _ htag⟩

/-! ## Records -/

/-- What a reader finds of a point: of the tags those with a value. -/
def record (p : Point) : Record :=
  ⟨p.measurement, (tags p).filter fun tag => !tag.2.isEmpty, p.body, p.nanos⟩

/-- The text of a point is read back, whatever it is and whatever follows. -/
theorem quoted?_quotedBody_append (p : Point) (rest : List Char) :
    quoted? '"' (quotedBody p ++ rest) = some (p.body, rest) := by
  have htext : quotedBody p ++ rest =
      '"' :: (escape ['"', '\\'] p.body.toList ++ '"' :: rest) := by
    simp [quotedBody, fieldSpecials]
  rw [htext]
  exact quoted?_escape_append (by decide) p.body rest

/-- What stands behind the tags is read back, whatever follows. -/
theorem values?_append (p : Point) (rest : List Char) :
    values? (" message=".toList ++ (quotedBody p ++ (tail p ++ rest))) =
      some ((p.body, p.nanos), rest) := by
  have hnanos : Decimal.integer? ((toString p.nanos).toList ++ '\n' :: rest) =
      some (p.nanos, '\n' :: rest) :=
    Decimal.integer?_toString_append p.nanos (by simp)
  have htail : tail p ++ rest = ' ' :: ((toString p.nanos).toList ++ '\n' :: rest) := by
    simp [tail]
  rw [values?, afterPrefix?_eq_some_iff.2 rfl]
  simp only [Option.bind_eq_bind, Option.bind_some, quoted?_quotedBody_append, htail,
    afterChar?_eq_some_iff.2 rfl, hnanos]

/-- The record of a point is read back, whatever follows. -/
theorem record?_append {p : Point} (hne : p.measurement ≠ "")
    (hmeasurement : Tellable p.measurement) (hhost : Tellable p.hostname) (rest : List Char) :
    record? (encodePoint p ++ '\n' :: rest) = some (record p, rest) := by
  have hvalues := values?_append p rest
  -- only the space in front of the field matters to the tags
  obtain ⟨values, htext⟩ : ∃ values,
      " message=".toList ++ (quotedBody p ++ (tail p ++ rest)) = ' ' :: values := ⟨_, rfl⟩
  have hrecord : encodePoint p ++ '\n' :: rest =
      escape measurementSpecials p.measurement.toList ++
        ((tags p).flatMap encodeTag ++ ' ' :: values) := by
    rw [← htext]
    simp [encodePoint, quotedBody, tail]
  have htags := tags?_append (fun _ => plainTag_of_mem_tags hhost) values
  obtain ⟨c, more, hmore, hc⟩ := exists_cons_tags (tags p) values
  have hspecial : c ∈ measurementSpecials := by
    rcases hc with rfl | rfl <;> decide
  have hname := name?_append (by decide) hne hmeasurement hspecial more
  rw [htext] at hvalues
  rw [hmore] at hrecord htags
  simp only [record?, hrecord, hname, htags, hvalues, Option.bind_eq_bind, Option.bind_some]
  rfl

/-! ## What records say -/

theorem ofName?_name (s : Severity) : Severity.ofName? s.name = some s := by
  cases s <;> rfl

theorem find?_facility_name (f : Facility) : Facility.all.find? (·.name == f.name) = some f := by
  cases f <;> rfl

/-- A record says what its point says: the tags of severity and facility are always there, and
where that of the host is not, there was none. -/
theorem contents?_record (p : Point) : (record p).contents? = some (contents p) := by
  have hseverity : p.severity.name.isEmpty = false := by
    cases p.severity <;> rfl
  have hfacility : p.facility.name.isEmpty = false := by
    cases p.facility <;> rfl
  have hlookup : (record p).tags.lookup "severity" = some p.severity.name ∧
      (record p).tags.lookup "facility" = some p.facility.name ∧
      ((record p).tags.lookup "hostname").getD "" = p.hostname := by
    by_cases hempty : p.hostname.isEmpty = true
    · -- no tag for the host, which is empty
      have hhost : p.hostname = "" := String.isEmpty_iff.1 hempty
      simp [record, tags, hseverity, hfacility, hhost, List.lookup_cons]
    · simp [record, tags, hseverity, hfacility, hempty, List.lookup_cons]
  obtain ⟨hs, hf, hhost⟩ := hlookup
  rw [Record.contents?, hs, hf, hhost, Option.bind_some, Option.bind_some, ofName?_name,
    find?_facility_name]
  rfl

/-- Records are read back, one after the other. -/
theorem records?_flatMap {points : List Point}
    (h : ∀ p ∈ points, p.measurement ≠ "" ∧ Tellable p.measurement ∧ Tellable p.hostname) :
    records? (points.flatMap fun p => encodePoint p ++ ['\n']) =
      some (points.map record) := by
  induction points with
  | nil =>
    rw [records?]
    rfl
  | cons p points ih =>
    obtain ⟨⟨hne, hmeasurement, hhost⟩, hpoints⟩ := List.forall_mem_cons.1 h
    have hread := record?_append hne hmeasurement hhost
      (points.flatMap fun p => encodePoint p ++ ['\n'])
    have htext : (p :: points).flatMap (fun p => encodePoint p ++ ['\n']) =
        encodePoint p ++ '\n' :: points.flatMap fun p => encodePoint p ++ ['\n'] := by
      simp
    rw [htext, records?, if_neg (by simp), hread]
    simp only [ih hpoints, Option.map_some, List.map_cons]
    -- a record takes its line feed at least, so there is less left to read
    rw [if_pos]
    simp only [List.length_append, List.length_cons]
    omega

/-- What is written is read back. Points whose measurements are not empty are read back from their
text one by one and in order, with all that their records say: the host is empty if it was. Only two
things could mislead a reader, a line feed in a name and a backslash at its end. Other backslashes,
the separators and whatever stands in the quoted text do no harm. -/
theorem written_points_read_back {points : List Point}
    (h : ∀ p ∈ points, p.measurement ≠ "" ∧ Tellable p.measurement ∧ Tellable p.hostname) :
    read? (encode points) = some (points.map contents) := by
  have hsay : Record.contents? ∘ record = fun p => some (contents p) := funext contents?_record
  rw [read?, encode, String.toList_ofList, records?_flatMap h, Option.bind_some, List.mapM_map,
    hsay]
  exact List.mapM_pure

/-- Two points are read back whose names hold every separator. The text of the first imitates the
end of its record and a further record; the second has no host and lies before the epoch. -/
theorem written_points_read_back_imitated_record :
    ∃ p q : Point,
      (∀ p' ∈ [p, q], p'.measurement ≠ "" ∧ Tellable p'.measurement ∧ Tellable p'.hostname) ∧
      p.body = "x\\\" 0\nc,severity=info,facility=user message=\"y" ∧
      q.hostname = "" ∧ q.nanos = -1000000000 ∧
      read? (encode [p, q]) = some [contents p, contents q] := by
  have h : ∀ p ∈ [(⟨"a, b=c", "h,severity=debug d", .info, .solarisCron,
        "x\\\" 0\nc,severity=info,facility=user message=\"y", ⟨1, 5⟩⟩ : Point),
      ⟨"=", "", .error, .user, "\\", ⟨-1, 0⟩⟩],
      p.measurement ≠ "" ∧ Tellable p.measurement ∧ Tellable p.hostname := by
    decide
  exact ⟨_, _, h, rfl, rfl, rfl, written_points_read_back h⟩

end SyslogCollector.LineProtocol
