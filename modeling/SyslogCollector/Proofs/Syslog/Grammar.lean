import SyslogCollector.Proofs.Syslog.Header
import SyslogCollector.Proofs.Syslog.StructuredData
/-!
# The grammar of IETF messages

A message is put together from its parts: the priority, the version, five words, the structured
data and the body. A text has at most one such reading (`Parts.text_inj`), the parser accepts
exactly the texts that have one, and what it returns is what the parts say
(`parse_accepts_exactly_grammar`).

The parser cuts the text from the front, so a word counts as cut only if something is left for the
parts behind it. Read from the back, the structured data is never empty, so no word behind the
version ends the text.
-/

namespace SyslogCollector.Syslog.Rfc5424

open Text

/-- The parts of a message. -/
structure Parts where
  /-- The priority. -/
  priority : PriorityDigits
  /-- The timestamp. -/
  stamp : HeaderWord
  /-- The name of the host. -/
  host : HeaderWord
  /-- The name of the application. -/
  app : HeaderWord
  /-- The number of the process. -/
  process : HeaderWord
  /-- The kind of the message. -/
  id : HeaderWord
  /-- The structured data and the body. -/
  ending : Ending
  /-- The timestamp is a hyphen, or the strict reader accepts it. -/
  timed : stamp.chars = ['-'] ∨ ∃ t, Rfc3339.parseStrict? stamp.chars = some t

/-- The header behind the version and the end of a message. -/
def Parts.afterVersion (p : Parts) : List Char :=
  p.stamp.before (p.host.before (p.app.before (p.process.before (p.id.before p.ending.text))))

/-- The text that is put together from the parts. -/
def Parts.text (p : Parts) : List Char :=
  '<' :: (p.priority.digits ++ '>' :: '1' :: ' ' :: p.afterVersion)

/-- A body without the byte order mark that it may start with. -/
def withoutMark : List Char → List Char
  | [] => []
  | c :: body => if c = byteOrderMark then body else c :: body

/-- What the parts of a message say about it. -/
structure Parts.Describes (p : Parts) (received : Instant) (m : Message) : Prop where
  /-- The codes of facility and severity make up the priority. -/
  priority : m.facility.code * 8 + m.severity.code = Decimal.value p.priority.digits
  /-- The time is what the timestamp says, and when the message was received if that is a hyphen. -/
  timestamp : if p.stamp.chars = ['-'] then m.timestamp = received
    else Rfc3339.parseStrict? p.stamp.chars = some m.timestamp
  /-- The host is named by its word, unless that is a hyphen. -/
  hostname : m.hostname = if p.host.chars = ['-'] then "" else String.ofList p.host.chars
  /-- The application is named by its word, unless that is a hyphen. -/
  appName : m.appName = if p.app.chars = ['-'] then "" else String.ofList p.app.chars
  /-- The body is taken without its mark; it is empty if there is none. -/
  body : m.body = String.ofList (withoutMark (p.ending.body.getD []))
  /-- It is a message of this dialect. -/
  dialect : m.dialect = .rfc5424

/-! ## A text has one reading -/

/-- The parts of a message are determined by its text. -/
theorem Parts.text_inj {p q : Parts} (h : p.text = q.text) : p = q := by
  -- part by part from the front, each determined by what is left of the text
  obtain ⟨hpriority, hversion⟩ := PriorityDigits.append_inj (List.cons.inj h).2
  have hafter : p.afterVersion = q.afterVersion := (List.cons.inj (List.cons.inj hversion).2).2
  obtain ⟨hstamp, hafter⟩ := HeaderWord.before_inj hafter
  obtain ⟨hhost, hafter⟩ := HeaderWord.before_inj hafter
  obtain ⟨happ, hafter⟩ := HeaderWord.before_inj hafter
  obtain ⟨hprocess, hafter⟩ := HeaderWord.before_inj hafter
  obtain ⟨hid, hafter⟩ := HeaderWord.before_inj hafter
  have hending := Ending.text_inj hafter
  cases p
  cases q
  congr

/-! ## The parser and the grammar -/

/-- A computation in two steps succeeds if both do. -/
theorem bind_eq_ok_iff {ε α β : Type} {x : Except ε α} {f : α → Except ε β} {b : β} :
    (x >>= f) = .ok b ↔ ∃ a, x = .ok a ∧ f a = .ok b := by
  cases x with
  | error e => exact ⟨nofun, fun ⟨a, h, _⟩ => nomatch h⟩
  | ok a => exact ⟨fun h => ⟨a, rfl, h⟩, fun ⟨a', h, h'⟩ => Except.ok.inj h ▸ h'⟩

/-- A timestamp is accepted if it is a hyphen or the strict reader accepts it. -/
theorem readTimestamp_eq_ok_iff {stamp : List Char} {received t : Instant} :
    readTimestamp stamp received = .ok t ↔
      if stamp = ['-'] then t = received else Rfc3339.parseStrict? stamp = some t := by
  unfold readTimestamp
  split
  · rw [Except.ok.injEq, eq_comm]
  · cases Rfc3339.parseStrict? stamp with
    | none => exact ⟨nofun, nofun⟩
    | some t' => rw [Except.ok.injEq, Option.some.injEq]

/-- The mark in front of a body is taken off once. -/
theorem getD_afterChar?_byteOrderMark (body : List Char) :
    (afterChar? byteOrderMark body).getD body = withoutMark body := by
  cases body with
  | nil => rfl
  | cons c body =>
    rw [afterChar?, withoutMark]
    split <;> rfl

/-- What the parser accepts is put together from parts that say what it returns. -/
theorem exists_parts_of_parse {text : List Char} {received : Instant} {m : Message}
    (h : parse text received = .ok m) : ∃ p : Parts, p.text = text ∧ p.Describes received m := by
  unfold parse at h
  simp only [bind_eq_ok_iff, Prod.exists] at h
  obtain ⟨facility, severity, versioned, hpriority, version, stamped, hversion, h⟩ := h
  by_cases hone : version = ['1']
  · rw [if_neg (not_not_intro hone)] at h
    simp only [bind_eq_ok_iff, Prod.exists] at h
    obtain ⟨_, _, hstamp, t, htime, _, _, hhost, _, _, happ, _, _, hprocess, _, _, hid, _,
      hending, hmessage⟩ := h
    -- from the back, every part leaves a text that is not empty for the part before it
    obtain ⟨ending, rfl, rfl⟩ := skipStructuredData_eq_ok_iff.1 hending
    obtain ⟨id, -, rfl⟩ := (word_eq_ok_iff ending.text_ne_nil).1 hid
    obtain ⟨process, -, rfl⟩ := (word_eq_ok_iff (id.before_ne_nil _)).1 hprocess
    obtain ⟨app, rfl, rfl⟩ := (word_eq_ok_iff (process.before_ne_nil _)).1 happ
    obtain ⟨host, rfl, rfl⟩ := (word_eq_ok_iff (app.before_ne_nil _)).1 hhost
    obtain ⟨stamp, rfl, rfl⟩ := (word_eq_ok_iff (host.before_ne_nil _)).1 hstamp
    obtain ⟨one, rfl, rfl⟩ := (word_eq_ok_iff (stamp.before_ne_nil _)).1 hversion
    obtain ⟨priority, rfl, hcodes⟩ := splitPriority_eq_ok_iff.1 hpriority
    have hstamped := readTimestamp_eq_ok_iff.1 htime
    have htimed : stamp.chars = ['-'] ∨ ∃ t, Rfc3339.parseStrict? stamp.chars = some t := by
      by_cases hnil : stamp.chars = ['-']
      · exact .inl hnil
      · exact .inr ⟨t, by rwa [if_neg hnil] at hstamped⟩
    refine ⟨⟨priority, stamp, host, app, process, id, ending, htimed⟩, ?_, ?_⟩
    · rw [HeaderWord.before, hone]
      rfl
    · obtain rfl := Except.ok.inj hmessage
      refine ⟨hcodes, hstamped, rfl, rfl, ?_, rfl⟩
      rw [getD_afterChar?_byteOrderMark]
  · -- another version is refused
    rw [if_pos hone] at h
    exact nomatch h

/-- The parser accepts what is put together from parts, and returns what they say. -/
theorem parse_text {p : Parts} {received : Instant} {m : Message} (h : p.Describes received m) :
    parse p.text received = .ok m := by
  have hpriority : splitPriority p.text =
      .ok (m.facility, m.severity, '1' :: ' ' :: p.afterVersion) :=
    splitPriority_eq_ok_iff.2 ⟨p.priority, rfl, h.priority⟩
  have hversion : word "version" ('1' :: ' ' :: p.afterVersion) = .ok (['1'], p.afterVersion) :=
    (word_eq_ok_iff (p.stamp.before_ne_nil _)).2 ⟨⟨['1'], by decide⟩, rfl, rfl⟩
  have hword (field : String) (w : HeaderWord) {rest : List Char} (hrest : rest ≠ []) :
      word field (w.before rest) = .ok (w.chars, rest) :=
    (word_eq_ok_iff hrest).2 ⟨w, rfl, rfl⟩
  have htime : readTimestamp p.stamp.chars received = .ok m.timestamp :=
    readTimestamp_eq_ok_iff.2 h.timestamp
  have hending : skipStructuredData p.ending.text = .ok (p.ending.body.getD []) :=
    skipStructuredData_eq_ok_iff.2 ⟨p.ending, rfl, rfl⟩
  unfold parse
  simp only [bind_eq_ok_iff, Prod.exists]
  refine ⟨_, _, _, hpriority, _, _, hversion, ?_⟩
  rw [if_neg (not_not_intro rfl)]
  simp only [bind_eq_ok_iff, Prod.exists]
  refine ⟨_, _, hword _ _ (p.host.before_ne_nil _), _, htime,
    _, _, hword _ _ (p.app.before_ne_nil _), _, _, hword _ _ (p.process.before_ne_nil _),
    _, _, hword _ _ (p.id.before_ne_nil _), _, _, hword _ _ p.ending.text_ne_nil, _, hending, ?_⟩
  rw [getD_afterChar?_byteOrderMark]
  obtain ⟨timestamp, hostname, severity, facility, appName, body, dialect⟩ := m
  obtain ⟨-, -, rfl, rfl, rfl, rfl⟩ := h
  rfl

/-- Parts always say what the message is. -/
theorem Parts.exists_describes (p : Parts) (received : Instant) :
    ∃ m, p.Describes received m := by
  obtain ⟨facility, severity, hcodes⟩ := exists_codes p.priority.value_le
  obtain ⟨t, ht⟩ : ∃ t, if p.stamp.chars = ['-'] then t = received
      else Rfc3339.parseStrict? p.stamp.chars = some t := by
    by_cases hnil : p.stamp.chars = ['-']
    · exact ⟨received, by rw [if_pos hnil]⟩
    · obtain ⟨t, ht⟩ := p.timed.resolve_left hnil
      exact ⟨t, by rwa [if_neg hnil]⟩
  exact ⟨⟨t, _, severity, facility, _, _, _⟩, hcodes, ht, rfl, rfl, rfl, rfl⟩

/-- The parser accepts exactly the texts of the grammar and returns exactly what their parts say:
it succeeds on a text if and only if the text is put together from parts, the parts are determined
by the text, and the message that is returned is the one that they describe. -/
theorem parse_accepts_exactly_grammar (text : List Char) (received : Instant) :
    ((∃ m, parse text received = .ok m) ↔ ∃ p : Parts, p.text = text) ∧
    (∀ p q : Parts, p.text = text → q.text = text → p = q) ∧
    ∀ m, parse text received = .ok m ↔ ∃ p : Parts, p.text = text ∧ p.Describes received m := by
  refine ⟨⟨?_, ?_⟩, fun p q hp hq => Parts.text_inj (hp.trans hq.symm), fun m => ⟨?_, ?_⟩⟩
  · rintro ⟨m, hm⟩
    obtain ⟨p, hp, -⟩ := exists_parts_of_parse hm
    exact ⟨p, hp⟩
  · rintro ⟨p, rfl⟩
    obtain ⟨m, hm⟩ := p.exists_describes received
    exact ⟨m, parse_text hm⟩
  · exact exists_parts_of_parse
  · rintro ⟨p, rfl, hm⟩
    exact parse_text hm

example (t : Instant) : parse "<165>1 - host - 7 - [a b=\"]\"][c] text".toList t = .ok
    { timestamp := t, hostname := "host", severity := .notice, facility := .local4, appName := "",
      body := "text", dialect := .rfc5424 } := by cbv

end SyslogCollector.Syslog.Rfc5424
