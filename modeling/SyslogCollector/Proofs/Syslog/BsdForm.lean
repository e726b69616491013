import SyslogCollector.Proofs.Syslog.Grammar
import SyslogCollector.Syslog.Rfc3164
/-!
# The form of BSD messages

Senders leave out what they like, so almost every text behind a priority is a message. What the
parser makes of a text is written down here without the parser: a stamp and a hostname, where the
text starts with a stamp (`Origin`), and a tag that is marked off from the text, where there is one
(`Tagging`). The parser returns a message exactly if the parts of the text say so
(`parse_eq_ok_iff`), and every character of the text has its place in one of the parts.

A message in full form is read back as it was written, whatever its text holds
(`written_message_recovered`).
-/

namespace SyslogCollector.Syslog.Rfc3164

open Text

/-! ## Stamps -/

/-- The number of bytes that a text fills. -/
def byteCount : List Char → Nat
  | [] => 0
  | c :: s => c.utf8Size + byteCount s

/-- A stamp in front of a text. -/
structure Stamp where
  /-- The characters. -/
  chars : List Char
  /-- They fill the bytes of a stamp. -/
  byteCount_eq : byteCount chars = BsdStamp.size
  /-- They are a stamp of some year. -/
  isStamp : BsdStamp.isStamp chars = true

/-- A cut after a number of bytes has that many in front of it. -/
theorem cutBytes?_eq_some_iff {n : Nat} {s front rest : List Char} :
    BsdStamp.cutBytes? n s = some (front, rest) ↔ s = front ++ rest ∧ byteCount front = n := by
  fun_induction BsdStamp.cutBytes? n s generalizing front with
  | case1 s =>
    constructor
    · intro h
      cases h
      exact ⟨rfl, rfl⟩
    · rintro ⟨rfl, hcount⟩
      cases front with
      | nil => rfl
      | cons c front =>
        have hpos := c.utf8Size_pos
        simp only [byteCount] at hcount
        omega
  | case2 n =>
    refine ⟨nofun, ?_⟩
    rintro ⟨hnil, hcount⟩
    obtain ⟨rfl, -⟩ := List.append_eq_nil_iff.1 hnil.symm
    cases hcount
  | case3 n c s hfits ih =>
    rw [Option.map_eq_some_iff]
    constructor
    · rintro ⟨⟨front', rest'⟩, hcut, hpair⟩
      cases hpair
      obtain ⟨rfl, hcount⟩ := ih.1 hcut
      refine ⟨rfl, ?_⟩
      simp only [byteCount] at hcount ⊢
      omega
    · rintro ⟨hsplit, hcount⟩
      cases front with
      | nil => cases hcount
      | cons d front =>
        obtain ⟨rfl, rfl⟩ := List.cons.inj hsplit
        refine ⟨(front, rest), ih.2 ⟨rfl, ?_⟩, rfl⟩
        simp only [byteCount] at hcount ⊢
        omega
  | case4 n c s hlong =>
    refine ⟨nofun, ?_⟩
    rintro ⟨hsplit, hcount⟩
    cases front with
    | nil => cases hcount
    | cons d front =>
      obtain ⟨rfl, -⟩ := List.cons.inj hsplit
      simp only [byteCount] at hcount
      omega

/-- Only texts that start with a stamp have something after it. -/
theorem after?_eq_some_iff {s rest : List Char} :
    BsdStamp.after? s = some rest ↔ ∃ stamp : Stamp, s = stamp.chars ++ rest := by
  unfold BsdStamp.after?
  constructor
  · intro h
    split at h
    · rename_i front behind hcut
      obtain ⟨rfl, hcount⟩ := cutBytes?_eq_some_iff.1 hcut
      obtain ⟨hstamp, hrest⟩ := Option.ite_none_right_eq_some.1 h
      cases hrest
      exact ⟨⟨front, hcount, hstamp⟩, rfl⟩
    · cases h
  · rintro ⟨stamp, rfl⟩
    rw [cutBytes?_eq_some_iff.2 ⟨rfl, stamp.byteCount_eq⟩]
    exact if_pos stamp.isStamp

/-! ## Hostnames -/

/-- A hostname: a word that is not empty. -/
structure HostName extends HeaderWord where
  /-- There is a character. -/
  ne_nil : chars ≠ []

/-- How the text behind a priority divides into the hostname and what follows it. -/
inductive Origin (text : List Char) : List Char → List Char → Prop
  /-- Where no stamp stands in front, no host is named, and nothing is taken off. -/
  | unstamped (hnone : ∀ (stamp : Stamp) (rest : List Char), text ≠ stamp.chars ++ rest) :
      Origin text [] text
  /-- The hostname stands behind the stamp and any number of spaces, and one space ends it. -/
  | stamped (stamp : Stamp) (spaces : Nat) (host : HostName) (rest : List Char)
      (htext : text = stamp.chars ++ (List.replicate spaces ' ' ++ host.before rest)) :
      Origin text host.chars rest
  /-- The hostname ends the text. -/
  | last (stamp : Stamp) (spaces : Nat) (host : HostName)
      (htext : text = stamp.chars ++ (List.replicate spaces ' ' ++ host.chars)) :
      Origin text host.chars []

/-- A hostname does not start with a space. -/
theorem HostName.head?_append_ne (host : HostName) (rest : List Char) :
    (host.chars ++ rest).head? ≠ some ' ' := by
  obtain ⟨⟨chars, hspace⟩, hne⟩ := host
  cases chars with
  | nil => exact absurd rfl hne
  | cons c chars =>
    intro hc
    cases hc
    exact hspace (.head _)

/-- All spaces in front of a hostname are left out. -/
theorem dropWhile_spaces_append (spaces : Nat) (host : HostName) (rest : List Char) :
    (List.replicate spaces ' ' ++ (host.chars ++ rest)).dropWhile (· = ' ') =
      host.chars ++ rest := by
  rw [List.dropWhile_append_of_pos fun c hc => decide_eq_true (List.eq_of_mem_replicate hc)]
  have hhead := host.head?_append_ne rest
  cases hname : host.chars ++ rest with
  | nil => rfl
  | cons c name =>
    rw [hname] at hhead
    exact List.dropWhile_cons_of_neg (by simpa using hhead)

/-- What is left out in front of a hostname are spaces. -/
theorem exists_spaces (text : List Char) :
    ∃ spaces, List.replicate spaces ' ' ++ text.dropWhile (· = ' ') = text := by
  have hspaces : text.takeWhile (· = ' ') =
      List.replicate (text.takeWhile (· = ' ')).length ' ' := by
    refine List.eq_replicate_iff.2 ⟨rfl, fun c hc => ?_⟩
    exact of_decide_eq_true (List.all_eq_true.1 List.all_takeWhile c hc)
  refine ⟨(text.takeWhile (· = ' ')).length, ?_⟩
  rw [← hspaces, List.takeWhile_append_dropWhile]

/-- A text without a cut at a character does not hold it. -/
theorem splitAt?_char_eq_none_iff {c : Char} {s : List Char} :
    splitAt? (· = c) s = none ↔ c ∉ s := by
  induction s with
  | nil => simp [splitAt?]
  | cons d s ih =>
    rw [splitAt?, List.mem_cons, not_or, eq_comm (a := c)]
    by_cases hd : d = c
    · simp [hd]
    · simpa [hd] using ih

/-- Where a text does not start with a space, a hostname is read up to its space or to the end. -/
theorem word_eq_ok_iff_hostName {field : String} {text host rest : List Char}
    (hhead : text.head? ≠ some ' ') :
    word field text = .ok (host, rest) ↔ ∃ h : HostName, h.chars = host ∧
      (text = h.before rest ∨ text = h.chars ∧ rest = []) := by
  cases text with
  | nil =>
    refine ⟨nofun, ?_⟩
    rintro ⟨h, -, hbefore | ⟨hlast, -⟩⟩
    · exact absurd hbefore.symm (h.before_ne_nil rest)
    · exact absurd hlast.symm h.ne_nil
  | cons c text =>
    have hword : word field (c :: text) =
        .ok ((splitAt? (· = ' ') (c :: text)).getD (c :: text, [])) := rfl
    rw [hword, Except.ok.injEq]
    cases hcut : splitAt? (· = ' ') (c :: text) with
    | none =>
      -- without a space the whole text is the hostname
      have hspace : ' ' ∉ c :: text := splitAt?_char_eq_none_iff.1 hcut
      constructor
      · intro h
        cases h
        exact ⟨⟨⟨c :: text, hspace⟩, List.cons_ne_nil _ _⟩, rfl, .inr ⟨rfl, rfl⟩⟩
      · rintro ⟨h, rfl, hbefore | ⟨hlast, rfl⟩⟩
        · -- a space would be a cut
          rw [hbefore] at hspace
          exact absurd (List.mem_append_right _ (.head _)) hspace
        · rw [hlast]
          rfl
    | some cut =>
      obtain ⟨before, after⟩ := cut
      obtain ⟨hsplit, hspace⟩ := splitAt?_char_eq_some_iff.1 hcut
      constructor
      · intro h
        cases h
        refine ⟨⟨⟨host, hspace⟩, ?_⟩, rfl, .inl hsplit⟩
        -- an empty hostname would leave a space in front
        rintro rfl
        exact hhead (congrArg List.head? hsplit)
      · rintro ⟨h, rfl, hbefore | ⟨hlast, -⟩⟩
        · rw [splitAt?_char_eq_some_iff.2 ⟨hbefore, h.no_space⟩] at hcut
          exact (Option.some.inj hcut).symm
        · have hmem : ' ' ∈ h.chars := by simp [← hlast, hsplit]
          exact absurd hmem h.no_space

/-- The stamp and the hostname are split off exactly as the text divides. -/
theorem splitHost_eq_ok_iff {text host rest : List Char} :
    splitHost text = .ok (host, rest) ↔ Origin text host rest := by
  -- behind a stamp the reader of hostnames takes over
  have hread (stamp : Stamp) (behind : List Char) : splitHost (stamp.chars ++ behind) =
      word "hostname" (behind.dropWhile (· = ' ')) := by
    rw [splitHost, after?_eq_some_iff.2 ⟨stamp, rfl⟩]
  constructor
  · intro h
    cases hstamp : BsdStamp.after? text with
    | none =>
      rw [splitHost, hstamp] at h
      cases h
      refine .unstamped fun stamp rest htext => ?_
      cases hstamp.symm.trans (after?_eq_some_iff.2 ⟨stamp, htext⟩)
    | some behind =>
      obtain ⟨stamp, rfl⟩ := after?_eq_some_iff.1 hstamp
      obtain ⟨spaces, hspaces⟩ := exists_spaces behind
      have hhead : (behind.dropWhile (· = ' ')).head? ≠ some ' ' := by
        intro hsome
        have hnot := List.head?_dropWhile_not (· = ' ') behind
        simp [hsome] at hnot
      rw [hread, word_eq_ok_iff_hostName hhead] at h
      obtain ⟨name, rfl, hbefore | ⟨hlast, rfl⟩⟩ := h
      · exact .stamped stamp spaces name rest (by rw [← hbefore, hspaces])
      · exact .last stamp spaces name (by rw [← hlast, hspaces])
  · intro h
    cases h with
    | unstamped hnone =>
      have hstamp : BsdStamp.after? text = none := by
        refine Option.eq_none_iff_forall_not_mem.2 fun rest hrest => ?_
        obtain ⟨stamp, htext⟩ := after?_eq_some_iff.1 hrest
        exact hnone stamp rest htext
      rw [splitHost, hstamp]
    | stamped stamp spaces host rest htext =>
      rw [htext, hread, HeaderWord.before, dropWhile_spaces_append,
        word_eq_ok_iff_hostName (host.head?_append_ne _)]
      exact ⟨host, rfl, .inl rfl⟩
    | last stamp spaces host htext =>
      have hdrop := dropWhile_spaces_append spaces host []
      have hhead := host.head?_append_ne []
      rw [List.append_nil] at hdrop hhead
      rw [htext, hread, hdrop, word_eq_ok_iff_hostName hhead]
      exact ⟨host, rfl, .inr ⟨rfl, rfl⟩⟩

/-! ## Tags -/

/-- A tag. -/
structure Tag where
  /-- The characters. -/
  chars : List Char
  /-- They are letters, digits and a few signs. -/
  all_tagChars : ∀ c ∈ chars, isTagChar c = true
  /-- There is one. -/
  ne_nil : chars ≠ []
  /-- There are at most 32. -/
  length_le : chars.length ≤ maxTagLength

/-- A process id. It may be empty. -/
structure ProcessId where
  /-- The characters. -/
  chars : List Char
  /-- The bracket that ends it is none of them. -/
  no_bracket : ']' ∉ chars

/-- A process id in its brackets, if there is one. -/
def bracketed : Option ProcessId → List Char
  | none => []
  | some id => '[' :: (id.chars ++ [']'])

/-- A character, if it is there. -/
def optionally (present : Bool) (c : Char) : List Char :=
  if present then [c] else []

/-- What marks a tag off from the text behind it. -/
structure Separator where
  /-- The process id. -/
  processId : Option ProcessId
  /-- Whether there is a colon. -/
  colon : Bool
  /-- Whether there is a space. -/
  space : Bool
  /-- The process id or the colon is there. -/
  marked : processId.isSome = true ∨ colon = true

/-- A separator as it is written. -/
def Separator.text (s : Separator) : List Char :=
  bracketed s.processId ++ (optionally s.colon ':' ++ optionally s.space ' ')

/-- The body starts with nothing that the separator could have taken. -/
structure Separator.Exhausts (s : Separator) (body : List Char) : Prop where
  colon : s.colon = false → (optionally s.space ' ' ++ body).head? ≠ some ':'
  space : s.space = false → body.head? ≠ some ' '

/-- How a text divides into the tag in front of it and the body. -/
inductive Tagging (text : List Char) : List Char → List Char → Prop
  /-- Where no tag is marked off, the whole text is the body. -/
  | untagged (hnone : ∀ (tag : Tag) (s : Separator) (body : List Char),
      text ≠ tag.chars ++ (s.text ++ body)) : Tagging text [] text
  /-- A tag is all of the characters in front that a tag can have, up to its separator. -/
  | tagged (tag : Tag) (s : Separator) (body : List Char)
      (htext : text = tag.chars ++ (s.text ++ body))
      (hlongest : text.takeWhile isTagChar = tag.chars) (hall : s.Exhausts body) :
      Tagging text tag.chars body

/-- An optional character is taken if it is there. -/
theorem dropOptional_eq_iff {c : Char} {s rest : List Char} :
    dropOptional c s = rest ↔
      ∃ present, s = optionally present c ++ rest ∧ (present = false → rest.head? ≠ some c) := by
  unfold dropOptional
  cases hafter : afterChar? c s with
  | some after =>
    obtain rfl := afterChar?_eq_some_iff.1 hafter
    constructor
    · rintro rfl
      exact ⟨true, rfl, nofun⟩
    · rintro ⟨present, hs, habsent⟩
      cases present with
      | true => exact (List.cons.inj hs).2
      | false => exact absurd (congrArg List.head? hs).symm (habsent rfl)
  | none =>
    constructor
    · rintro rfl
      refine ⟨false, rfl, fun _ hhead => ?_⟩
      obtain ⟨after, rfl⟩ := List.head?_eq_some_iff.1 hhead
      cases hafter.symm.trans (afterChar?_eq_some_iff.2 rfl)
    · rintro ⟨present, rfl, -⟩
      cases present with
      | true => cases hafter.symm.trans (afterChar?_eq_some_iff.2 rfl)
      | false => rfl

/-- A tag is marked off by a process id or by a colon. -/
theorem afterProcessId?_eq_some_iff {s rest : List Char} :
    afterProcessId? s = some rest ↔ ∃ id : Option ProcessId,
      s = bracketed id ++ rest ∧ (id.isSome = true ∨ rest.head? = some ':') := by
  constructor
  · intro h
    unfold afterProcessId? at h
    split at h
    · obtain ⟨⟨before, after⟩, hcut, hafter⟩ := Option.map_eq_some_iff.1 h
      cases hafter
      obtain ⟨rfl, hbracket⟩ := splitAt?_char_eq_some_iff.1 hcut
      exact ⟨some ⟨before, hbracket⟩, by simp [bracketed], .inl rfl⟩
    · cases h
      exact ⟨none, rfl, .inr rfl⟩
    · cases h
  · rintro ⟨id, rfl, hmarked⟩
    cases id with
    | none =>
      obtain ⟨after, rfl⟩ := List.head?_eq_some_iff.1 (hmarked.resolve_left nofun)
      rfl
    | some id =>
      have hcut : splitAt? (· = ']') (id.chars ++ ']' :: rest) = some (id.chars, rest) :=
        splitAt?_char_eq_some_iff.2 ⟨rfl, id.no_bracket⟩
      simp only [bracketed, List.cons_append, List.append_assoc, List.nil_append, afterProcessId?,
        hcut, Option.map_some]

/-- Behind a tag its separator is found. -/
theorem afterProcessId?_separator (s : Separator) (body : List Char) :
    afterProcessId? (s.text ++ body) =
      some (optionally s.colon ':' ++ (optionally s.space ' ' ++ body)) := by
  refine afterProcessId?_eq_some_iff.2 ⟨s.processId, ?_, ?_⟩
  · rw [Separator.text, List.append_assoc, List.append_assoc]
  · refine s.marked.imp_right fun hcolon => ?_
    rw [hcolon]
    rfl

/-- What follows the characters of a tag divides into its separator and the body. -/
theorem body_eq_iff {s body : List Char} :
    (∃ rest, afterProcessId? s = some rest ∧ dropOptional ' ' (dropOptional ':' rest) = body) ↔
      ∃ sep : Separator, s = sep.text ++ body ∧ sep.Exhausts body := by
  constructor
  · rintro ⟨rest, hrest, hbody⟩
    obtain ⟨id, rfl, hmarked⟩ := afterProcessId?_eq_some_iff.1 hrest
    obtain ⟨space, hspace, hnospace⟩ := dropOptional_eq_iff.1 hbody
    obtain ⟨colon, rfl, hnocolon⟩ := dropOptional_eq_iff.1 hspace
    -- a colon that marks the tag off is one that was taken
    have hseparated : id.isSome = true ∨ colon = true := by
      refine hmarked.imp_right fun hhead => ?_
      cases colon with
      | true => rfl
      | false => exact absurd hhead (hnocolon rfl)
    refine ⟨⟨id, colon, space, hseparated⟩, ?_, hnocolon, hnospace⟩
    rw [Separator.text, List.append_assoc, List.append_assoc]
  · rintro ⟨sep, rfl, hall⟩
    refine ⟨_, afterProcessId?_separator sep body, ?_⟩
    rw [dropOptional_eq_iff.2 ⟨sep.colon, rfl, hall.colon⟩]
    exact dropOptional_eq_iff.2 ⟨sep.space, rfl, hall.space⟩

/-- A separator ends the tag in front of it. -/
theorem takeWhile_tag_append (tag : Tag) (s : Separator) (body : List Char) :
    (tag.chars ++ (s.text ++ body)).takeWhile isTagChar = tag.chars := by
  refine takeWhile_append_of_head? tag.all_tagChars fun c hc => ?_
  -- the separator starts with a bracket or a colon, and neither is a character of a tag
  obtain ⟨id, colon, space, hmarked⟩ := s
  cases id with
  | some id =>
    cases hc
    rfl
  | none =>
    obtain rfl : colon = true := hmarked.resolve_left nofun
    cases hc
    rfl

/-- A text that starts with a tag is split behind it. -/
theorem splitTag_of_takeWhile {tag : Tag} {rest : List Char} {text : List Char}
    (htext : text = tag.chars ++ rest) (htag : text.takeWhile isTagChar = tag.chars) :
    splitTag text = match afterProcessId? rest with
      | some rest => (tag.chars, dropOptional ' ' (dropOptional ':' rest))
      | none => ([], text) := by
  have hsize : (tag.chars.isEmpty || maxTagLength < tag.chars.length) = false := by
    simp [tag.ne_nil, tag.length_le]
  have hrest : text.drop tag.chars.length = rest := by rw [htext, List.drop_left]
  simp only [splitTag, htag, hsize, hrest]
  rfl

/-- Where no tag is marked off, none is split off. -/
theorem splitTag_of_untagged {text : List Char}
    (hnone : ∀ (tag : Tag) (s : Separator) (body : List Char),
      text ≠ tag.chars ++ (s.text ++ body)) : splitTag text = ([], text) := by
  by_cases hsize : text.takeWhile isTagChar ≠ [] ∧
      (text.takeWhile isTagChar).length ≤ maxTagLength
  · let tag : Tag := ⟨text.takeWhile isTagChar,
      fun c hc => List.all_eq_true.1 List.all_takeWhile c hc, hsize.1, hsize.2⟩
    have htext : text = tag.chars ++ text.dropWhile isTagChar :=
      List.takeWhile_append_dropWhile.symm
    rw [splitTag_of_takeWhile htext rfl]
    cases hrest : afterProcessId? (text.dropWhile isTagChar) with
    | none => rfl
    | some rest =>
      obtain ⟨s, hs, -⟩ := body_eq_iff.1 ⟨rest, hrest, rfl⟩
      exact absurd (hs ▸ htext) (hnone tag s _)
  · -- the run of characters is empty or too long
    have hno : ((text.takeWhile isTagChar).isEmpty ||
        maxTagLength < (text.takeWhile isTagChar).length) = true := by
      rw [Bool.or_eq_true, List.isEmpty_iff, decide_eq_true_eq, ← Nat.not_le]
      exact (Decidable.not_and_iff_not_or_not.1 hsize).imp_left Decidable.not_not.1
    simp only [splitTag, hno, if_true]

/-- Every text divides. -/
theorem exists_tagging (text : List Char) : ∃ tag body, Tagging text tag body := by
  by_cases h : ∃ (tag : Tag) (s : Separator) (body : List Char),
      text = tag.chars ++ (s.text ++ body)
  · obtain ⟨tag, s, body, htext⟩ := h
    -- the separator takes what it can
    obtain ⟨s', hs', hall⟩ := body_eq_iff.1 ⟨_, afterProcessId?_separator s body, rfl⟩
    rw [hs'] at htext
    refine ⟨_, _, .tagged tag s' _ htext ?_ hall⟩
    rw [htext, takeWhile_tag_append]
  · refine ⟨_, _, .untagged fun tag s body htext => ?_⟩
    exact h ⟨tag, s, body, htext⟩

/-- The tag is split off exactly as the text divides. -/
theorem splitTag_eq_iff {text tag body : List Char} :
    splitTag text = (tag, body) ↔ Tagging text tag body := by
  have hsplit {tag body : List Char} (h : Tagging text tag body) : splitTag text = (tag, body) := by
    cases h with
    | untagged hnone => exact splitTag_of_untagged hnone
    | tagged tag s body htext hlongest hall =>
      obtain ⟨rest, hrest, hbody⟩ := body_eq_iff.2 ⟨s, rfl, hall⟩
      rw [splitTag_of_takeWhile htext hlongest, hrest]
      exact congrArg _ hbody
  constructor
  · intro h
    -- the text divides somehow, and where it does it is split
    obtain ⟨tag', body', htagging⟩ := exists_tagging text
    cases h.symm.trans (hsplit htagging)
    exact htagging
  · exact hsplit

/-! ## Messages -/

/-- What the parts of a message say about it. -/
structure Describes (priority : PriorityDigits) (host tag body : List Char) (received : Instant)
    (m : Message) : Prop where
  /-- The codes of facility and severity make up the priority. -/
  priority : m.facility.code * 8 + m.severity.code = Decimal.value priority.digits
  /-- The time is when the message was received, whatever the stamp. -/
  timestamp : m.timestamp = received
  hostname : m.hostname = String.ofList host
  appName : m.appName = String.ofList tag
  body : m.body = String.ofList body
  /-- It is a message of this dialect. -/
  dialect : m.dialect = .rfc3164

/-- A text reads as a message: behind its priority it divides into host, tag and body, and these say
what the message is. -/
def Reads (text : List Char) (received : Instant) (m : Message) : Prop :=
  ∃ (priority : PriorityDigits) (rest host remainder tag body : List Char),
    text = '<' :: (priority.digits ++ '>' :: rest) ∧ Origin rest host remainder ∧
      Tagging remainder tag body ∧ Describes priority host tag body received m

/-- The parser returns a message exactly where the text reads as this message. -/
theorem parse_eq_ok_iff {text : List Char} {received : Instant} {m : Message} :
    parse text received = .ok m ↔ Reads text received m := by
  unfold parse
  simp only [Rfc5424.bind_eq_ok_iff, Prod.exists]
  constructor
  · rintro ⟨facility, severity, rest, hpriority, host, remainder, hhost, hmessage⟩
    obtain ⟨priority, rfl, hcodes⟩ := splitPriority_eq_ok_iff.1 hpriority
    obtain rfl := Except.ok.inj hmessage
    exact ⟨priority, rest, host, remainder, _, _, rfl, splitHost_eq_ok_iff.1 hhost,
      splitTag_eq_iff.1 rfl, hcodes, rfl, rfl, rfl, rfl, rfl⟩
  · rintro ⟨priority, rest, host, remainder, tag, body, rfl, horigin, htagging, hm⟩
    refine ⟨m.facility, m.severity, rest, splitPriority_eq_ok_iff.2 ⟨priority, rfl, hm.priority⟩,
      host, remainder, splitHost_eq_ok_iff.2 horigin, ?_⟩
    rw [splitTag_eq_iff.2 htagging]
    obtain ⟨timestamp, hostname, severity, facility, appName, body, dialect⟩ := m
    obtain ⟨-, rfl, rfl, rfl, rfl, rfl⟩ := hm
    rfl

/-- A message in full form. -/
structure FullForm where
  /-- The priority. -/
  priority : PriorityDigits
  /-- The stamp. -/
  stamp : Stamp
  /-- The hostname. -/
  host : HostName
  /-- The tag. -/
  tag : Tag
  /-- The process id, if there is one. -/
  processId : Option ProcessId
  /-- The body. -/
  body : List Char

/-- The separator of the full form: a colon and a space, behind the process id if there is one. -/
def FullForm.separator (f : FullForm) : Separator :=
  ⟨f.processId, true, true, .inr rfl⟩

/-- What stands behind the priority in the full form: `STAMP HOST TAG[PID]: MSG`. -/
def FullForm.afterPriority (f : FullForm) : List Char :=
  f.stamp.chars ++ ' ' :: f.host.chars ++ ' ' :: f.tag.chars ++ bracketed f.processId ++
    ':' :: ' ' :: f.body

/-- A message in full form as it is written. -/
def FullForm.text (f : FullForm) : List Char :=
  '<' :: f.priority.digits ++ '>' :: f.afterPriority

/-- The full form divides into its parts. -/
theorem FullForm.divides (f : FullForm) :
    Origin f.afterPriority f.host.chars (f.tag.chars ++ (f.separator.text ++ f.body)) ∧
      Tagging (f.tag.chars ++ (f.separator.text ++ f.body)) f.tag.chars f.body := by
  constructor
  · refine .stamped f.stamp 1 f.host _ ?_
    simp [afterPriority, HeaderWord.before, separator, Separator.text, optionally]
  · exact .tagged f.tag f.separator f.body rfl (takeWhile_tag_append ..)
      ⟨fun h => Bool.noConfusion h, fun h => Bool.noConfusion h⟩

/-- Nothing of a text is lost, and what a sender wrote is recovered:

* the parser returns a message exactly where the text reads as this message, so every character
  behind the priority belongs to the stamp, the spaces around the hostname, the hostname, the tag,
  its separator or the body;
* a message in full form is accepted, and host, tag and body are those that were written, whatever
  characters the body holds. -/
theorem written_message_recovered :
    (∀ text received m, parse text received = .ok m ↔ Reads text received m) ∧
      ∀ (f : FullForm) (received : Instant), ∃ m, parse f.text received = .ok m ∧
        Describes f.priority f.host.chars f.tag.chars f.body received m := by
  refine ⟨fun text received m => parse_eq_ok_iff, fun f received => ?_⟩
  obtain ⟨facility, severity, hcodes⟩ := exists_codes f.priority.value_le
  have hm : Describes f.priority f.host.chars f.tag.chars f.body received
      ⟨received, _, severity, facility, _, _, .rfc3164⟩ := ⟨hcodes, rfl, rfl, rfl, rfl, rfl⟩
  obtain ⟨horigin, htagging⟩ := f.divides
  exact ⟨_, parse_eq_ok_iff.2 ⟨f.priority, _, _, _, _, _, rfl, horigin, htagging, hm⟩, hm⟩

/-- A process id without its closing bracket marks no tag off, so it is part of the body. -/
example : splitTag "su[1: x".toList = ([], "su[1: x".toList) := by decide

end SyslogCollector.Syslog.Rfc3164
