import SyslogCollector.Proofs.Syslog.Header
import SyslogCollector.Proofs.Syslog.Slices
import SyslogCollector.Proofs.Syslog.StructuredData
import SyslogCollector.Syslog.Mode
/-!
# Reading a frame at byte positions

The readers of a frame take a text apart word by word. The same readers are written down here as
they go over the bytes of the text: they look for a byte, and cut the text where they have found it
or behind it. A cut that the text does not have would stop them dead, without a message and without
a complaint. No frame has such a cut: the readers yield what the readers of words yield
(`parse_never_stops`).

The scan of structured data is the one that might go wrong, since after a backslash it leaves out
one byte, which may be the first of several bytes of a character. It goes on inside this character
then, but no byte in there means anything to it, so it stands between two characters whenever it
stops (`measures_elementLength?`).
-/

namespace SyslogCollector.Syslog.Bytewise

open Text
open Rfc3164 (byteCount)
open Utf8 (isAscii isAsciiByte)

/-! ## Attempts -/

/-- An attempt to read: it stops dead, or comes to its end with what was read or with the complaint
about it. -/
abbrev Attempt := ExceptT ParseError Option

section

variable {α β : Type}

/-- An attempt that comes to its end with this outcome. -/
def Yields (x : Attempt α) (outcome : Except ParseError α) : Prop :=
  x.run = some outcome

/-- The attempt of a reader that cuts nothing. -/
def Attempt.settled (outcome : Except ParseError α) : Attempt α :=
  ExceptT.mk (some outcome)

theorem yields_settled (outcome : Except ParseError α) : Yields (.settled outcome) outcome := rfl

theorem yields_ok (a : α) : Yields (pure a) (.ok a) := rfl

theorem yields_error (e : ParseError) : Yields (throw e : Attempt α) (.error e) := rfl

/-- An attempt in two steps comes to its end if both do. -/
theorem Yields.bind {x : Attempt α} {outcome : Except ParseError α} {f : α → Attempt β}
    {g : α → Except ParseError β} (hx : Yields x outcome) (hf : ∀ a, Yields (f a) (g a)) :
    Yields (x >>= f) (outcome >>= g) := by
  unfold Yields at hx ⊢
  rw [ExceptT.run_bind, hx]
  cases outcome with
  | ok a => exact hf a
  | error e => rfl

/-- An attempt goes on behind a cut that the text has. -/
theorem Yields.cut {cut? : Option α} {a : α} {f : α → Attempt β} {outcome : Except ParseError β}
    (hcut : cut? = some a) (hf : Yields (f a) outcome) :
    Yields ((liftM cut? : Attempt α) >>= f) outcome := by
  subst hcut
  exact hf

end

/-! ## The readers -/

/-- Splits the priority header off a message. -/
def splitPriority (text : List Char) : Attempt (Facility × Severity × List Char) :=
  match afterChar? '<' text with
  | none => throw .invalidPriority
  | some rest =>
    match find? '>' rest with
    | none => throw .invalidPriority
    | some stop => do
      let digits ← upTo? stop rest
      if digits.isEmpty || 3 < (bytes digits).length ||
          !(bytes digits).all (ofClass Char.isDigit) then
        throw .invalidPriority
      else
        let value := Decimal.value digits
        if maxPriority < value then throw (.priorityOutOfRange value)
        else match Facility.ofCode? (value / 8), Severity.ofCode? (value % 8) with
          | some facility, some severity => do
            let rest ← from? (stop + 1) rest
            return (facility, severity, rest)
          | _, _ => throw (.priorityOutOfRange value)

/-- The next word of a header, or the complaint that the named field is missing. -/
def word (field : String) (text : List Char) : Attempt (List Char × List Char) :=
  if text.isEmpty then throw (.missingField field)
  else match find? ' ' text with
    | some stop => do
      let chars ← upTo? stop text
      let rest ← from? (stop + 1) text
      return (chars, rest)
    | none => return (text, [])

/-- Whether a text starts with a stamp. -/
def hasStamp (text : List Char) : Bool :=
  match upTo? BsdStamp.size text with
  | none => false
  | some front => BsdStamp.isStamp front

/-- The hostname after a stamp, and the rest. -/
def splitHost (text : List Char) : Attempt (List Char × List Char) :=
  if hasStamp text then do
    let rest ← from? BsdStamp.size text
    word "hostname" (rest.dropWhile (· = ' '))
  else return ([], text)

/-- What stands after the tag, behind the brackets of a process id if there is one. -/
def afterProcessId (text : List Char) : Option (Option (List Char)) :=
  if text.head? = some '[' then
    match find? ']' text with
    | some stop => (from? (stop + 1) text).map some
    | none => some none
  else if text.head? = some ':' then some (some text) else some none

/-- Splits `TAG[PID]: MSG` into tag and text. -/
def splitTag (text : List Char) : Option (List Char × List Char) :=
  let length := ((bytes text).takeWhile (ofClass Rfc3164.isTagChar)).length
  if length = 0 || Rfc3164.maxTagLength < length then some ([], text)
  else do
    let tag ← upTo? length text
    let after ← from? length text
    match ← afterProcessId after with
    | some rest => return (tag, Rfc3164.dropOptional ' ' (Rfc3164.dropOptional ':' rest))
    | none => return ([], text)

/-- Reads a message of the BSD dialect. -/
def parseBsd (text : List Char) (received : Instant) : Attempt Message := do
  let (facility, severity, rest) ← splitPriority text
  let (host, rest) ← splitHost rest
  let (tag, body) ← splitTag rest
  return {
    timestamp := received
    hostname := String.ofList host
    severity
    facility
    appName := String.ofList tag
    body := String.ofList body
    dialect := .rfc3164 }

/-- Where the scan of an element stands after one more byte; the bracket that closes the element
ends it. -/
def next? : Rfc5424.Scan → UInt8 → Option Rfc5424.Scan
  | .plain, b =>
    if b = ']'.toUInt8 then none else if b = '"'.toUInt8 then some .quoted else some .plain
  | .quoted, b =>
    if b = '\\'.toUInt8 then some .escaped else if b = '"'.toUInt8 then some .plain else some .quoted
  | .escaped, _ => some .quoted

/-- How many bytes an element has whose opening bracket has been read. -/
def elementLength? : Rfc5424.Scan → List UInt8 → Option Nat
  | _, [] => none
  | scan, b :: rest =>
    match next? scan b with
    | none => some 1
    | some scan => (elementLength? scan rest).map (1 + ·)

/-- How many bytes the elements in front have. -/
def elementsLength? : List UInt8 → Option Nat
  | [] => some 0
  | b :: rest =>
    if b = '['.toUInt8 then
      match elementLength? .plain rest with
      | some length => (elementsLength? (rest.drop length)).map (1 + length + ·)
      | none => none
    else some 0
  termination_by bytes => bytes.length
  decreasing_by
    rw [List.length_drop, List.length_cons]
    omega

/-- The text behind structured data that ends at a byte position: nothing, or what stands after one
space. -/
def bodyFrom (stop : Nat) (text : List Char) : Attempt (List Char) :=
  match (bytes text)[stop]? with
  | none => return []
  | some b => if b = ' '.toUInt8 then from? (stop + 1) text else throw .invalidStructuredData

/-- Leaves out the structured data. -/
def skipStructuredData (text : List Char) : Attempt (List Char) :=
  if text.isEmpty then throw (.missingField "structured-data")
  else match afterChar? '-' text with
    | some rest => bodyFrom 0 rest
    | none =>
      match elementsLength? (bytes text) with
      | none => throw .invalidStructuredData
      | some stop => if stop = 0 then throw .invalidStructuredData else bodyFrom stop text

/-- Reads a message of the IETF dialect. -/
def parseIetf (text : List Char) (received : Instant) : Attempt Message := do
  let (facility, severity, rest) ← splitPriority text
  let (version, rest) ← word "version" rest
  if version ≠ ['1'] then throw (.unsupportedVersion (String.ofList version))
  let (stamp, rest) ← word "timestamp" rest
  let timestamp ← Attempt.settled (Rfc5424.readTimestamp stamp received)
  let (host, rest) ← word "hostname" rest
  let (app, rest) ← word "app-name" rest
  let (_, rest) ← word "procid" rest
  let (_, rest) ← word "msgid" rest
  let body ← skipStructuredData rest
  return {
    timestamp
    hostname := Rfc5424.field host
    severity
    facility
    appName := Rfc5424.field app
    body := String.ofList ((afterChar? Rfc5424.byteOrderMark body).getD body)
    dialect := .rfc5424 }

/-- Whether a version number follows the first `>`. Only where there is a digit is the first one
looked at. -/
def looksLikeRfc5424 (text : List Char) : Option Bool :=
  match find? '>' text with
  | none => some false
  | some stop =>
    if (bytes text).length < stop + 1 then none
    else
      let after := (bytes text).drop (stop + 1)
      let digits := (after.takeWhile (ofClass Char.isDigit)).length
      if 1 ≤ digits && digits ≤ 2 then
        after[0]?.map fun first => first != '0'.toUInt8 && after[digits]? == some ' '.toUInt8
      else some false

/-- Reads one frame. -/
def parse (frame : List UInt8) (mode : Mode) (received : Instant) : Attempt Message :=
  let text := trimEnd isTerminator (Utf8.decodeLossy frame)
  if text.isEmpty then throw .empty
  else match mode with
    | .rfc3164 => parseBsd text received
    | .rfc5424 => parseIetf text received
    | .automatic => do
      let ietf ← looksLikeRfc5424 text
      if ietf then parseIetf text received else parseBsd text received

/-! ## Headers -/

theorem isAscii_of_isDigit (c : Char) (h : c.isDigit = true) : isAscii c = true := by
  simp only [Char.isDigit, Bool.and_eq_true, decide_eq_true_eq, UInt32.le_iff_toNat_le] at h
  exact decide_eq_true (Nat.lt_of_le_of_lt h.2 (by decide))

/-- Three bytes of digits are three digits. -/
theorem digits_test_eq (digits : List Char) :
    (digits.isEmpty || decide (3 < (bytes digits).length) ||
        !(bytes digits).all (ofClass Char.isDigit)) =
      (digits.isEmpty || decide (3 < digits.length) || !digits.all Char.isDigit) := by
  rw [all_bytes isAscii_of_isDigit, length_bytes]
  cases hall : digits.all Char.isDigit with
  | false => simp
  | true => rw [byteCount_of_all isAscii_of_isDigit (List.all_eq_true.1 hall)]

theorem yields_splitPriority (text : List Char) :
    Yields (splitPriority text) (Syslog.splitPriority text) := by
  unfold splitPriority Syslog.splitPriority
  cases afterChar? '<' text with
  | none => exact yields_error _
  | some rest =>
    dsimp only
    rw [find?_eq]
    cases hcut : splitAt? (· = '>') rest with
    | none => exact yields_error _
    | some cut =>
      obtain ⟨digits, behind⟩ := cut
      obtain ⟨rfl, -⟩ := splitAt?_char_eq_some_iff.1 hcut
      -- the search stops where the digits end, so there is a cut there, and one behind the `>`
      refine .cut (upTo?_byteCount digits _) ?_
      dsimp only
      rw [digits_test_eq]
      split
      · exact yields_error _
      · split
        · exact yields_error _
        · cases Facility.ofCode? (Decimal.value digits / 8) with
          | none => exact yields_error _
          | some facility =>
            cases Severity.ofCode? (Decimal.value digits % 8) with
            | none => exact yields_error _
            | some severity =>
              exact .cut (from?_byteCount_succ (by decide) digits behind) (yields_ok _)

theorem yields_word (field : String) (text : List Char) :
    Yields (word field text) (Syslog.word field text) := by
  unfold word Syslog.word nextWord?
  rw [find?_eq]
  cases text.isEmpty with
  | true => exact yields_error _
  | false =>
    cases hcut : splitAt? (· = ' ') text with
    | none => exact yields_ok _
    | some cut =>
      obtain ⟨chars, rest⟩ := cut
      obtain ⟨rfl, -⟩ := splitAt?_char_eq_some_iff.1 hcut
      exact .cut (upTo?_byteCount chars _)
        (.cut (from?_byteCount_succ (by decide) chars rest) (yields_ok _))

/-! ## The BSD dialect -/

theorem yields_splitHost (text : List Char) :
    Yields (splitHost text) (Rfc3164.splitHost text) := by
  unfold splitHost hasStamp Rfc3164.splitHost BsdStamp.after? upTo? from?
  cases BsdStamp.cutBytes? BsdStamp.size text with
  | none => exact yields_ok _
  | some cut =>
    obtain ⟨front, rest⟩ := cut
    simp only [Option.map_some]
    cases BsdStamp.isStamp front with
    | false => exact yields_ok _
    | true => exact .cut rfl (yields_word _ _)

theorem isAscii_of_isTagChar (c : Char) (h : Rfc3164.isTagChar c = true) : isAscii c = true := by
  delta Rfc3164.isTagChar Char.isAlphanum Char.isAlpha Char.isUpper Char.isLower Char.isDigit at h
  simp only [Bool.or_eq_true, Bool.and_eq_true, decide_eq_true_eq, beq_iff_eq,
    UInt32.le_iff_toNat_le] at h
  rcases h with ((((((h | h) | h) | rfl) | rfl) | rfl) | rfl)
  all_goals first | decide | exact decide_eq_true (Nat.lt_of_le_of_lt h.2 (by decide))

theorem afterProcessId_eq (text : List Char) :
    afterProcessId text = some (Rfc3164.afterProcessId? text) := by
  unfold afterProcessId
  cases text with
  | nil => rfl
  | cons c s =>
    by_cases hbracket : c = '['
    · -- the opening bracket is no closing one, so the search may start at it
      subst hbracket
      have hsearch : splitAt? (· = ']') ('[' :: s) =
          (splitAt? (· = ']') s).map fun (before, after) => ('[' :: before, after) := rfl
      rw [List.head?_cons, if_pos rfl, find?_eq, Rfc3164.afterProcessId?, hsearch]
      cases hcut : splitAt? (· = ']') s with
      | none => rfl
      | some cut =>
        obtain ⟨id, rest⟩ := cut
        obtain ⟨rfl, -⟩ := splitAt?_char_eq_some_iff.1 hcut
        have hrest := from?_byteCount_succ (by decide) ('[' :: id) rest (c := ']')
        exact congrArg (Option.map some) hrest
    · by_cases hcolon : c = ':'
      · subst hcolon
        rfl
      · simp [hbracket, hcolon, Rfc3164.afterProcessId?]

theorem splitTag_eq (text : List Char) : splitTag text = some (Rfc3164.splitTag text) := by
  obtain ⟨tag, after, rfl, htag, hscan, hcount⟩ := exists_front_of_class isAscii_of_isTagChar text
  -- the tag has as many bytes as characters, so it ends where the scan of the bytes stops
  have hfront := upTo?_byteCount tag after
  have hafter := from?_byteCount tag after
  rw [hcount] at hfront hafter
  have hempty : decide (tag.length = 0) = tag.isEmpty := by
    cases tag <;> rfl
  unfold splitTag Rfc3164.splitTag
  dsimp only
  rw [hscan, htag, hempty, List.drop_left]
  split
  · -- the tag is empty or too long for one, and nothing is cut
    rfl
  · rw [hfront, hafter]
    simp only [Option.bind_eq_bind, Option.bind_some, afterProcessId_eq]
    cases Rfc3164.afterProcessId? after <;> rfl

theorem yields_parseBsd (text : List Char) (received : Instant) :
    Yields (parseBsd text received) (Rfc3164.parse text received) := by
  refine .bind (yields_splitPriority text) fun ⟨facility, severity, rest⟩ => ?_
  refine .bind (yields_splitHost rest) fun ⟨host, rest⟩ => ?_
  exact .cut (splitTag_eq rest) (yields_ok _)

/-! ## The IETF dialect -/

/-- What a scan of the bytes of a text finds where a scan of its characters leaves a rest: as many
bytes as stand in front of this rest. -/
inductive Measures (s : List Char) : Option (List Char) → Option Nat → Prop
  /-- Neither finds anything. -/
  | nothing : Measures s none none
  /-- The bytes are those in front of the rest. -/
  | front (front rest : List Char) (h : s = front ++ rest) :
      Measures s (some rest) (some (byteCount front))

theorem Measures.append {s : List Char} {rest? : Option (List Char)} {length? : Option Nat}
    (h : Measures s rest? length?) (more : List Char) :
    Measures (more ++ s) rest? (length?.map (byteCount more + ·)) := by
  cases h with
  | nothing => exact .nothing
  | front front rest h =>
    rw [Option.map_some, ← byteCount_append]
    exact .front (more ++ front) rest (by rw [h, List.append_assoc])

theorem Measures.cons {s : List Char} {rest? : Option (List Char)} {length? : Option Nat}
    (h : Measures s rest? length?) (c : Char) :
    Measures (c :: s) rest? (length?.map (c.utf8Size + ·)) :=
  h.append [c]

theorem elementLength?_cons {scan scan' : Rfc5424.Scan} {b : UInt8} (h : next? scan b = some scan')
    (rest : List UInt8) :
    elementLength? scan (b :: rest) = (elementLength? scan' rest).map (1 + ·) := by
  rw [elementLength?, h]

/-- The scan goes over bytes that leave it where it stands. -/
theorem elementLength?_append {scan : Rfc5424.Scan} {front : List UInt8}
    (h : ∀ b ∈ front, next? scan b = some scan) (rest : List UInt8) :
    elementLength? scan (front ++ rest) = (elementLength? scan rest).map (front.length + ·) := by
  induction front with
  | nil => simp
  | cons b front ih =>
    rw [List.cons_append, elementLength?_cons (h b List.mem_cons_self),
      ih fun d hd => h d (List.mem_cons_of_mem b hd), Option.map_map]
    congr 1
    funext n
    simp only [Function.comp_apply, List.length_cons]
    omega

/-- A character that leaves the scan where it stands counts with its bytes. -/
theorem elementLength?_bytes_cons {scan : Rfc5424.Scan} {c : Char}
    (h : ∀ b ∈ String.utf8EncodeChar c, next? scan b = some scan) (s : List Char) :
    elementLength? scan (bytes (c :: s)) =
      (elementLength? scan (bytes s)).map (c.utf8Size + ·) := by
  rw [bytes_cons, elementLength?_append h, String.length_utf8EncodeChar]

theorem next?_plain {c : Char} (hbracket : c ≠ ']') (hquote : c ≠ '"') :
    ∀ b ∈ String.utf8EncodeChar c, next? .plain b = some .plain := by
  intro b hb
  rw [next?, if_neg (ne_toUInt8_of_mem (by decide) hbracket b hb),
    if_neg (ne_toUInt8_of_mem (by decide) hquote b hb)]

theorem next?_quoted {c : Char} (hbackslash : c ≠ '\\') (hquote : c ≠ '"') :
    ∀ b ∈ String.utf8EncodeChar c, next? .quoted b = some .quoted := by
  intro b hb
  rw [next?, if_neg (ne_toUInt8_of_mem (by decide) hbackslash b hb),
    if_neg (ne_toUInt8_of_mem (by decide) hquote b hb)]

/-- No byte above ASCII means anything in quotes. -/
theorem next?_quoted_of_isAsciiByte {b : UInt8} (h : isAsciiByte b = false) :
    next? .quoted b = some .quoted := by
  have hne {d : Char} (hd : isAsciiByte d.toUInt8 = true) : b ≠ d.toUInt8 := by
    rintro rfl
    exact Bool.false_ne_true (h.symm.trans hd)
  rw [next?, if_neg (hne (by decide)), if_neg (hne (by decide))]

/-- After a backslash the scan leaves out the first byte of a character, and the others of this
character mean nothing to it. -/
theorem elementLength?_escaped (c : Char) (s : List Char) :
    elementLength? .escaped (bytes (c :: s)) =
      (elementLength? .quoted (bytes s)).map (c.utf8Size + ·) := by
  obtain ⟨b, more, hbytes⟩ := List.exists_cons_of_ne_nil (String.utf8EncodeChar_ne_nil (c := c))
  have hmore : ∀ d ∈ more, next? .quoted d = some .quoted := fun d hd =>
    next?_quoted_of_isAsciiByte (isAsciiByte_of_mem_tail hbytes d hd)
  have hsize : c.utf8Size = more.length + 1 := by
    rw [← String.length_utf8EncodeChar, hbytes, List.length_cons]
  rw [bytes_cons, hbytes, List.cons_append, elementLength?_cons rfl, elementLength?_append hmore,
    Option.map_map, hsize]
  congr 1
  funext n
  simp only [Function.comp_apply]
  omega

/-- Where the scan of an element stops, it stands between two characters, behind those that the scan
of characters goes over. -/
theorem measures_elementLength? (scan : Rfc5424.Scan) (s : List Char) :
    Measures s (Rfc5424.afterElement? scan s) (elementLength? scan (bytes s)) := by
  -- one case for each character; only an escaped one does not leave the scan of its bytes as it is
  fun_induction Rfc5424.afterElement? scan s with
  | case1 scan => exact .nothing
  | case2 s => exact .front [']'] s rfl
  | case3 s _ ih => exact ih.cons '"'
  | case4 c s hbracket hquote ih =>
    rw [elementLength?_bytes_cons (next?_plain hbracket hquote)]
    exact ih.cons c
  | case5 s ih => exact ih.cons '\\'
  | case6 s _ ih => exact ih.cons '"'
  | case7 c s hbackslash hquote ih =>
    rw [elementLength?_bytes_cons (next?_quoted hbackslash hquote)]
    exact ih.cons c
  | case8 c s ih =>
    rw [elementLength?_escaped]
    exact ih.cons c

/-- The two bytes after the backslash are one character, of which the second is no quote. -/
example : elementLength? .escaped (bytes "é\"]".toList) = some 4 := by cbv

theorem elementsLength?_of_head {s : List Char} (h : s.head? ≠ some '[') :
    elementsLength? (bytes s) = some 0 := by
  cases s with
  | nil =>
    rw [bytes, List.flatMap_nil, elementsLength?]
  | cons c s =>
    obtain ⟨b, hb, hchar⟩ := head?_bytes_cons c s
    obtain ⟨more, hbytes⟩ := List.head?_eq_some_iff.1 hb
    have hc : ¬ b = '['.toUInt8 := fun hb => h (congrArg some ((hchar '[' (by decide)).1 hb))
    rw [hbytes, elementsLength?, if_neg hc]

/-- Where the scan of all elements stops, it stands between two characters. -/
theorem measures_elementsLength? (s : List Char) :
    Measures s (Rfc5424.afterElements? s) (elementsLength? (bytes s)) := by
  have hbracket (s : List Char) : bytes ('[' :: s) = '['.toUInt8 :: bytes s := rfl
  fun_induction Rfc5424.afterElements? s with
  | case1 s rest hrest ih =>
    rw [hbracket, elementsLength?, if_pos rfl]
    have hfirst := measures_elementLength? .plain s
    rw [hrest] at hfirst
    generalize elementLength? .plain (bytes s) = length? at hfirst
    obtain _ | ⟨front, rest, rfl⟩ := hfirst
    dsimp only
    -- the bytes that are left are those of the rest, so the next element is read from there
    rw [drop_bytes]
    exact ih.append ('[' :: front)
  | case2 s hnone =>
    have hfirst := measures_elementLength? .plain s
    rw [hnone] at hfirst
    rw [hbracket, elementsLength?, if_pos rfl]
    generalize elementLength? .plain (bytes s) = length? at hfirst
    cases hfirst
    exact .nothing
  | case3 s hs =>
    have hhead : s.head? ≠ some '[' := by
      intro h
      obtain ⟨t, rfl⟩ := List.head?_eq_some_iff.1 h
      exact hs t rfl
    rw [elementsLength?_of_head hhead]
    exact .front [] s rfl

/-- What follows structured data is looked at where a character begins. -/
theorem yields_bodyFrom (front rest : List Char) :
    Yields (bodyFrom (byteCount front) (front ++ rest)) (Rfc5424.bodyAfter rest) := by
  -- the byte at this position is the first one of the rest
  have hbyte : (bytes (front ++ rest))[byteCount front]? = (bytes rest).head? := by
    rw [← List.head?_drop, drop_bytes]
  unfold bodyFrom
  rw [hbyte]
  cases rest with
  | nil => exact yields_ok _
  | cons c rest =>
    obtain ⟨b, hb, hchar⟩ := head?_bytes_cons c rest
    rw [hb]
    dsimp only
    by_cases hspace : c = ' '
    · subst hspace
      rw [if_pos ((hchar ' ' (by decide)).2 rfl), from?_byteCount_succ (by decide)]
      exact yields_ok _
    · rw [if_neg (mt (hchar ' ' (by decide)).1 hspace)]
      have hnone : Rfc5424.bodyAfter (c :: rest) = .error .invalidStructuredData := by
        unfold Rfc5424.bodyAfter
        split <;> simp_all
      rw [hnone]
      exact yields_error _

/-- Structured data is a hyphen, or as many bytes as the elements have. -/
theorem yields_skipStructuredData (text : List Char) :
    Yields (skipStructuredData text) (Rfc5424.skipStructuredData text) := by
  cases text with
  | nil => exact yields_error _
  | cons c s =>
    unfold skipStructuredData
    rw [List.isEmpty_cons, if_neg Bool.false_ne_true, afterChar?]
    by_cases hhyphen : c = '-'
    · subst hhyphen
      exact yields_bodyFrom [] s
    · rw [if_neg hhyphen]
      dsimp only
      by_cases hbracket : c = '['
      · subst hbracket
        rw [Rfc5424.skipStructuredData]
        have hends := @Rfc5424.afterElements?_eq_some_iff ('[' :: s)
        have hmeasures := measures_elementsLength? ('[' :: s)
        generalize Rfc5424.afterElements? ('[' :: s) = rest? at hends hmeasures
        generalize elementsLength? (bytes ('[' :: s)) = length? at hmeasures
        obtain _ | ⟨front, rest, hfront⟩ := hmeasures
        · exact yields_error _
        · -- the elements do not leave the bracket in front of them
          obtain ⟨hhead, -⟩ := hends.1 rfl
          cases front with
          | nil => exact absurd (congrArg List.head? hfront).symm hhead
          | cons d front =>
            have hsome : byteCount (d :: front) ≠ 0 := by
              have hd := d.utf8Size_pos
              rw [byteCount]
              omega
            dsimp only
            rw [if_neg hsome, hfront]
            exact yields_bodyFrom (d :: front) rest
      · have hhead : (c :: s).head? ≠ some '[' := fun h => hbracket (Option.some.inj h)
        have hnone : Rfc5424.skipStructuredData (c :: s) = .error .invalidStructuredData := by
          unfold Rfc5424.skipStructuredData
          split <;> simp_all
        rw [elementsLength?_of_head hhead, hnone]
        exact yields_error _

theorem yields_parseIetf (text : List Char) (received : Instant) :
    Yields (parseIetf text received) (Rfc5424.parse text received) := by
  refine .bind (yields_splitPriority text) fun ⟨facility, severity, rest⟩ => ?_
  refine .bind (yields_word "version" rest) fun ⟨version, rest⟩ => ?_
  dsimp only
  split
  · exact yields_error _
  · refine .bind (yields_word "timestamp" rest) fun ⟨stamp, rest⟩ => ?_
    refine .bind (yields_settled _) fun timestamp => ?_
    refine .bind (yields_word "hostname" rest) fun ⟨host, rest⟩ => ?_
    refine .bind (yields_word "app-name" rest) fun ⟨app, rest⟩ => ?_
    refine .bind (yields_word "procid" rest) fun ⟨_, rest⟩ => ?_
    refine .bind (yields_word "msgid" rest) fun ⟨_, rest⟩ => ?_
    exact .bind (yields_skipStructuredData rest) fun body => yields_ok _

/-! ## Telling the dialects apart -/

theorem looksLikeRfc5424_eq (text : List Char) :
    looksLikeRfc5424 text = some (Syslog.looksLikeRfc5424 text) := by
  unfold looksLikeRfc5424 Syslog.looksLikeRfc5424
  rw [find?_eq]
  cases hcut : splitAt? (· = '>') text with
  | none => rfl
  | some cut =>
    obtain ⟨front, after⟩ := cut
    obtain ⟨rfl, -⟩ := splitAt?_char_eq_some_iff.1 hcut
    obtain ⟨digits, behind, rfl, hdigits, hscan, hcount⟩ :=
      exists_front_of_class isAscii_of_isDigit after
    have hinside : ¬ (bytes (front ++ '>' :: (digits ++ behind))).length < byteCount front + 1 := by
      rw [length_bytes, byteCount_append, byteCount, utf8Size_of_isAscii (by decide)]
      omega
    -- the byte behind the digits is the first one of what follows them
    have hspace : (bytes (digits ++ behind))[digits.length]? = (bytes behind).head? := by
      rw [← List.head?_drop, ← hcount, drop_bytes]
    dsimp only [Option.map_some]
    rw [if_neg hinside, drop_bytes_succ (by decide), hscan, hdigits, hspace, List.drop_left]
    have hblank : ((bytes behind).head? == some ' '.toUInt8) = (behind.head? == some ' ') := by
      rw [Bool.eq_iff_iff, beq_iff_eq, beq_iff_eq, head?_bytes_eq_some_iff (by decide)]
    rw [hblank]
    cases digits with
    | nil => rfl
    | cons d digits =>
      obtain ⟨b, hb, hchar⟩ := head?_bytes_cons d (digits ++ behind)
      have hzero : (b != '0'.toUInt8) = ((d :: digits).head? != some '0') := by
        rw [Bool.eq_iff_iff, bne_iff_ne, bne_iff_ne, List.head?_cons, ne_eq, ne_eq,
          hchar '0' (by decide), Option.some.injEq]
      rw [List.cons_append, ← List.head?_eq_getElem?, hb, Option.map_some, hzero]
      cases (decide (1 ≤ (d :: digits).length) && decide ((d :: digits).length ≤ 2)) with
      | false => rfl
      | true => rfl

/-- No frame stops a reader that cuts its text at byte positions: it comes to its end and yields
what the reader of words yields. Every priority that passes the test of its range has a facility and
a severity. -/
theorem parse_never_stops (frame : List UInt8) (mode : Mode) (received : Instant) :
    (parse frame mode received).run = some (Syslog.parse frame mode received) ∧
      ∀ value ≤ maxPriority, (Facility.ofCode? (value / 8)).isSome ∧
        (Severity.ofCode? (value % 8)).isSome := by
  constructor
  · change Yields (parse frame mode received) (Syslog.parse frame mode received)
    unfold parse Syslog.parse parseText
    dsimp only
    split
    · exact yields_error _
    · cases mode with
      | rfc3164 => exact yields_parseBsd _ received
      | rfc5424 => exact yields_parseIetf _ received
      | automatic =>
        refine .cut (looksLikeRfc5424_eq _) ?_
        dsimp only
        split
        · exact yields_parseIetf _ received
        · exact yields_parseBsd _ received
  · intro value hvalue
    obtain ⟨facility, severity, hcodes⟩ := exists_codes hvalue
    obtain ⟨hfacility, hseverity⟩ := ofCode?_eq_some_iff.2 hcodes
    rw [hfacility, hseverity]
    exact ⟨rfl, rfl⟩

end SyslogCollector.Syslog.Bytewise
