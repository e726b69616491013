import SyslogCollector.Proofs.Syslog.Grammar
import SyslogCollector.Syslog.Mode
/-!
# Detecting the dialect

A listener that accepts both dialects looks behind the first closing bracket for a version. This
scan knows nothing of the priority that the parsers cut off in front of it, and still the two do not
come apart: whatever the parser of the IETF dialect accepts has a version behind its priority
(`looksLikeRfc5424_of_parse`), so detection gives up no message that the forced mode would read.
Where there is no priority, both parsers have the same complaint (`NoPriority`).
-/

namespace SyslogCollector.Syslog

open Text

/-! ## Texts without a priority -/

/-- One to three digits in brackets, whatever their value. -/
structure BracketedDigits (text digits rest : List Char) : Prop where
  /-- The digits stand in brackets in front of the rest. -/
  text_eq : text = '<' :: (digits ++ '>' :: rest)
  /-- There are only digits. -/
  all_digits : ∀ c ∈ digits, c.isDigit = true
  /-- There is a digit. -/
  ne_nil : digits ≠ []
  /-- There are at most three. -/
  length_le : digits.length ≤ 3

/-- Why a text does not start with a priority. -/
inductive NoPriority : List Char → ParseError → Prop
  /-- There is no text. -/
  | empty : NoPriority [] .empty
  /-- There are no digits in brackets. -/
  | malformed {text : List Char} : text ≠ [] →
      (∀ digits rest, ¬ BracketedDigits text digits rest) → NoPriority text .invalidPriority
  /-- The digits in brackets denote too great a number. -/
  | outOfRange {text digits rest : List Char} : BracketedDigits text digits rest →
      maxPriority < Decimal.value digits →
        NoPriority text (.priorityOutOfRange (Decimal.value digits))

/-- Digits in brackets that denote too great a number are complained about with their value. -/
theorem splitPriority_of_bracketed {text digits rest : List Char}
    (h : BracketedDigits text digits rest) (hvalue : maxPriority < Decimal.value digits) :
    splitPriority text = .error (.priorityOutOfRange (Decimal.value digits)) := by
  have hbracket : '>' ∉ digits := by
    intro hmem
    exact absurd (h.all_digits _ hmem) (by decide)
  have hcut : splitAt? (· = '>') (digits ++ '>' :: rest) = some (digits, rest) :=
    splitAt?_char_eq_some_iff.2 ⟨rfl, hbracket⟩
  have haccepted := digits_accepted_iff.2 ⟨h.ne_nil, h.length_le, h.all_digits⟩
  rw [splitPriority, afterChar?_eq_some_iff.2 h.text_eq]
  simp only [hcut]
  rw [if_neg (Bool.eq_false_iff.1 haccepted), if_pos hvalue]

/-- A text without digits in brackets has no priority to split off. -/
theorem splitPriority_of_not_bracketed {text : List Char}
    (h : ∀ digits rest, ¬ BracketedDigits text digits rest) :
    splitPriority text = .error .invalidPriority := by
  unfold splitPriority
  split
  · rfl
  · rename_i behind hopen
    split
    · rfl
    · rename_i digits rest hcut
      split
      · rfl
      · rename_i hdigits
        -- the tests that were passed make these digits in brackets
        obtain ⟨hne, hlength, hall⟩ := digits_accepted_iff.1 (Bool.eq_false_iff.2 hdigits)
        obtain ⟨rfl, -⟩ := splitAt?_char_eq_some_iff.1 hcut
        exact absurd ⟨afterChar?_eq_some_iff.1 hopen, hall, hne, hlength⟩ (h digits rest)

/-- A text starts with a priority, or it has no priority for one of three reasons. -/
theorem exists_noPriority {text : List Char}
    (h : ∀ (p : PriorityDigits) (rest : List Char), text ≠ '<' :: (p.digits ++ '>' :: rest)) :
    ∃ e, NoPriority text e := by
  by_cases hempty : text = []
  · subst hempty
    exact ⟨_, .empty⟩
  · by_cases hbracketed : ∃ digits rest, BracketedDigits text digits rest
    · obtain ⟨digits, rest, hdigits⟩ := hbracketed
      refine ⟨_, .outOfRange hdigits (Nat.lt_of_not_le ?_)⟩
      -- within the range they would be a priority
      intro hvalue
      exact h ⟨digits, hdigits.all_digits, hdigits.ne_nil, hdigits.length_le, hvalue⟩ rest
        hdigits.text_eq
    · refine ⟨_, .malformed hempty ?_⟩
      intro digits rest hdigits
      exact hbracketed ⟨digits, rest, hdigits⟩

/-- Both parsers split the priority off first, so they share its complaint. -/
theorem parseText_of_splitPriority {text : List Char} {e : ParseError} (hne : text ≠ [])
    (h : splitPriority text = .error e) (mode : Mode) (received : Instant) :
    parseText text mode received = .error e := by
  have hbsd : Rfc3164.parse text received = .error e := by
    rw [Rfc3164.parse, h]
    rfl
  have hietf : Rfc5424.parse text received = .error e := by
    rw [Rfc5424.parse, h]
    rfl
  unfold parseText
  rw [if_neg (by simpa using hne)]
  cases mode with
  | rfc3164 => exact hbsd
  | rfc5424 => exact hietf
  | automatic =>
    dsimp only
    split
    · exact hietf
    · exact hbsd

/-- Without a priority every mode has the same complaint. -/
theorem NoPriority.parseText_eq {text : List Char} {e : ParseError} (h : NoPriority text e)
    (mode : Mode) (received : Instant) : parseText text mode received = .error e := by
  cases h with
  | empty => rfl
  | malformed hne hnone =>
    exact parseText_of_splitPriority hne (splitPriority_of_not_bracketed hnone) mode received
  | outOfRange hdigits hvalue =>
    have hne : text ≠ [] := by
      rw [hdigits.text_eq]
      exact List.cons_ne_nil _ _
    exact parseText_of_splitPriority hne (splitPriority_of_bracketed hdigits hvalue) mode received

/-! ## Texts with a version -/

/-- A text with a version 1 behind its priority looks like the IETF dialect. The first closing
bracket is the one that ends the priority. -/
theorem looksLikeRfc5424_of_version (p : PriorityDigits) (rest : List Char) :
    looksLikeRfc5424 ('<' :: (p.digits ++ '>' :: '1' :: ' ' :: rest)) = true := by
  have hcut : splitAt? (· = '>') ('<' :: (p.digits ++ '>' :: '1' :: ' ' :: rest)) =
      some ('<' :: p.digits, '1' :: ' ' :: rest) := by
    refine splitAt?_char_eq_some_iff.2 ⟨rfl, ?_⟩
    intro hmem
    rcases List.mem_cons.1 hmem with hopen | hdigit
    · exact absurd hopen (by decide)
    · exact p.bracket_not_mem hdigit
  have hversion : ('1' :: ' ' :: rest).takeWhile Char.isDigit = ['1'] := rfl
  simp only [looksLikeRfc5424, hcut, hversion]
  rfl

/-- What the parser of the IETF dialect accepts looks like it. -/
theorem looksLikeRfc5424_of_parse {text : List Char} {received : Instant} {m : Message}
    (h : Rfc5424.parse text received = .ok m) : looksLikeRfc5424 text = true := by
  obtain ⟨p, rfl, -⟩ := Rfc5424.exists_parts_of_parse h
  exact looksLikeRfc5424_of_version p.priority p.afterVersion

/-- What the parser of the IETF dialect returns is a message of this dialect. -/
theorem dialect_of_parse {text : List Char} {received : Instant} {m : Message}
    (h : Rfc5424.parse text received = .ok m) : m.dialect = .rfc5424 := by
  obtain ⟨p, -, hm⟩ := Rfc5424.exists_parts_of_parse h
  exact hm.dialect

/-! ## The modes -/

/-- Detection chooses the parser by the look of the text. -/
theorem parseText_automatic (text : List Char) (received : Instant) :
    parseText text .automatic received =
      parseText text (if looksLikeRfc5424 text then .rfc5424 else .rfc3164) received := by
  unfold parseText
  split
  · rfl
  · cases looksLikeRfc5424 text <;> rfl

/-- A text that the IETF parser accepts in its own mode looks like its dialect. -/
theorem looksLikeRfc5424_of_parseText {text : List Char} {received : Instant} {m : Message}
    (h : parseText text .rfc5424 received = .ok m) : looksLikeRfc5424 text = true := by
  unfold parseText at h
  split at h
  · cases h
  · exact looksLikeRfc5424_of_parse h

/-- What is accepted is accepted by the parser of one of the dialects. -/
theorem bsd_or_ietf_of_parse {frame : List UInt8} {mode : Mode} {received : Instant} {m : Message}
    (h : parse frame mode received = .ok m) :
    let text := trimEnd isTerminator (Utf8.decodeLossy frame)
    Rfc3164.parse text received = .ok m ∨ Rfc5424.parse text received = .ok m := by
  unfold parse parseText at h
  split at h
  · cases h
  · cases mode with
    | rfc3164 => exact .inl h
    | rfc5424 => exact .inr h
    | automatic =>
      dsimp only at h
      split at h
      · exact .inr h
      · exact .inl h

/-- Detection agrees with the forced modes. For every frame:

* a message that is read in the IETF mode is read as the same message by detection;
* detection always answers what one of the forced modes answers;
* where it returns a message of the BSD dialect, the IETF mode refuses the frame;
* a frame that does not start with a priority, because it is empty or its header is malformed or out
  of range, has the same complaint in all modes. -/
theorem detection_agrees_with_forced_modes (frame : List UInt8) (received : Instant) :
    (∀ m, parse frame .rfc5424 received = .ok m → parse frame .automatic received = .ok m) ∧
      (parse frame .automatic received = parse frame .rfc3164 received ∨
        parse frame .automatic received = parse frame .rfc5424 received) ∧
      (∀ m, parse frame .automatic received = .ok m → m.dialect = .rfc3164 →
        ∃ e, parse frame .rfc5424 received = .error e) ∧
      let text := trimEnd isTerminator (Utf8.decodeLossy frame)
      ((∀ (p : PriorityDigits) (rest : List Char), text ≠ '<' :: (p.digits ++ '>' :: rest)) →
        ∃ e, NoPriority text e ∧ ∀ mode, parse frame mode received = .error e) := by
  simp only [parse]
  generalize trimEnd isTerminator (Utf8.decodeLossy frame) = text
  refine ⟨?_, ?_, ?_, ?_⟩
  · intro m hm
    rw [parseText_automatic, looksLikeRfc5424_of_parseText hm]
    exact hm
  · rw [parseText_automatic]
    split
    · exact .inr rfl
    · exact .inl rfl
  · intro m hm hdialect
    cases hietf : parseText text .rfc5424 received with
    | error e => exact ⟨e, rfl⟩
    | ok m' =>
      -- then detection returns what the IETF parser does, and that is of the other dialect
      rw [parseText_automatic, looksLikeRfc5424_of_parseText hietf] at hm
      unfold parseText at hm
      split at hm
      · cases hm
      · cases hdialect.symm.trans (dialect_of_parse hm)
  · intro hnone
    obtain ⟨e, he⟩ := exists_noPriority hnone
    exact ⟨e, he, fun mode => he.parseText_eq mode received⟩

/-- The frame `x>1 - h` looks like a message of the IETF dialect and has no priority, so all modes
complain about that. -/
theorem detection_agrees_with_forced_modes_stray_bracket :
    let frame : List UInt8 := [120, 62, 49, 32, 45, 32, 104]
    let received : Instant := ⟨0, 0⟩
    looksLikeRfc5424 (trimEnd isTerminator (Utf8.decodeLossy frame)) = true ∧
      ∃ e, NoPriority (trimEnd isTerminator (Utf8.decodeLossy frame)) e ∧
        ∀ mode, parse frame mode received = .error e := by
  intro frame received
  have htext : trimEnd isTerminator (Utf8.decodeLossy frame) = "x>1 - h".toList := by decide
  refine ⟨by rw [htext]; decide, ?_⟩
  refine (detection_agrees_with_forced_modes frame received).2.2.2 ?_
  intro p rest hpriority
  rw [htext] at hpriority
  exact absurd (List.cons.inj hpriority).1 (by decide)

end SyslogCollector.Syslog
