import SyslogCollector.Syslog.Header
/-!
# The grammar of a message header

The priority in its brackets and the words that single spaces separate, as texts that carry what
makes them well formed, and what the readers of both make of them. A word of a header is read from
a text exactly if the text starts with it and a space, as long as something follows
(`word_eq_ok_iff`).
-/

namespace SyslogCollector.Syslog

open Text

/-! ## The priority -/

/-- A priority as it is written between its brackets: one to three digits of a value that does not
exceed the greatest priority. -/
structure PriorityDigits where
  /-- The digits. -/
  digits : List Char
  /-- There are only digits. -/
  all_digits : ∀ c ∈ digits, c.isDigit = true
  /-- There is a digit. -/
  ne_nil : digits ≠ []
  /-- There are at most three. -/
  length_le : digits.length ≤ 3
  /-- The value is a priority. -/
  value_le : Decimal.value digits ≤ maxPriority

/-- A facility and a severity make up a priority if their codes are its quotient and remainder. -/
theorem ofCode?_eq_some_iff {n : Nat} {facility : Facility} {severity : Severity} :
    (Facility.ofCode? (n / 8) = some facility ∧ Severity.ofCode? (n % 8) = some severity) ↔
      facility.code * 8 + severity.code = n := by
  rw [Facility.ofCode?_eq_some_iff, Severity.ofCode?_eq_some_iff]
  -- a severity code is below 8, so it is the remainder
  have hseverity := severity.code_lt
  omega

/-- Every priority has a facility and a severity. -/
theorem exists_codes {n : Nat} (h : n ≤ maxPriority) :
    ∃ (facility : Facility) (severity : Severity), facility.code * 8 + severity.code = n := by
  have hfacility : n / 8 < 24 := by
    unfold maxPriority at h
    omega
  obtain ⟨facility, hf⟩ := Facility.exists_ofCode? hfacility
  obtain ⟨severity, hs⟩ := Severity.exists_ofCode? (Nat.mod_lt n (by decide))
  exact ⟨facility, severity, ofCode?_eq_some_iff.1 ⟨hf, hs⟩⟩

/-- The digits of a priority do not hold the bracket that ends it. -/
theorem PriorityDigits.bracket_not_mem (p : PriorityDigits) : '>' ∉ p.digits :=
  fun h => absurd (p.all_digits _ h) (by decide)

/-- The test that digits of a priority header have to pass. -/
theorem digits_accepted_iff {digits : List Char} :
    (digits.isEmpty || 3 < digits.length || !digits.all Char.isDigit) = false ↔
      digits ≠ [] ∧ digits.length ≤ 3 ∧ ∀ c ∈ digits, c.isDigit = true := by
  simp only [Bool.or_eq_false_iff, List.isEmpty_eq_false_iff, decide_eq_false_iff_not, Nat.not_lt,
    Bool.not_eq_false', List.all_eq_true, and_assoc]

/-- The priority header is accepted exactly if it is of the grammar, and the codes make up its
value. -/
theorem splitPriority_eq_ok_iff {text rest : List Char} {facility : Facility}
    {severity : Severity} :
    splitPriority text = .ok (facility, severity, rest) ↔
      ∃ p : PriorityDigits, text = '<' :: (p.digits ++ '>' :: rest) ∧
        facility.code * 8 + severity.code = Decimal.value p.digits := by
  constructor
  · intro h
    unfold splitPriority at h
    split at h
    · simp at h
    · rename_i behind hopen
      obtain rfl := afterChar?_eq_some_iff.1 hopen
      split at h
      · simp at h
      · rename_i digits rest' hcut
        obtain ⟨rfl, -⟩ := splitAt?_char_eq_some_iff.1 hcut
        split at h
        · simp at h
        · rename_i hdigits
          -- the tests that were passed are what the grammar asks for
          obtain ⟨hne, hlength, hall⟩ := digits_accepted_iff.1 (Bool.eq_false_iff.2 hdigits)
          dsimp only at h
          split at h
          · simp at h
          · rename_i hvalue
            split at h
            · rename_i f s hf hs
              have hsame := Except.ok.inj h
              simp only [Prod.mk.injEq] at hsame
              obtain ⟨rfl, rfl, rfl⟩ := hsame
              exact ⟨⟨digits, hall, hne, hlength, Nat.not_lt.1 hvalue⟩, rfl,
                ofCode?_eq_some_iff.1 ⟨hf, hs⟩⟩
            · simp at h
  · rintro ⟨p, rfl, hcodes⟩
    have hcut : splitAt? (· = '>') (p.digits ++ '>' :: rest) = some (p.digits, rest) :=
      splitAt?_char_eq_some_iff.2 ⟨rfl, p.bracket_not_mem⟩
    have haccepted := digits_accepted_iff.2 ⟨p.ne_nil, p.length_le, p.all_digits⟩
    obtain ⟨hfacility, hseverity⟩ := ofCode?_eq_some_iff.2 hcodes
    rw [splitPriority, afterChar?_eq_some_iff.2 rfl]
    simp only [hcut]
    rw [if_neg (Bool.eq_false_iff.1 haccepted), if_neg (Nat.not_lt.2 p.value_le), hfacility,
      hseverity]

/-- The priority that a text starts with is determined by it. -/
theorem PriorityDigits.append_inj {p p' : PriorityDigits} {rest rest' : List Char}
    (h : p.digits ++ '>' :: rest = p'.digits ++ '>' :: rest') : p = p' ∧ rest = rest' := by
  obtain ⟨hdigits, hrest⟩ :=
    append_cons_inj_of_not_mem p.bracket_not_mem p'.bracket_not_mem h
  refine ⟨?_, hrest⟩
  cases p
  cases p'
  congr

/-! ## Words -/

/-- A word of a header: a text without a space. It may be empty. -/
structure HeaderWord where
  /-- The characters. -/
  chars : List Char
  /-- There is no space among them. -/
  no_space : ' ' ∉ chars

namespace HeaderWord

/-- A word and what follows it behind a space. -/
def before (w : HeaderWord) (rest : List Char) : List Char :=
  w.chars ++ ' ' :: rest

/-- A text that starts with a word and its space is not empty. -/
theorem before_ne_nil (w : HeaderWord) (rest : List Char) : w.before rest ≠ [] :=
  List.append_ne_nil_of_right_ne_nil _ (List.cons_ne_nil _ _)

/-- The word that a text starts with is determined by it. -/
theorem before_inj {w w' : HeaderWord} {rest rest' : List Char}
    (h : w.before rest = w'.before rest') : w = w' ∧ rest = rest' := by
  obtain ⟨hchars, hrest⟩ := append_cons_inj_of_not_mem w.no_space w'.no_space h
  refine ⟨?_, hrest⟩
  cases w
  cases w'
  congr

end HeaderWord

/-- A word is read exactly where the text starts with it and a space, as long as something
follows. -/
theorem word_eq_ok_iff {field : String} {text chars rest : List Char} (h : rest ≠ []) :
    word field text = .ok (chars, rest) ↔
      ∃ w : HeaderWord, w.chars = chars ∧ w.before rest = text := by
  have hgrammar : (∃ w : HeaderWord, w.chars = chars ∧ w.before rest = text) ↔
      splitAt? (· = ' ') text = some (chars, rest) := by
    rw [splitAt?_char_eq_some_iff]
    constructor
    · rintro ⟨w, rfl, rfl⟩
      exact ⟨rfl, w.no_space⟩
    · rintro ⟨rfl, hspace⟩
      exact ⟨⟨chars, hspace⟩, rfl, rfl⟩
  rw [hgrammar]
  cases text with
  | nil => simp [word, nextWord?, splitAt?]
  | cons c text =>
    cases hcut : splitAt? (· = ' ') (c :: text) with
    | none =>
      -- the last word of a text leaves nothing
      have hlast : word field (c :: text) = .ok (c :: text, []) := by
        rw [word, nextWord?, hcut]
        rfl
      rw [hlast]
      constructor
      · intro hword
        exact absurd (congrArg Prod.snd (Except.ok.inj hword)).symm h
      · intro hnone
        exact absurd hnone.symm (Option.some_ne_none _)
    | some cut =>
      have hword : word field (c :: text) = .ok cut := by
        rw [word, nextWord?, hcut]
        rfl
      rw [hword, Except.ok.injEq, Option.some.injEq]

end SyslogCollector.Syslog
