import SyslogCollector.Store.LineProtocol
/-!
# Escaped texts between separators

An escaped text has a backslash in front of every special character. A separator that follows it
is the first special character without one, unless the text itself ends with a backslash: that one
then reads as the escape of the separator. So a text that does not end with a backslash can be cut
off again (`append_cons_inj_of_guarded`), and the text in quotes always can, because there the
backslash is special as well (`escape_field_append_inj`).
-/

namespace SyslogCollector.LineProtocol

/-- Every occurrence of the character has a backslash right in front of it. -/
def Guarded (c : Char) (text : List Char) : Prop :=
  ∀ before after, text = before ++ c :: after → before.getLast? = some '\\'

theorem Guarded.of_not_mem {c : Char} {text : List Char} (h : c ∉ text) : Guarded c text := by
  rintro before after rfl
  exact absurd (List.mem_append_right before List.mem_cons_self) h

theorem Guarded.append {c : Char} {text text' : List Char} (h : Guarded c text)
    (h' : Guarded c text') : Guarded c (text ++ text') := by
  intro before after hcut
  -- the occurrence is in the first text or in the second
  rcases List.append_eq_append_iff.1 hcut with ⟨part, hbefore, htext'⟩ | ⟨part, htext, hrest⟩
  · rw [hbefore, List.getLast?_append, h' part after htext']
    rfl
  · cases part with
    | nil =>
      rw [List.append_nil] at htext
      have hlast := h' [] after hrest.symm
      cases hlast
    | cons d part =>
      obtain ⟨rfl, -⟩ := List.cons.inj hrest
      exact h before part htext

/-- What stands before the first separator without a backslash is determined by the text. -/
theorem append_cons_inj_of_guarded {c : Char} {before before' after after' : List Char}
    (hbefore : Guarded c before) (hbefore' : Guarded c before')
    (hlast : before.getLast? ≠ some '\\') (hlast' : before'.getLast? ≠ some '\\')
    (h : before ++ c :: after = before' ++ c :: after') : before = before' ∧ after = after' := by
  -- a longer one of the two would hold the separator of the other, without a backslash
  rcases List.append_eq_append_iff.1 h with ⟨part, htext, hrest⟩ | ⟨part, htext, hrest⟩
  · cases part with
    | nil => exact ⟨by simpa using htext.symm, (List.cons.inj hrest).2⟩
    | cons d part =>
      obtain ⟨rfl, -⟩ := List.cons.inj hrest
      exact absurd (hbefore' before part htext) hlast
  · cases part with
    | nil => exact ⟨by simpa using htext, (List.cons.inj hrest).2.symm⟩
    | cons d part =>
      obtain ⟨rfl, -⟩ := List.cons.inj hrest
      exact absurd (hbefore before' part htext) hlast'

/-! ## Escaping -/

variable {special : List Char}

theorem escape_cons_of_mem {c : Char} (h : c ∈ special) (text : List Char) :
    escape special (c :: text) = '\\' :: c :: escape special text := by
  simp [escape, h]

theorem escape_cons_of_not_mem {c : Char} (h : c ∉ special) (text : List Char) :
    escape special (c :: text) = c :: escape special text := by
  simp [escape, h]

theorem escape_append (text text' : List Char) :
    escape special (text ++ text') = escape special text ++ escape special text' :=
  List.flatMap_append

/-- Every special character has its backslash. -/
theorem guarded_escape {c : Char} (hc : c ∈ special) (hbackslash : c ≠ '\\') (text : List Char) :
    Guarded c (escape special text) := by
  induction text with
  | nil => exact .of_not_mem List.not_mem_nil
  | cons d text ih =>
    by_cases hd : d ∈ special
    · have hpair : Guarded c ['\\', d] := by
        intro before after hcut
        -- of the two characters only the second can be it
        match before with
        | [] => exact absurd (List.cons.inj hcut).1.symm hbackslash
        | [b] =>
          rw [(List.cons.inj hcut).1]
          rfl
        | _ :: _ :: before => simp at hcut
      rw [escape_cons_of_mem hd]
      exact hpair.append ih
    · have hsingle : Guarded c [d] := by
        refine .of_not_mem fun hmem => hd ?_
        exact List.mem_singleton.1 hmem ▸ hc
      rw [escape_cons_of_not_mem hd]
      exact hsingle.append ih

/-- An escaped text ends as the text does. -/
theorem getLast?_escape (text : List Char) : (escape special text).getLast? = text.getLast? := by
  rcases List.eq_nil_or_concat text with rfl | ⟨text, c, rfl⟩
  · rfl
  · rw [List.concat_eq_append, escape_append, List.getLast?_append, List.getLast?_append]
    by_cases hc : c ∈ special
    · rw [escape_cons_of_mem hc]
      rfl
    · rw [escape_cons_of_not_mem hc]
      rfl

theorem escape_eq_nil_iff {text : List Char} : escape special text = [] ↔ text = [] := by
  cases text with
  | nil => exact ⟨fun _ => rfl, fun _ => rfl⟩
  | cons c text =>
    by_cases hc : c ∈ special
    · rw [escape_cons_of_mem hc]
      exact ⟨nofun, nofun⟩
    · rw [escape_cons_of_not_mem hc]
      exact ⟨nofun, nofun⟩

/-- Where the backslash is not special, no escaped text starts with a special character. -/
theorem escape_ne_cons (hbackslash : '\\' ∉ special) {c : Char} (hc : c ∈ special)
    (text rest : List Char) : escape special text ≠ c :: rest := by
  intro h
  cases text with
  | nil => cases h
  | cons d text =>
    by_cases hd : d ∈ special
    · rw [escape_cons_of_mem hd] at h
      exact hbackslash ((List.cons.inj h).1 ▸ hc)
    · rw [escape_cons_of_not_mem hd] at h
      exact hd ((List.cons.inj h).1 ▸ hc)

/-- Where the backslash is not special, an escaped text still determines the text: a backslash that
stands for itself is never followed by a bare special character. -/
theorem escape_injective (hbackslash : '\\' ∉ special) :
    Function.Injective (escape special) := by
  intro text text' h
  induction text generalizing text' with
  | nil => exact (escape_eq_nil_iff.1 h.symm).symm
  | cons c text ih =>
    cases text' with
    | nil => exact escape_eq_nil_iff.1 h
    | cons d text' =>
      by_cases hc : c ∈ special <;> by_cases hd : d ∈ special
      · rw [escape_cons_of_mem hc, escape_cons_of_mem hd] at h
        obtain ⟨hcd, hrest⟩ := List.cons.inj (List.cons.inj h).2
        rw [hcd, ih hrest]
      · rw [escape_cons_of_mem hc, escape_cons_of_not_mem hd] at h
        exact absurd (List.cons.inj h).2.symm (escape_ne_cons hbackslash hc _ _)
      · rw [escape_cons_of_not_mem hc, escape_cons_of_mem hd] at h
        exact absurd (List.cons.inj h).2 (escape_ne_cons hbackslash hd _ _)
      · rw [escape_cons_of_not_mem hc, escape_cons_of_not_mem hd] at h
        obtain ⟨hcd, hrest⟩ := List.cons.inj h
        rw [hcd, ih hrest]

/-- A text in quotes ends at the first quote that is not escaped. -/
theorem escape_field_append_inj {text text' after after' : List Char}
    (h : escape fieldSpecials text ++ '"' :: after =
      escape fieldSpecials text' ++ '"' :: after') : text = text' ∧ after = after' := by
  have hbackslash : '\\' ∈ fieldSpecials := by decide
  have hquote : '"' ∈ fieldSpecials := by decide
  -- the quote at the end is not how an escaped text starts
  have hends (c : Char) (text rest rest' : List Char) :
      '"' :: rest ≠ escape fieldSpecials (c :: text) ++ rest' := by
    intro h
    by_cases hc : c ∈ fieldSpecials
    · rw [escape_cons_of_mem hc] at h
      exact absurd (List.cons.inj h).1 (by decide)
    · rw [escape_cons_of_not_mem hc] at h
      exact hc ((List.cons.inj h).1 ▸ hquote)
  induction text generalizing text' with
  | nil =>
    cases text' with
    | nil => exact ⟨rfl, (List.cons.inj h).2⟩
    | cons d text' => exact absurd h (hends d text' _ _)
  | cons c text ih =>
    cases text' with
    | nil => exact absurd h.symm (hends c text _ _)
    | cons d text' =>
      by_cases hc : c ∈ fieldSpecials <;> by_cases hd : d ∈ fieldSpecials
      · rw [escape_cons_of_mem hc, escape_cons_of_mem hd] at h
        obtain ⟨hcd, hrest⟩ := List.cons.inj (List.cons.inj h).2
        obtain ⟨htext, hafter⟩ := ih hrest
        exact ⟨by rw [hcd, htext], hafter⟩
      · rw [escape_cons_of_mem hc, escape_cons_of_not_mem hd] at h
        exact absurd ((List.cons.inj h).1 ▸ hbackslash) hd
      · rw [escape_cons_of_not_mem hc, escape_cons_of_mem hd] at h
        exact absurd ((List.cons.inj h).1 ▸ hbackslash) hc
      · rw [escape_cons_of_not_mem hc, escape_cons_of_not_mem hd] at h
        obtain ⟨hcd, hrest⟩ := List.cons.inj h
        obtain ⟨htext, hafter⟩ := ih hrest
        exact ⟨by rw [hcd, htext], hafter⟩

end SyslogCollector.LineProtocol
