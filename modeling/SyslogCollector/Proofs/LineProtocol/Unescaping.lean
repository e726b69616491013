import SyslogCollector.Proofs.LineProtocol.Escaping
import SyslogCollector.Text.Blank
/-!
# Reading escaped texts

An escaped text is read up to the first character that ends it and has no backslash of its own. The
text that was written is read back whatever follows (`unescape?_escape_append`), unless it ends with
a backslash where that is no special character: then the backslash would be taken for the escape of
what ends the text.
-/

namespace SyslogCollector.LineProtocol

/-- Reads an escaped text up to the first of some ends, which is left. A backslash in front of a
special character is the escape of that, and any other backslash stands for itself. -/
def unescape? (special ends : List Char) : List Char → Option (List Char × List Char)
  | [] => none
  | [c] => if c ∈ ends then some ([], [c]) else none
  | c :: d :: rest =>
    if c = '\\' ∧ d ∈ special then
      (unescape? special ends rest).map fun (text, after) => (d :: text, after)
    else if c ∈ ends then some ([], c :: d :: rest)
    else (unescape? special ends (d :: rest)).map fun (text, after) => (c :: text, after)

variable {special ends : List Char}

/-- Nothing stands in front of an end. -/
theorem unescape?_end {c : Char} (hend : c ∈ ends) (hbackslash : c ≠ '\\') (rest : List Char) :
    unescape? special ends (c :: rest) = some ([], c :: rest) := by
  cases rest with
  | nil => rw [unescape?, if_pos hend]
  | cons d rest => rw [unescape?, if_neg (fun h => hbackslash h.1), if_pos hend]

/-- A text with its escapes is read back up to its end. Its characters are no ends, unless they are
escaped, and if the backslash is not escaped, it does not come last. -/
theorem unescape?_escape_append {text : List Char} {c : Char} (hend : c ∈ ends)
    (hbackslash : '\\' ∉ ends) (htext : ∀ d ∈ text, d ∈ ends → d ∈ special)
    (hlast : '\\' ∈ special ∨ text.getLast? ≠ some '\\') (rest : List Char) :
    unescape? special ends (escape special text ++ c :: rest) = some (text, c :: rest) := by
  induction text with
  | nil => exact unescape?_end hend (fun h => hbackslash (h ▸ hend)) rest
  | cons a text ih =>
    obtain ⟨ha, htext⟩ := List.forall_mem_cons.1 htext
    have hlast' : '\\' ∈ special ∨ text.getLast? ≠ some '\\' := by
      refine hlast.imp_right fun hne htail => hne ?_
      rw [List.getLast?_cons, htail]
      rfl
    have ih := ih htext hlast'
    by_cases hspecial : a ∈ special
    · rw [escape_cons_of_mem hspecial, List.cons_append, List.cons_append, unescape?,
        if_pos ⟨rfl, hspecial⟩, ih, Option.map_some]
    · -- a character without an escape: if it is a backslash, none of the special ones follows
      obtain ⟨d, more, hmore⟩ : ∃ d more, escape special text ++ c :: rest = d :: more :=
        List.exists_cons_of_ne_nil (by simp)
      have hbare : ¬ (a = '\\' ∧ d ∈ special) := by
        rintro ⟨rfl, hd⟩
        cases text with
        | nil => exact hlast.elim hspecial fun hne => hne rfl
        | cons b text =>
          by_cases hb : b ∈ special
          · rw [escape_cons_of_mem hb] at hmore
            exact hspecial ((List.cons.inj hmore).1 ▸ hd)
          · rw [escape_cons_of_not_mem hb] at hmore
            exact hb ((List.cons.inj hmore).1 ▸ hd)
      rw [escape_cons_of_not_mem hspecial, List.cons_append, hmore, unescape?, if_neg hbare,
        if_neg (fun h => hspecial (ha h)), ← hmore, ih, Option.map_some]

/-! ## Texts in quotes -/

/-- Reads a text between quotes. -/
def quoted? (quote : Char) (s : List Char) : Option (String × List Char) := do
  let s ← Text.afterChar? quote s
  let (text, s) ← unescape? [quote, '\\'] [quote] s
  let s ← Text.afterChar? quote s
  some (String.ofList text, s)

/-- A text in quotes is read back, whatever it is and whatever follows: the backslash is escaped as
well. -/
theorem quoted?_escape_append {quote : Char} (hquote : quote ≠ '\\') (text : String)
    (rest : List Char) :
    quoted? quote (quote :: (escape [quote, '\\'] text.toList ++ quote :: rest)) =
      some (text, rest) := by
  have hread : unescape? [quote, '\\'] [quote]
      (escape [quote, '\\'] text.toList ++ quote :: rest) = some (text.toList, quote :: rest) := by
    refine unescape?_escape_append List.mem_cons_self ?_ ?_ ?_ rest
    · rw [List.mem_singleton]
      exact Ne.symm hquote
    · intro d _ hd
      exact List.mem_cons.2 (.inl (List.mem_singleton.1 hd))
    · exact .inl (List.mem_cons_of_mem quote List.mem_cons_self)
  simp only [quoted?, Text.afterChar?_eq_some_iff.2 rfl, hread, Option.bind_eq_bind,
    Option.bind_some, String.ofList_toList]

end SyslogCollector.LineProtocol
