/-!
# Blank characters and trimming

The Unicode characters with the property `White_Space`, and the cuts that use them.
-/

namespace SyslogCollector.Text

/-- The Unicode property `White_Space`. -/
def isBlank (c : Char) : Bool :=
  let n := c.toNat
  (0x09 ≤ n && n ≤ 0x0D) || n == 0x20 || n == 0x85 || n == 0xA0 || n == 0x1680 ||
    (0x2000 ≤ n && n ≤ 0x200A) || n == 0x2028 || n == 0x2029 || n == 0x202F || n == 0x205F ||
    n == 0x3000

/-- Leaves out the blank characters in front. -/
def skipBlank (s : List Char) : List Char :=
  s.dropWhile isBlank

/-- Leaves out the characters at the end that satisfy `p`. -/
def trimEnd (p : Char → Bool) (s : List Char) : List Char :=
  (s.reverse.dropWhile p).reverse

/-- The text after the given character, if it starts with it. -/
def afterChar? (c : Char) : List Char → Option (List Char)
  | [] => none
  | d :: rest => if d = c then some rest else none

/-- The text after the given words, if it starts with them. -/
def afterPrefix? : List Char → List Char → Option (List Char)
  | [], s => some s
  | _ :: _, [] => none
  | c :: cs, d :: s => if c = d then afterPrefix? cs s else none

/-- Cuts at the first character that satisfies `p`: what stands before it and what stands after
it. The character itself is left out. -/
def splitAt? (p : Char → Bool) : List Char → Option (List Char × List Char)
  | [] => none
  | c :: rest =>
    if p c then some ([], rest)
    else (splitAt? p rest).map fun (before, after) => (c :: before, after)

/-- Only texts that start with the character have something after it. -/
theorem afterChar?_eq_some_iff {c : Char} {s rest : List Char} :
    afterChar? c s = some rest ↔ s = c :: rest := by
  cases s with
  | nil => simp [afterChar?]
  | cons d s =>
    rw [afterChar?, List.cons.injEq]
    split
    · rename_i hd
      simp [hd]
    · rename_i hd
      simp [hd]

/-- Only texts that start with the words have something after them. -/
theorem afterPrefix?_eq_some_iff {words s rest : List Char} :
    afterPrefix? words s = some rest ↔ s = words ++ rest := by
  induction words generalizing s with
  | nil => simp [afterPrefix?]
  | cons c words ih =>
    cases s with
    | nil => simp [afterPrefix?]
    | cons d s =>
      rw [afterPrefix?, List.cons_append, List.cons.injEq]
      split
      · rename_i hc
        simp [ih, hc]
      · rename_i hc
        simp [Ne.symm hc]

/-- A cut is at the first character that satisfies `p`. -/
theorem splitAt?_eq_some_iff {p : Char → Bool} {s before after : List Char} :
    splitAt? p s = some (before, after) ↔
      ∃ c, s = before ++ c :: after ∧ p c = true ∧ ∀ d ∈ before, p d = false := by
  induction s generalizing before with
  | nil => simp [splitAt?]
  | cons d rest ih =>
    rw [splitAt?]
    by_cases hd : p d = true
    · rw [if_pos hd, Option.some.injEq, Prod.mk.injEq]
      constructor
      · rintro ⟨rfl, rfl⟩
        exact ⟨d, rfl, hd, by simp⟩
      · rintro ⟨c, hsplit, hc, hbefore⟩
        cases before with
        | nil => exact ⟨rfl, (List.cons.inj hsplit).2⟩
        | cons e before =>
          have he : p e = false := hbefore e List.mem_cons_self
          rw [← (List.cons.inj hsplit).1, hd] at he
          exact absurd he (by decide)
    · rw [if_neg hd, Option.map_eq_some_iff]
      constructor
      · rintro ⟨⟨before', after'⟩, hcut, hpair⟩
        obtain ⟨rfl, rfl⟩ := Prod.mk.inj hpair
        obtain ⟨c, rfl, hc, hbefore⟩ := ih.1 hcut
        refine ⟨c, rfl, hc, fun e he => ?_⟩
        rcases List.mem_cons.1 he with rfl | he
        · exact Bool.eq_false_iff.2 hd
        · exact hbefore e he
      · rintro ⟨c, hsplit, hc, hbefore⟩
        cases before with
        | nil => exact absurd ((List.cons.inj hsplit).1 ▸ hc) hd
        | cons e before =>
          obtain ⟨rfl, rfl⟩ := List.cons.inj hsplit
          refine ⟨(before, after), ih.2 ⟨c, rfl, hc, fun d hd => ?_⟩, rfl⟩
          exact hbefore d (List.mem_cons_of_mem _ hd)

/-- A cut at a character is at the first one. -/
theorem splitAt?_char_eq_some_iff {c : Char} {s before after : List Char} :
    splitAt? (· = c) s = some (before, after) ↔ s = before ++ c :: after ∧ c ∉ before := by
  rw [splitAt?_eq_some_iff]
  constructor
  · rintro ⟨d, hsplit, hd, hbefore⟩
    obtain rfl : d = c := of_decide_eq_true hd
    exact ⟨hsplit, fun hmem => of_decide_eq_false (hbefore d hmem) rfl⟩
  · rintro ⟨hsplit, hbefore⟩
    refine ⟨c, hsplit, decide_eq_true rfl, fun d hd => decide_eq_false ?_⟩
    rintro rfl
    exact hbefore hd

/-- What is to be left out at the end may stand there or not. -/
theorem trimEnd_append {p : Char → Bool} {more : List Char} (h : ∀ c ∈ more, p c = true)
    (s : List Char) : trimEnd p (s ++ more) = trimEnd p s := by
  unfold trimEnd
  rw [List.reverse_append, List.dropWhile_append_of_pos fun c hc => h c (List.mem_reverse.1 hc)]

/-- What is left are characters of the text, in their order. -/
theorem trimEnd_sublist (p : Char → Bool) (s : List Char) : (trimEnd p s).Sublist s := by
  have h : (s.reverse.dropWhile p).reverse.Sublist s.reverse.reverse :=
    (List.dropWhile_sublist p).reverse
  rwa [List.reverse_reverse] at h

/-- A run of characters ends in front of the first one that does not belong to it. -/
theorem takeWhile_append_of_head? {p : Char → Bool} {run rest : List Char}
    (hrun : ∀ c ∈ run, p c = true) (hrest : ∀ c ∈ rest.head?, p c = false) :
    (run ++ rest).takeWhile p = run := by
  have hnone : rest.takeWhile p = [] := by
    cases rest with
    | nil => rfl
    | cons c rest => exact List.takeWhile_cons_of_neg (by simp [hrest c rfl])
  rw [List.takeWhile_append_of_pos hrun, hnone, List.append_nil]

/-- What stands before and after the first of some characters is determined by the text. -/
theorem append_cons_inj_of_not_mem {c : Char} {before before' after after' : List Char}
    (hbefore : c ∉ before) (hbefore' : c ∉ before')
    (h : before ++ c :: after = before' ++ c :: after') : before = before' ∧ after = after' := by
  have hcut : splitAt? (· = c) (before ++ c :: after) = some (before, after) :=
    splitAt?_char_eq_some_iff.2 ⟨rfl, hbefore⟩
  rw [splitAt?_char_eq_some_iff.2 ⟨h, hbefore'⟩] at hcut
  obtain ⟨hsame, hsame'⟩ := Prod.mk.inj (Option.some.inj hcut)
  exact ⟨hsame.symm, hsame'.symm⟩

end SyslogCollector.Text
