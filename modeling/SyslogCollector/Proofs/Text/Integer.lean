import SyslogCollector.Text.Blank
import SyslogCollector.Text.Decimal
/-!
# Whole numbers in decimal

A whole number is written with its digits, and a minus sign in front of them if it is negative.
What is written is read back whatever follows, as long as that does not start with a digit
(`integer?_toString_append`).
-/

namespace SyslogCollector.Decimal

/-- Takes a run of digits off the front. -/
def natural? (s : List Char) : Option (Nat × List Char) :=
  let digits := s.takeWhile Char.isDigit
  if digits.isEmpty then none else some (value digits, s.drop digits.length)

/-- Takes a whole number off the front. -/
def integer? : List Char → Option (Int × List Char)
  | '-' :: s => (natural? s).map fun (n, rest) => (-n, rest)
  | s => (natural? s).map fun (n, rest) => (n, rest)

theorem value_toDigits (n : Nat) : value (Nat.toDigits 10 n) = n := by
  have hfold : value (Nat.toDigits 10 n) = Nat.ofDigitChars 10 (Nat.toDigits 10 n) 0 := by
    simp only [value, Nat.ofDigitChars_eq_foldl, digitValue, Nat.mul_comm]
  rw [hfold, Nat.ofDigitChars_ten_toDigits]

theorem isDigit_of_mem_toDigits {n : Nat} {c : Char} (h : c ∈ Nat.toDigits 10 n) :
    c.isDigit = true :=
  Nat.isDigit_of_mem_toDigits (by decide) (by decide) h

/-- The digits of a number are read back. -/
theorem natural?_toDigits_append (n : Nat) {rest : List Char}
    (h : ∀ c ∈ rest.head?, c.isDigit = false) :
    natural? (Nat.toDigits 10 n ++ rest) = some (n, rest) := by
  have htake : (Nat.toDigits 10 n ++ rest).takeWhile Char.isDigit = Nat.toDigits 10 n :=
    Text.takeWhile_append_of_head? (fun _ hc => isDigit_of_mem_toDigits hc) h
  have hne : (Nat.toDigits 10 n).isEmpty = false := by
    simp [Nat.toDigits_ne_nil]
  simp only [natural?, htake, hne, value_toDigits, List.drop_left]
  rfl

/-- Digits are no minus sign. -/
theorem integer?_toDigits_append (n : Nat) (rest : List Char) :
    integer? (Nat.toDigits 10 n ++ rest) =
      (natural? (Nat.toDigits 10 n ++ rest)).map fun (n, rest) => (n, rest) := by
  have hne : Nat.toDigits 10 n ≠ [] := Nat.toDigits_ne_nil
  obtain ⟨d, digits, hdigits⟩ := List.exists_cons_of_ne_nil hne
  have hd : d ≠ '-' := by
    rintro rfl
    exact absurd (isDigit_of_mem_toDigits (hdigits ▸ List.mem_cons_self)) (by decide)
  rw [hdigits, List.cons_append, integer?]
  rintro s hs
  exact hd (List.cons.inj hs).1

/-- A whole number is read back, whatever follows that does not start with a digit. -/
theorem integer?_toString_append (n : Int) {rest : List Char}
    (h : ∀ c ∈ rest.head?, c.isDigit = false) :
    integer? ((toString n).toList ++ rest) = some (n, rest) := by
  change integer? (n.repr.toList ++ rest) = some (n, rest)
  rw [Int.repr_eq_if]
  split
  · rename_i hpos
    rw [Nat.repr_eq_ofList_toDigits, String.toList_ofList, integer?_toDigits_append,
      natural?_toDigits_append n.toNat h, Option.map_some]
    simp only [Int.toNat_of_nonneg hpos]
  · rename_i hneg
    have hnonneg : 0 ≤ -n := by omega
    have htext : ("-" ++ (-n).toNat.repr).toList = '-' :: Nat.toDigits 10 (-n).toNat := by
      simp [Nat.repr_eq_ofList_toDigits]
    rw [htext, List.cons_append, integer?, natural?_toDigits_append (-n).toNat h, Option.map_some]
    simp only [Int.toNat_of_nonneg hnonneg, Int.neg_neg]

end SyslogCollector.Decimal
