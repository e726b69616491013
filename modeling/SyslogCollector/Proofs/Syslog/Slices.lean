import SyslogCollector.Proofs.Syslog.BsdForm
import SyslogCollector.Proofs.Text.LossyReading
/-!
# Byte positions in a text

A text may be cut at a byte position only if the position lies within it and between two characters.
Cuts that look whether this is so are defined here (`upTo?`, `from?`). They go through at the
positions that a scan of the bytes finds, since every byte of a character above ASCII is above ASCII
itself: a scan for ASCII characters never stops inside a character (`find?_eq`, `takeWhile_bytes`).
-/

namespace SyslogCollector.Text

open Syslog.Rfc3164 (byteCount cutBytes?_eq_some_iff)
open Utf8 (isAscii isAsciiByte ofAscii)

variable {c : Char} {s : List Char}

/-- The text in front of a byte position. There is none if the text is shorter or a character lies
across the position. -/
def upTo? (n : Nat) (s : List Char) : Option (List Char) :=
  (BsdStamp.cutBytes? n s).map Prod.fst

/-- The text from a byte position on. There is none if the text is shorter or a character lies
across the position. -/
def from? (n : Nat) (s : List Char) : Option (List Char) :=
  (BsdStamp.cutBytes? n s).map Prod.snd

theorem upTo?_byteCount (front rest : List Char) :
    upTo? (byteCount front) (front ++ rest) = some front := by
  rw [upTo?, cutBytes?_eq_some_iff.2 ⟨rfl, rfl⟩]
  rfl

theorem from?_byteCount (front rest : List Char) :
    from? (byteCount front) (front ++ rest) = some rest := by
  rw [from?, cutBytes?_eq_some_iff.2 ⟨rfl, rfl⟩]
  rfl

/-- In front of the last byte of a character there is no cut. -/
example : from? 1 ['é'] = none := by cbv

/-! ## The bytes of characters -/

theorem byteCount_append (front rest : List Char) :
    byteCount (front ++ rest) = byteCount front + byteCount rest := by
  induction front with
  | nil => rw [List.nil_append, byteCount, Nat.zero_add]
  | cons c front ih => rw [List.cons_append, byteCount, byteCount, ih, Nat.add_assoc]

theorem utf8Size_of_isAscii (h : isAscii c = true) : c.utf8Size = 1 := by
  have hlt : c.toNat < 0x80 := of_decide_eq_true h
  refine Char.utf8Size_eq_one_iff.2 (UInt32.le_iff_toNat_le.2 ?_)
  exact Nat.le_of_lt_succ hlt

theorem byteCount_concat (hc : isAscii c = true) (front : List Char) :
    byteCount (front ++ [c]) = byteCount front + 1 := by
  rw [byteCount_append, byteCount, byteCount, utf8Size_of_isAscii hc]

/-- Behind an ASCII character there is a cut. -/
theorem from?_byteCount_succ (hc : isAscii c = true) (front rest : List Char) :
    from? (byteCount front + 1) (front ++ c :: rest) = some rest := by
  rw [← byteCount_concat hc, List.append_cons front c rest]
  exact from?_byteCount (front ++ [c]) rest

/-- An ASCII character is one byte. -/
theorem utf8EncodeChar_of_isAscii (h : isAscii c = true) :
    String.utf8EncodeChar c = [c.toUInt8] := by
  have hlt : c.toNat < 0x80 := of_decide_eq_true h
  exact if_pos (Nat.le_of_lt_succ hlt)

theorem toNat_toUInt8 (h : isAscii c = true) : c.toUInt8.toNat = c.toNat := by
  have hlt : c.toNat < 0x80 := of_decide_eq_true h
  have hmod : c.toUInt8.toNat = c.toNat % 256 := UInt32.toNat_toUInt8 c.val
  omega

theorem isAsciiByte_toUInt8 (h : isAscii c = true) : isAsciiByte c.toUInt8 = true := by
  rw [isAsciiByte, decide_eq_true_iff, UInt8.lt_iff_toNat_lt, toNat_toUInt8 h]
  exact of_decide_eq_true h

theorem ofAscii_toUInt8 (h : isAscii c = true) : ofAscii c.toUInt8 = c := by
  rw [ofAscii, toNat_toUInt8 h]
  exact Char.ofNat_toNat c

/-- Every byte of a character above ASCII is above ASCII. -/
theorem isAsciiByte_of_mem (h : isAscii c = false) :
    ∀ b ∈ String.utf8EncodeChar c, isAsciiByte b = false := by
  have hge : 0x80 ≤ c.val.toNat := Nat.not_lt.1 (of_decide_eq_false h)
  have hmax : c.val.toNat < 0x110000 := by
    rcases c.valid with h | h <;> omega
  have hlimit : (0x80 : UInt8).toNat = 0x80 := rfl
  unfold String.utf8EncodeChar isAsciiByte
  generalize c.val.toNat = n at hge hmax
  dsimp only
  -- the first byte tells the number of bytes, and the others carry six bits each
  split_ifs <;>
    simp only [List.mem_cons, List.not_mem_nil, or_false, forall_eq_or_imp, forall_eq,
      decide_eq_false_iff_not, UInt8.lt_iff_toNat_lt, hlimit, UInt8.toNat_ofNat'] <;>
    omega

/-- All bytes of a character but the first are above ASCII. -/
theorem isAsciiByte_of_mem_tail {b : UInt8} {more : List UInt8}
    (h : String.utf8EncodeChar c = b :: more) : ∀ d ∈ more, isAsciiByte d = false := by
  cases hc : isAscii c with
  | true =>
    rw [utf8EncodeChar_of_isAscii hc] at h
    obtain ⟨-, rfl⟩ := List.cons.inj h
    nofun
  | false => exact fun d hd => isAsciiByte_of_mem hc d (h ▸ List.mem_cons_of_mem b hd)

/-- The byte of an ASCII character is none of the bytes of another character. -/
theorem ne_toUInt8_of_mem {d : Char} (hd : isAscii d = true) (h : c ≠ d) :
    ∀ b ∈ String.utf8EncodeChar c, b ≠ d.toUInt8 := by
  rintro b hb rfl
  cases hc : isAscii c with
  | true =>
    rw [utf8EncodeChar_of_isAscii hc, List.mem_singleton] at hb
    rw [← ofAscii_toUInt8 hc, ← hb, ofAscii_toUInt8 hd] at h
    exact h rfl
  | false => exact Bool.false_ne_true ((isAsciiByte_of_mem hc _ hb).symm.trans
      (isAsciiByte_toUInt8 hd))

/-- The bytes of a text. -/
def bytes (s : List Char) : List UInt8 :=
  s.flatMap String.utf8EncodeChar

theorem bytes_cons (c : Char) (s : List Char) :
    bytes (c :: s) = String.utf8EncodeChar c ++ bytes s := rfl

theorem bytes_append (front rest : List Char) :
    bytes (front ++ rest) = bytes front ++ bytes rest :=
  List.flatMap_append

theorem length_bytes (s : List Char) : (bytes s).length = byteCount s := by
  induction s with
  | nil => rfl
  | cons c s ih => rw [bytes_cons, List.length_append, String.length_utf8EncodeChar, ih, byteCount]

/-- The bytes from the end of a text on are those of what follows it. -/
theorem drop_bytes (front rest : List Char) :
    (bytes (front ++ rest)).drop (byteCount front) = bytes rest := by
  rw [bytes_append, ← length_bytes, List.drop_left]

theorem drop_bytes_succ (hc : isAscii c = true) (front rest : List Char) :
    (bytes (front ++ c :: rest)).drop (byteCount front + 1) = bytes rest := by
  rw [← byteCount_concat hc, List.append_cons front c rest]
  exact drop_bytes (front ++ [c]) rest

/-- The first byte of a text tells whether it starts with an ASCII character. -/
theorem head?_bytes_cons (c : Char) (s : List Char) :
    ∃ b, (bytes (c :: s)).head? = some b ∧
      ∀ d, isAscii d = true → (b = d.toUInt8 ↔ c = d) := by
  obtain ⟨b, more, hbytes⟩ := List.exists_cons_of_ne_nil (String.utf8EncodeChar_ne_nil (c := c))
  refine ⟨b, by rw [bytes_cons, hbytes]; rfl, fun d hd => ⟨fun h => ?_, ?_⟩⟩
  · by_contra hne
    exact ne_toUInt8_of_mem hd hne b (hbytes ▸ List.mem_cons_self) h
  · rintro rfl
    rw [utf8EncodeChar_of_isAscii hd] at hbytes
    exact (List.cons.inj hbytes).1.symm

theorem head?_bytes_eq_some_iff (hc : isAscii c = true) (s : List Char) :
    (bytes s).head? = some c.toUInt8 ↔ s.head? = some c := by
  cases s with
  | nil => exact ⟨nofun, nofun⟩
  | cons d s =>
    obtain ⟨b, hb, hchar⟩ := head?_bytes_cons d s
    rw [hb, List.head?_cons, Option.some.injEq, Option.some.injEq]
    exact hchar c hc

/-! ## Scans -/

/-- The byte position of the first character of its kind. -/
def find? (c : Char) : List Char → Option Nat
  | [] => none
  | d :: s => if d = c then some 0 else (find? c s).map (d.utf8Size + ·)

/-- The position is that of the cut at the character. -/
theorem find?_eq (c : Char) (s : List Char) :
    find? c s = (splitAt? (· = c) s).map fun cut => byteCount cut.1 := by
  induction s with
  | nil => rfl
  | cons d s ih =>
    rw [find?, splitAt?, ih]
    by_cases hd : d = c
    · simp [hd, byteCount]
    · simp [hd, byteCount, Function.comp_def]

/-- Whether a byte is an ASCII character of some class. -/
def ofClass (p : Char → Bool) (b : UInt8) : Bool :=
  isAsciiByte b && p (ofAscii b)

section

variable {p : Char → Bool} (hp : ∀ c, p c = true → isAscii c = true)

include hp in
/-- A character of a class of ASCII characters is a byte of that class, and no byte of another
character is. -/
theorem ofClass_utf8EncodeChar (c : Char) :
    (∃ b, String.utf8EncodeChar c = [b] ∧ ofClass p b = p c) ∨
      p c = false ∧ ∀ b ∈ String.utf8EncodeChar c, ofClass p b = false := by
  cases hc : isAscii c with
  | true =>
    refine .inl ⟨c.toUInt8, utf8EncodeChar_of_isAscii hc, ?_⟩
    rw [ofClass, isAsciiByte_toUInt8 hc, ofAscii_toUInt8 hc, Bool.true_and]
  | false =>
    refine .inr ⟨Bool.eq_false_iff.2 fun h => ?_, fun b hb => ?_⟩
    · exact Bool.false_ne_true (hc.symm.trans (hp c h))
    · rw [ofClass, isAsciiByte_of_mem hc b hb, Bool.false_and]

include hp in
/-- The bytes of a class of ASCII characters in front of a text are the characters of the class in
front of it. -/
theorem takeWhile_bytes (s : List Char) :
    (bytes s).takeWhile (ofClass p) = bytes (s.takeWhile p) := by
  induction s with
  | nil => rfl
  | cons c s ih =>
    rw [bytes_cons, List.takeWhile_cons]
    obtain ⟨b, hbytes, hb⟩ | ⟨hc, hnone⟩ := ofClass_utf8EncodeChar hp c
    · rw [hbytes, List.singleton_append, List.takeWhile_cons, hb, ih]
      cases p c with
      | false => rfl
      | true => exact (congrArg (· ++ _) hbytes).symm
    · obtain ⟨b, rest, hbytes⟩ := List.exists_cons_of_ne_nil (String.utf8EncodeChar_ne_nil (c := c))
      rw [hbytes] at hnone ⊢
      rw [List.cons_append, List.takeWhile_cons, hnone b List.mem_cons_self, hc]
      rfl

include hp in
theorem all_bytes (s : List Char) : (bytes s).all (ofClass p) = s.all p := by
  induction s with
  | nil => rfl
  | cons c s ih =>
    rw [bytes_cons, List.all_append, ih, List.all_cons]
    obtain ⟨b, hbytes, hb⟩ | ⟨hc, hnone⟩ := ofClass_utf8EncodeChar hp c
    · rw [hbytes, List.all_cons, hb, List.all_nil, Bool.and_true]
    · obtain ⟨b, rest, hbytes⟩ := List.exists_cons_of_ne_nil (String.utf8EncodeChar_ne_nil (c := c))
      rw [hbytes] at hnone ⊢
      rw [List.all_cons, hnone b List.mem_cons_self, hc]
      rfl

include hp in
/-- A text of a class of ASCII characters has as many bytes as characters. -/
theorem byteCount_of_all (h : ∀ c ∈ s, p c = true) : byteCount s = s.length := by
  induction s with
  | nil => rfl
  | cons c s ih =>
    have hc := utf8Size_of_isAscii (hp c (h c List.mem_cons_self))
    rw [byteCount, hc, ih fun d hd => h d (List.mem_cons_of_mem c hd), List.length_cons,
      Nat.add_comm]

include hp in
/-- A scan of the bytes for a class of ASCII characters stops behind as many bytes as there are
characters of the class in front of the text, and there the text can be cut. -/
theorem exists_front_of_class (s : List Char) :
    ∃ front rest, front ++ rest = s ∧ s.takeWhile p = front ∧
      ((bytes s).takeWhile (ofClass p)).length = front.length ∧
        byteCount front = front.length := by
  have hall : ∀ c ∈ s.takeWhile p, p c = true := List.all_eq_true.1 List.all_takeWhile
  have hcount := byteCount_of_all hp hall
  refine ⟨s.takeWhile p, s.dropWhile p, List.takeWhile_append_dropWhile, rfl, ?_, hcount⟩
  rw [takeWhile_bytes hp, length_bytes, hcount]

end

end SyslogCollector.Text
