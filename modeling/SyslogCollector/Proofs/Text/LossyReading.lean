import Mathlib.Algebra.Group.Nat.Defs
import Mathlib.Data.List.Count
import SyslogCollector.Text.Utf8
/-!
# ASCII in bytes that need not be well-formed

What a frame means turns on ASCII characters: brackets, spaces, line ends. Reading it replaces what
is ill-formed, which neither makes up an ASCII character nor swallows one. An open sequence can only
become a character above ASCII, and no ASCII byte continues it (`State.Sound`), so the ASCII
characters of the text are the ASCII bytes, in their order (`filter_decodeLossy`), and ASCII bytes
behind others are read as if they stood alone (`decodeLossy_append`).
-/

namespace SyslogCollector.Utf8

/-- Whether a byte is an ASCII character. -/
def isAsciiByte (b : UInt8) : Bool := b < 0x80

/-- Whether a character is ASCII. -/
def isAscii (c : Char) : Bool := c.toNat < 0x80

/-- The character of an ASCII byte. -/
def ofAscii (b : UInt8) : Char := Char.ofNat b.toNat

theorem toNat_ofNat {n : Nat} (h : n.isValidChar) : (Char.ofNat n).toNat = n := by
  rw [Char.ofNat, dif_pos h]
  rfl

theorem toNat_ofAscii {b : UInt8} (h : isAsciiByte b = true) : (ofAscii b).toNat = b.toNat := by
  have hlt : b.toNat < 0x80 := UInt8.lt_iff_toNat_lt.1 (of_decide_eq_true h)
  exact toNat_ofNat (.inl (by omega))

theorem ofAscii_injective : Function.Injective ofAscii := by
  intro b c h
  have hvalid (b : UInt8) : b.toNat.isValidChar := .inl (by have := b.toNat_lt; omega)
  have hsame : b.toNat = c.toNat := by
    rw [← toNat_ofNat (hvalid b), ← toNat_ofNat (hvalid c)]
    exact congrArg Char.toNat h
  exact UInt8.toNat_inj.1 hsame

theorem isAscii_ofAscii {b : UInt8} (h : isAsciiByte b = true) : isAscii (ofAscii b) = true := by
  rw [isAscii, toNat_ofAscii h]
  exact h

/-! ## Open sequences -/

/-- The least code of a character that an open sequence may become. -/
def firstCode (missing : Nat) (low : UInt8) (code : Nat) : Nat :=
  (code * 0x40 + low.toNat % 0x40) * 0x40 ^ (missing - 1)

/-- The first code above those of the characters that an open sequence may become. -/
def endCode (missing : Nat) (high : UInt8) (code : Nat) : Nat :=
  (code * 0x40 + high.toNat % 0x40 + 1) * 0x40 ^ (missing - 1)

/-- An open sequence goes on with continuation bytes alone, and whatever these are it becomes a
character above ASCII. -/
structure Continues (missing : Nat) (low high : UInt8) (code : Nat) : Prop where
  missing_mem : missing = 1 ∨ missing = 2 ∨ missing = 3
  low_ge : 0x80 ≤ low.toNat
  high_le : high.toNat ≤ 0xBF
  above : 0x80 ≤ firstCode missing low code
  valid : endCode missing high code ≤ 0xD800 ∨
    0xE000 ≤ firstCode missing low code ∧ endCode missing high code ≤ 0x110000

/-- What an open sequence may be. -/
def State.Sound : State → Prop
  | .start => True
  | .within missing low high code => Continues missing low high code

theorem sound_begin (b : UInt8) : (begin b).2.Sound := by
  have hb : b.toNat < 0x100 := b.toNat_lt
  unfold begin
  repeat' split
  all_goals simp only [UInt8.lt_iff_toNat_lt, ← UInt8.toNat_inj, State.Sound] at *
  all_goals
    first
    | exact trivial
    | constructor <;> simp [firstCode, endCode] at * <;> omega

/-- Continuation bytes are ordered as the bits that they carry. -/
theorem mod_le_mod_of_le {b c : UInt8} (hb : 0x80 ≤ b.toNat) (hc : c.toNat ≤ 0xBF) (h : b ≤ c) :
    b.toNat % 0x40 ≤ c.toNat % 0x40 := by
  rw [UInt8.le_iff_toNat_le] at h
  omega

/-- A byte that continues a sequence can only narrow what it may become. -/
theorem Continues.next {missing code : Nat} {low high b : UInt8}
    (h : Continues missing low high code) (hmore : 1 < missing) (hlow : low ≤ b) (hhigh : b ≤ high) :
    Continues (missing - 1) 0x80 0xBF (code * 0x40 + b.toNat % 0x40) := by
  obtain ⟨hmissing, hlow', hhigh', habove, hvalid⟩ := h
  obtain ⟨k, rfl⟩ : ∃ k, missing = k + 2 := ⟨missing - 2, by omega⟩
  have hb := UInt8.le_iff_toNat_le.1 hlow
  have hb' := UInt8.le_iff_toNat_le.1 hhigh
  have hfirst : firstCode (k + 2) low code ≤
      firstCode (k + 1) 0x80 (code * 0x40 + b.toNat % 0x40) := by
    have hbits := mod_le_mod_of_le hlow' (Nat.le_trans hb' hhigh') hlow
    calc firstCode (k + 2) low code
        ≤ (code * 0x40 + b.toNat % 0x40) * 0x40 ^ (k + 1) :=
          Nat.mul_le_mul_right _ (Nat.add_le_add_left hbits _)
      _ = firstCode (k + 1) 0x80 (code * 0x40 + b.toNat % 0x40) := by
          rw [Nat.pow_succ, Nat.mul_comm (0x40 ^ k), ← Nat.mul_assoc]
          rfl
  have hend : endCode (k + 1) 0xBF (code * 0x40 + b.toNat % 0x40) ≤
      endCode (k + 2) high code := by
    have hbits := mod_le_mod_of_le (Nat.le_trans hlow' hb) hhigh' hhigh
    calc endCode (k + 1) 0xBF (code * 0x40 + b.toNat % 0x40)
        = (code * 0x40 + b.toNat % 0x40 + 1) * 0x40 ^ (k + 1) := by
          rw [Nat.pow_succ, Nat.mul_comm (0x40 ^ k), ← Nat.mul_assoc, Nat.add_mul _ 1]
          rfl
      _ ≤ endCode (k + 2) high code :=
          Nat.mul_le_mul_right _ (Nat.succ_le_succ (Nat.add_le_add_left hbits _))
  exact ⟨by omega, Nat.le_refl _, Nat.le_refl _, Nat.le_trans habove hfirst,
    hvalid.imp (Nat.le_trans hend)
      fun hupper => ⟨Nat.le_trans hupper.1 hfirst, Nat.le_trans hend hupper.2⟩⟩

/-- The last byte of a sequence makes a character above ASCII. -/
theorem Continues.isAscii_last {missing code : Nat} {low high b : UInt8}
    (h : Continues missing low high code) (hlast : missing ≤ 1) (hlow : low ≤ b) (hhigh : b ≤ high) :
    isAscii (Char.ofNat (code * 0x40 + b.toNat % 0x40)) = false := by
  obtain ⟨hmissing, hlow', hhigh', habove, hvalid⟩ := h
  rw [UInt8.le_iff_toNat_le] at hlow hhigh
  obtain rfl : missing = 1 := by omega
  simp only [firstCode, endCode, Nat.sub_self, Nat.pow_zero, Nat.mul_one] at habove hvalid
  have hcode : (code * 0x40 + b.toNat % 0x40).isValidChar := by
    unfold Nat.isValidChar
    omega
  rw [isAscii, toNat_ofNat hcode]
  exact decide_eq_false (by omega)

/-! ## One byte -/

theorem begin_of_isAsciiByte {b : UInt8} (h : isAsciiByte b = true) :
    begin b = ([ofAscii b], .start) := by
  unfold begin
  rw [if_pos (of_decide_eq_true h)]
  rfl

/-- What a byte above ASCII yields between characters is above ASCII as well. -/
theorem filter_begin {b : UInt8} (h : isAsciiByte b = false) :
    (begin b).1.filter isAscii = [] := by
  unfold begin
  rw [if_neg (of_decide_eq_false h)]
  repeat' split
  all_goals rfl

theorem sound_step {s : State} (h : s.Sound) (b : UInt8) : (step s b).2.Sound := by
  cases s with
  | start => exact sound_begin b
  | within missing low high code =>
    simp only [step]
    split
    · rename_i hb
      split
      · exact trivial
      · rename_i hmore
        exact h.next (Nat.lt_of_not_le hmore) hb.1 hb.2
    · exact sound_begin b

/-- An ASCII byte closes what is open and is a character of its own. -/
theorem step_of_isAsciiByte {s : State} (h : s.Sound) {b : UInt8} (hb : isAsciiByte b = true) :
    step s b = (finish s ++ [ofAscii b], .start) := by
  cases s with
  | start => exact begin_of_isAsciiByte hb
  | within missing low high code =>
    -- it does not continue the sequence
    have hout : ¬ (low ≤ b ∧ b ≤ high) := by
      rintro ⟨hlow, -⟩
      have hlt : b.toNat < 0x80 := UInt8.lt_iff_toNat_lt.1 (of_decide_eq_true hb)
      rw [UInt8.le_iff_toNat_le] at hlow
      exact absurd (Nat.le_trans h.low_ge hlow) (Nat.not_le.2 hlt)
    simp only [step, if_neg hout, begin_of_isAsciiByte hb]
    rfl

/-- A byte above ASCII yields nothing in ASCII. -/
theorem filter_step {s : State} (h : s.Sound) {b : UInt8} (hb : isAsciiByte b = false) :
    (step s b).1.filter isAscii = [] := by
  cases s with
  | start => exact filter_begin hb
  | within missing low high code =>
    simp only [step]
    split
    · rename_i hin
      split
      · rename_i hlast
        exact List.filter_cons_of_neg (by simp [h.isAscii_last hlast hin.1 hin.2])
      · rfl
    · exact filter_begin hb

/-! ## All bytes -/

theorem sound_start : State.start.Sound := trivial

theorem run_cons (s : State) (b : UInt8) (rest : List UInt8) :
    run s (b :: rest) = (step s b).1 ++ run (step s b).2 rest := rfl

theorem filter_finish (s : State) : (finish s).filter isAscii = [] := by
  cases s <;> rfl

/-- The ASCII characters of a run are its ASCII bytes. -/
theorem filter_run {s : State} (h : s.Sound) (bytes : List UInt8) :
    (run s bytes).filter isAscii = (bytes.filter isAsciiByte).map ofAscii := by
  induction bytes generalizing s with
  | nil => exact filter_finish s
  | cons b rest ih =>
    rw [run_cons, List.filter_append, ih (sound_step h b)]
    cases hb : isAsciiByte b with
    | false => rw [filter_step h hb, List.filter_cons_of_neg (by simp [hb]), List.nil_append]
    | true =>
      rw [step_of_isAsciiByte h hb, List.filter_append, filter_finish, List.nil_append,
        List.filter_cons_of_pos (isAscii_ofAscii hb), List.filter_cons_of_pos hb]
      rfl

/-- The ASCII characters of a text are the ASCII bytes of what it is read from, in their order. -/
theorem filter_decodeLossy (bytes : List UInt8) :
    (decodeLossy bytes).filter isAscii = (bytes.filter isAsciiByte).map ofAscii :=
  filter_run sound_start bytes

/-- An ASCII character stands in a text as often as its byte stands in what it is read from. -/
theorem count_decodeLossy (bytes : List UInt8) {b : UInt8} (h : isAsciiByte b = true) :
    (decodeLossy bytes).count (ofAscii b) = bytes.count b := by
  rw [← List.count_filter (isAscii_ofAscii h), filter_decodeLossy,
    List.count_map_of_injective _ _ ofAscii_injective, List.count_filter h]

/-- ASCII bytes behind a run close what is open and are read as they are. -/
theorem run_append {s : State} (h : s.Sound) (bytes : List UInt8) {more : List UInt8}
    (hmore : ∀ b ∈ more, isAsciiByte b = true) :
    run s (bytes ++ more) = run s bytes ++ more.map ofAscii := by
  induction bytes generalizing s with
  | nil =>
    rw [List.nil_append]
    induction more generalizing s with
    | nil => exact (List.append_nil _).symm
    | cons b rest ih =>
      have hrest := ih (fun c hc => hmore c (List.mem_cons_of_mem b hc)) sound_start
      rw [run_cons, step_of_isAsciiByte h (hmore b List.mem_cons_self), hrest, List.map_cons,
        List.append_assoc]
      rfl
  | cons b rest ih =>
    rw [List.cons_append, run_cons, run_cons, ih (sound_step h b), List.append_assoc]

/-- ASCII bytes behind others are read as they are, also where they cut a sequence short. -/
theorem decodeLossy_append (bytes : List UInt8) {more : List UInt8}
    (hmore : ∀ b ∈ more, isAsciiByte b = true) :
    decodeLossy (bytes ++ more) = decodeLossy bytes ++ more.map ofAscii :=
  run_append sound_start bytes hmore

end SyslogCollector.Utf8
