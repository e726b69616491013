import Mathlib.Tactic.SplitIfs
import SyslogCollector.Text.Utf8
/-!
# The order of bytes

Texts are ordered by their characters. That is the order of their bytes as well
(`encode_lt_encode`): in UTF-8 the bytes of two characters differ first where the one of the smaller
character is smaller, and neither character's bytes are the beginning of the other's.
-/

namespace SyslogCollector.Utf8

theorem toList_eq (bytes : ByteArray) : bytes.toList = bytes.data.toList := by
  have hloop (i : Nat) (done : List UInt8) :
      ByteArray.toList.loop bytes i done = done.reverse ++ bytes.data.toList.drop i := by
    fun_induction ByteArray.toList.loop bytes i done with
    | case1 i done hlt ih =>
      have hi : i < bytes.data.toList.length := by simpa using hlt
      rw [ih, List.drop_eq_getElem_cons hi]
      simp [ByteArray.get!, hlt]
    | case2 i done hge =>
      have hend : bytes.data.toList.length ≤ i := by simpa using Nat.le_of_not_lt hge
      rw [List.drop_eq_nil_of_le hend, List.append_nil]
  exact hloop 0 []

/-- The bytes of a text are those of its characters, one after the other. -/
theorem encode_eq (text : String) : encode text = text.toList.flatMap String.utf8EncodeChar := by
  rw [encode, toList_eq, String.toUTF8_eq_toByteArray, ← String.utf8Encode_toList, List.utf8Encode,
    List.toList_data_toByteArray]

/-- The bytes of two characters are in the order of these, whatever follows. -/
theorem utf8EncodeChar_append_lt {c d : Char} (h : c < d) (after after' : List UInt8) :
    String.utf8EncodeChar c ++ after < String.utf8EncodeChar d ++ after' := by
  have hlt : c.val.toNat < d.val.toNat := h
  have hmax : d.val.toNat < 0x110000 := by
    rcases d.valid with h | h <;> omega
  unfold String.utf8EncodeChar
  generalize c.val.toNat = m at hlt
  generalize d.val.toNat = n at hlt hmax
  have hshift (k : Nat) : k / 4096 = k / 64 / 64 ∧ k / 262144 = k / 64 / 64 / 64 := by omega
  have hbyte (k : Nat) : (k % 64 + 128) % 2 ^ 8 = k % 64 + 128 := by omega
  dsimp only
  -- a character of more bytes has a greater first byte; those of as many bytes are compared byte
  -- by byte, each with its six bits of the code
  split_ifs <;>
    simp only [List.cons_append, List.nil_append, List.cons_lt_cons_iff, UInt8.lt_iff_toNat_lt,
      ← UInt8.toNat_inj, UInt8.toNat_ofNat', hshift, hbyte] <;>
    omega

/-- The bytes of texts are in the order of the texts. -/
theorem encode_lt_encode {s t : String} (h : s < t) : encode s < encode t := by
  have hchars (s t : List Char) (h : s < t) :
      s.flatMap String.utf8EncodeChar < t.flatMap String.utf8EncodeChar := by
    induction s generalizing t with
    | nil =>
      cases t with
      | nil => exact absurd h (List.lt_irrefl _)
      | cons d t =>
        -- every character has a byte
        rw [List.flatMap_nil, List.flatMap_cons]
        have hne : String.utf8EncodeChar d ≠ [] := String.utf8EncodeChar_ne_nil
        obtain ⟨b, rest, hbytes⟩ := List.exists_cons_of_ne_nil hne
        rw [hbytes]
        exact List.nil_lt_cons b _
    | cons c s ih =>
      cases t with
      | nil => exact absurd h (List.not_lt_nil _)
      | cons d t =>
        rw [List.flatMap_cons, List.flatMap_cons]
        rcases List.cons_lt_cons_iff.1 h with hlt | ⟨rfl, hlt⟩
        · exact utf8EncodeChar_append_lt hlt _ _
        · exact List.append_left_lt (ih t hlt)
  rw [encode_eq, encode_eq]
  exact hchars _ _ h

end SyslogCollector.Utf8
