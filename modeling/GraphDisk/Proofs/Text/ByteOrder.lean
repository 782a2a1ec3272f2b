import Mathlib.Data.List.Basic

/-!
# The order of texts is the order of their bytes

Texts are compared character by character, and files are named by bytes. The one order is the other
(`Text.le_iff_bytes_le`): the bytes of a greater character are greater, whatever follows (`Text.encode_lt`). Between
characters of different sizes the first byte decides already, and otherwise the bytes are digits to the base 64.
-/

namespace GraphDisk

namespace Text

/-- The bytes of a text. -/
def bytes (s : String) : List UInt8 := s.toUTF8.data.toList

theorem bytes_eq (s : String) : bytes s = s.toList.flatMap String.utf8EncodeChar := by
  rw [bytes, String.toUTF8, ← String.utf8Encode_toList, List.utf8Encode]
  simp

variable {m n : Nat} {u v : List UInt8} {c c' : Char}

theorem cons_lt (hn : n < 256) (hmn : m ≤ n) (h : m = n → u < v) : UInt8.ofNat m :: u < UInt8.ofNat n :: v := by
  rw [List.cons_lt_cons_iff]
  rcases Nat.lt_or_eq_of_le hmn with hlt | rfl
  · left
    rw [UInt8.lt_iff_toNat_lt, UInt8.toNat_ofNat_of_lt' (Nat.lt_trans hlt hn), UInt8.toNat_ofNat_of_lt' hn]
    exact hlt
  · exact Or.inr ⟨rfl, h rfl⟩

/-- **The bytes of a greater character are greater.** -/
theorem encode_lt (h : c < c') (u v : List UInt8) : String.utf8EncodeChar c ++ u < String.utf8EncodeChar c' ++ v := by
  have hlt : c.val.toNat < c'.val.toNat := h
  have hmax : c'.val.toNat ≤ 0x10ffff := by
    have hvalid := c'.valid
    simp only [UInt32.isValidChar, Nat.isValidChar] at hvalid
    omega
  unfold String.utf8EncodeChar
  generalize c.val.toNat = m at *
  generalize c'.val.toNat = n at *
  simp only
  by_cases hm₁ : m ≤ 0x7f
  · rw [if_pos hm₁]
    split
    · exact cons_lt (by omega) (by omega) (by omega)
    · split
      · exact cons_lt (by omega) (by omega) (by omega)
      · split
        · exact cons_lt (by omega) (by omega) (by omega)
        · exact cons_lt (by omega) (by omega) (by omega)
  rw [if_neg hm₁, if_neg (show ¬ n ≤ 0x7f by omega)]
  by_cases hm₂ : m ≤ 0x7ff
  · rw [if_pos hm₂]
    split
    · refine cons_lt (by omega) (by omega) fun h₁ => ?_
      exact cons_lt (by omega) (by omega) (by omega)
    · split
      · exact cons_lt (by omega) (by omega) (by omega)
      · exact cons_lt (by omega) (by omega) (by omega)
  rw [if_neg hm₂, if_neg (show ¬ n ≤ 0x7ff by omega)]
  by_cases hm₃ : m ≤ 0xffff
  · rw [if_pos hm₃]
    split
    · refine cons_lt (by omega) (by omega) fun h₁ => ?_
      refine cons_lt (by omega) (by omega) fun h₂ => ?_
      exact cons_lt (by omega) (by omega) (by omega)
    · exact cons_lt (by omega) (by omega) (by omega)
  rw [if_neg hm₃, if_neg (show ¬ n ≤ 0xffff by omega)]
  refine cons_lt (by omega) (by omega) fun h₁ => ?_
  refine cons_lt (by omega) (by omega) fun h₂ => ?_
  refine cons_lt (by omega) (by omega) fun h₃ => ?_
  exact cons_lt (by omega) (by omega) (by omega)

theorem flatMap_encode_lt : ∀ {cs cs' : List Char}, cs < cs' →
    cs.flatMap String.utf8EncodeChar < cs'.flatMap String.utf8EncodeChar
  | _, [], h => absurd h (List.not_lt_nil _)
  | [], c' :: cs', _ => by
    rw [List.flatMap_nil, List.flatMap_cons]
    cases hbytes : String.utf8EncodeChar c' ++ cs'.flatMap String.utf8EncodeChar with
    | nil => exact absurd (List.append_eq_nil_iff.mp hbytes).1 String.utf8EncodeChar_ne_nil
    | cons b bs => exact List.nil_lt_cons b bs
  | c :: cs, c' :: cs', h => by
    rw [List.flatMap_cons, List.flatMap_cons]
    rcases List.cons_lt_cons_iff.mp h with hlt | ⟨rfl, hlt⟩
    · exact encode_lt hlt _ _
    · exact List.append_left_lt (flatMap_encode_lt hlt)

/-- **The order of texts is the order of their bytes.** -/
theorem le_iff_bytes_le {s t : String} : s ≤ t ↔ bytes s ≤ bytes t := by
  have hlt : ∀ {s t : String}, s < t → bytes s < bytes t := fun h => by
    rw [bytes_eq, bytes_eq]
    exact flatMap_encode_lt h
  constructor
  · intro h hgt
    by_cases heq : t ≤ s
    · obtain rfl := String.le_antisymm h heq
      exact List.lt_irrefl _ hgt
    · exact List.lt_asymm (hlt (String.not_le.mp heq)) hgt
  · intro h hgt
    exact h (hlt hgt)

end Text

end GraphDisk
