import Mathlib.Algebra.Ring.Nat

/-!
# Decimal digits

A digit string stands for a number, which `Nat.ofDigitChars` reads from its characters. What is in front of a digit
string fixes the number up to as many places as the string has (`Digits.bounds`), so digit strings of one length are
ordered as the numbers they stand for (`Digits.append_lt_append_iff`). Zeros in front of a number as it is printed do
not count (`ofDigitChars_padded`).
-/

namespace GraphDisk

/-- **A digit string.** -/
def Digits (ds : List Char) : Prop := ∀ c ∈ ds, c.isDigit = true

namespace Digits

variable {ds es u v : List Char} {c : Char}

theorem head (h : Digits (c :: ds)) : 48 ≤ c.toNat ∧ c.toNat ≤ 57 := by
  have hc := h c List.mem_cons_self
  simp only [Char.isDigit, Bool.and_eq_true, decide_eq_true_eq] at hc
  exact ⟨hc.1, hc.2⟩

theorem tail (h : Digits (c :: ds)) : Digits ds := fun d hd => h d (List.mem_cons_of_mem _ hd)

/-- The number that digits stand for is fixed by what is in front of them, up to as many places as there are digits. -/
theorem bounds : ∀ {ds : List Char}, Digits ds → ∀ a,
    a * 10 ^ ds.length ≤ Nat.ofDigitChars 10 ds a ∧ Nat.ofDigitChars 10 ds a < (a + 1) * 10 ^ ds.length
  | [], _, a => by simp
  | c :: ds, h, a => by
    obtain ⟨hle, hlt⟩ := h.tail.bounds (10 * a + (c.toNat - 48))
    have hc := h.head
    rw [Nat.ofDigitChars_cons, List.length_cons, Nat.pow_succ]
    have hlow : a * (10 ^ ds.length * 10) ≤ (10 * a + (c.toNat - 48)) * 10 ^ ds.length := by
      rw [Nat.mul_comm (10 ^ ds.length) 10, ← Nat.mul_assoc]
      exact Nat.mul_le_mul_right _ (by omega)
    have hhigh : (10 * a + (c.toNat - 48) + 1) * 10 ^ ds.length ≤ (a + 1) * (10 ^ ds.length * 10) := by
      rw [Nat.mul_comm (10 ^ ds.length) 10, ← Nat.mul_assoc]
      exact Nat.mul_le_mul_right _ (by omega)
    exact ⟨Nat.le_trans hlow hle, Nat.lt_of_lt_of_le hlt hhigh⟩

/-- A greater first digit makes a greater number, whatever follows. -/
theorem lt_of_head_lt {a m n : Nat} (h : Digits ds) (h' : Digits es) (hlength : ds.length = es.length) (hmn : m < n) :
    Nat.ofDigitChars 10 ds (10 * a + m) < Nat.ofDigitChars 10 es (10 * a + n) := by
  have hds := (h.bounds (10 * a + m)).2
  have hes := (h'.bounds (10 * a + n)).1
  have hstep : (10 * a + m + 1) * 10 ^ ds.length ≤ (10 * a + n) * 10 ^ es.length := by
    rw [hlength]
    exact Nat.mul_le_mul_right _ (by omega)
  omega

/-- **Digit strings of one length are ordered as numbers.** What follows them counts if they are the same. -/
theorem append_lt_append_iff : ∀ {ds es : List Char}, Digits ds → Digits es → ds.length = es.length → ∀ a,
    (ds ++ u < es ++ v ↔ Nat.ofDigitChars 10 ds a < Nat.ofDigitChars 10 es a ∨
      Nat.ofDigitChars 10 ds a = Nat.ofDigitChars 10 es a ∧ u < v)
  | [], [], _, _, _, a => by simp
  | c :: ds, d :: es, h, h', hlength, a => by
    have hrest : ds.length = es.length := Nat.succ.inj hlength
    have hc := h.head
    have hd := h'.head
    rw [List.cons_append, List.cons_append, List.cons_lt_cons_iff, Nat.ofDigitChars_cons, Nat.ofDigitChars_cons]
    rcases Nat.lt_trichotomy c.toNat d.toNat with hlt | heq | hgt
    · have hvalue := lt_of_head_lt (a := a) h.tail h'.tail hrest (show c.toNat - 48 < d.toNat - 48 by omega)
      exact ⟨fun _ => Or.inl hvalue, fun _ => Or.inl hlt⟩
    · obtain rfl : c = d := Char.toNat_inj.mp heq
      rw [← append_lt_append_iff h.tail h'.tail hrest (10 * a + (c.toNat - '0'.toNat))]
      simp
    · have hvalue := lt_of_head_lt (a := a) h'.tail h.tail hrest.symm (show d.toNat - 48 < c.toNat - 48 by omega)
      constructor
      · rintro (hlt | ⟨rfl, -⟩)
        · exact absurd hlt (Nat.not_lt.mpr (Nat.le_of_lt hgt))
        · exact absurd hgt (Nat.lt_irrefl _)
      · rintro (hlt | ⟨heq, -⟩)
        · exact absurd hlt (Nat.not_lt.mpr (Nat.le_of_lt hvalue))
        · exact absurd heq (Nat.ne_of_gt hvalue)

/-- The leading digits stand for the number without its last places. -/
theorem ofDigitChars_div (h : Digits es) :
    Nat.ofDigitChars 10 (ds ++ es) 0 / 10 ^ es.length = Nat.ofDigitChars 10 ds 0 := by
  obtain ⟨hle, hlt⟩ := h.bounds (Nat.ofDigitChars 10 ds 0)
  rw [Nat.ofDigitChars_append]
  exact Nat.div_eq_of_lt_le hle hlt

end Digits

/-! ## Numbers as they are printed -/

theorem digits_toDigits (n : Nat) : Digits (Nat.toDigits 10 n) := fun _ hc =>
  Nat.isDigit_of_mem_toDigits (by omega) (by omega) hc

/-- **A number is printed without a zero in front**, unless the zero is all there is. -/
theorem toDigits_ne_zero_cons (n : Nat) (c : Char) (ds : List Char) : Nat.toDigits 10 n ≠ '0' :: c :: ds := by
  intro h
  have hdigits : Digits (c :: ds) := fun d hd => digits_toDigits n d (h ▸ List.mem_cons_of_mem _ hd)
  have hvalue : Nat.ofDigitChars 10 ('0' :: c :: ds) 0 = n := h ▸ Nat.ofDigitChars_ten_toDigits
  rw [Nat.ofDigitChars_cons] at hvalue
  have hbound := (hdigits.bounds 0).2
  rw [show Nat.ofDigitChars 10 (c :: ds) 0 = n from hvalue, Nat.zero_add, Nat.one_mul,
    ← Nat.length_toDigits_le_iff (by omega) (by simp), h] at hbound
  exact absurd hbound (by simp)

variable (k n : Nat)

theorem digits_padded : Digits (List.replicate k '0' ++ Nat.toDigits 10 n) := by
  intro c hc
  rcases List.mem_append.mp hc with hc | hc
  · rw [(List.mem_replicate.mp hc).2]
    rfl
  · exact digits_toDigits n c hc

/-- Zeros in front do not change the number. -/
theorem ofDigitChars_padded : Nat.ofDigitChars 10 (List.replicate k '0' ++ Nat.toDigits 10 n) 0 = n := by
  rw [Nat.ofDigitChars_append, Nat.ofDigitChars_replicate_zero, Nat.mul_zero, Nat.ofDigitChars_ten_toDigits]

end GraphDisk
