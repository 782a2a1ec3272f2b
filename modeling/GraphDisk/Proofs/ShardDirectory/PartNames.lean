import GraphDisk.Proofs.FileSystem.Entry
import GraphDisk.Proofs.Text.Digits
import GraphDisk.ShardDirectory.Listing

/-!
# Names of numbered data files

A numbered data file has its number in at least five digits in its name. Different numbers make different names
(`partFileName_injective`). Digit strings of one length are ordered as the numbers they stand for
(`Digits.append_lt_append_iff`), so two names are compared as if the digits that only the longer one has were cut off,
and if that makes no difference the shorter name comes first, because a point comes before every digit. So the name of a
lesser number comes first iff that number is not above what is left of the greater one (`partFileName_lt_iff`), which is
always so if the names are of one length.
-/

namespace GraphDisk

/-! ## Numbers in names -/

/-- The digits in the name of a data file. -/
def partDigits (index : Nat) : List Char :=
  List.replicate (5 - (Nat.toDigits 10 index).length) '0' ++ Nat.toDigits 10 index

/-- How many digits the name of a data file has. -/
def partWidth (index : Nat) : Nat := (partDigits index).length

variable {k l n : Nat}

theorem partFileName_toList (k : Nat) :
    (partFileName k).toList = "part-".toList ++ (partDigits k ++ ".parquet".toList) := by
  simp [partFileName, partDigits]

theorem digits_partDigits (k : Nat) : Digits (partDigits k) := digits_padded _ k

/-- The digits stand for the number. -/
theorem ofDigitChars_partDigits (k : Nat) : Nat.ofDigitChars 10 (partDigits k) 0 = k := ofDigitChars_padded _ k

/-- A name has as few digits as the number needs, but five at least. -/
theorem partWidth_le_iff (hn : 5 ≤ n) : partWidth k ≤ n ↔ k < 10 ^ n := by
  rw [← Nat.length_toDigits_le_iff (by omega) (by omega), partWidth, partDigits,
    List.length_append, List.length_replicate]
  omega

theorem five_le_partWidth (k : Nat) : 5 ≤ partWidth k := by
  rw [partWidth, partDigits, List.length_append, List.length_replicate]
  omega

theorem partWidth_mono (h : k ≤ l) : partWidth k ≤ partWidth l := by
  rw [partWidth_le_iff (five_le_partWidth l)]
  exact Nat.lt_of_le_of_lt h ((partWidth_le_iff (five_le_partWidth l)).mp (Nat.le_refl _))

/-! ## Names -/

/-- **Different numbers make different names.** -/
theorem partFileName_injective (h : partFileName k = partFileName l) : k = l := by
  have htext := congrArg String.toList h
  rw [partFileName_toList, partFileName_toList] at htext
  have hdigits := List.append_cancel_right (List.append_cancel_left htext)
  rw [← ofDigitChars_partDigits k, hdigits, ofDigitChars_partDigits]

theorem isEntryName_part (k : Nat) : IsEntryName (partFileName k) where
  ne_empty h := by simpa [partFileName_toList] using congrArg String.toList h
  ne_dot h := by simpa [partFileName_toList] using congrArg String.toList h
  ne_dots h := by simpa [partFileName_toList] using congrArg String.toList h
  no_slash := by
    rw [partFileName_toList]
    intro h
    rcases List.mem_append.mp h with h | h
    · exact absurd h (by decide)
    · rcases List.mem_append.mp h with h | h
      · exact absurd (digits_partDigits k _ h) (by decide)
      · exact absurd h (by decide)

/-- **The name of a lesser number comes first** iff that number is not above what is left of the greater one once the
digits are cut off that only the greater one has. -/
theorem partFileName_lt_iff (h : k < l) :
    partFileName k < partFileName l ↔ k ≤ l / 10 ^ (partWidth l - partWidth k) := by
  have hwidth : partWidth k ≤ partWidth l := partWidth_mono (Nat.le_of_lt h)
  have hsplit : (partDigits l).take (partWidth k) ++ (partDigits l).drop (partWidth k) =
      partDigits l := List.take_append_drop _ _
  have hlead : Digits ((partDigits l).take (partWidth k)) := fun c hc => digits_partDigits l c (List.mem_of_mem_take hc)
  have hrest : Digits ((partDigits l).drop (partWidth k)) := fun c hc => digits_partDigits l c (List.mem_of_mem_drop hc)
  have hlength : (partDigits k).length = ((partDigits l).take (partWidth k)).length := by
    rw [List.length_take]
    exact (Nat.min_eq_left hwidth).symm
  have hvalue : Nat.ofDigitChars 10 ((partDigits l).take (partWidth k)) 0 = l / 10 ^ (partWidth l - partWidth k) := by
    rw [← hrest.ofDigitChars_div, hsplit, ofDigitChars_partDigits, List.length_drop]
    rfl
  have hcompare : partFileName k < partFileName l ↔ k < l / 10 ^ (partWidth l - partWidth k) ∨
      k = l / 10 ^ (partWidth l - partWidth k) ∧
        ".parquet".toList < (partDigits l).drop (partWidth k) ++ ".parquet".toList := by
    have hdigits := Digits.append_lt_append_iff (u := ".parquet".toList)
      (v := (partDigits l).drop (partWidth k) ++ ".parquet".toList) (digits_partDigits k) hlead hlength 0
    rw [hvalue, ofDigitChars_partDigits, ← List.append_assoc, hsplit] at hdigits
    rw [← hdigits, String.lt_iff, partFileName_toList, partFileName_toList]
    simp
  rw [hcompare]
  cases hmore : (partDigits l).drop (partWidth k) with
  | nil =>
    -- names of one length: nothing is cut off, and the numbers decide
    have hsame : partWidth l ≤ partWidth k := List.drop_eq_nil_iff.mp hmore
    rw [Nat.sub_eq_zero_of_le hsame, Nat.pow_zero, Nat.div_one]
    exact ⟨fun _ => Nat.le_of_lt h, fun _ => Or.inl h⟩
  | cons c cs =>
    have hpoint : ".parquet".toList < c :: cs ++ ".parquet".toList := by
      have hc := (hmore ▸ hrest).head
      refine List.cons_lt_cons_iff.mpr (Or.inl ?_)
      show '.'.toNat < c.toNat
      exact Nat.lt_of_lt_of_le (by decide) hc.1
    rw [Nat.le_iff_lt_or_eq]
    simp only [hpoint, and_true]

end GraphDisk
