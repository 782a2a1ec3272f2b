import Mathlib.Data.List.Nodup
import GraphDisk.Proofs.FileSystem.Entry
import GraphDisk.Proofs.Text.Digits
import GraphDisk.ShardDirectory.Publication

/-!
# Staging names

Different numbers make different staging names, and a name is either a staging name or one that goes aside with a
staging name. So each taken name rules out at most one of the candidates, and since there is one candidate more than
there are taken names one is left: `freshStagingName` and the name aside that goes with it are not taken
(`freshStagingName_spec`).
-/

namespace GraphDisk

/-- The digits of a staging name. -/
def stagingDigits (n : Nat) : List Char :=
  List.replicate (6 - (Nat.toDigits 10 n).length) '0' ++ Nat.toDigits 10 n

theorem stagingName_toList (n : Nat) : (stagingName n).toList = ".staging-".toList ++ stagingDigits n := by
  simp [stagingName, stagingDigits]

theorem asideName_toList (name : String) : (asideName name).toList = ".replaced".toList ++ name.toList := by
  simp [asideName]

/-! ## Staging names are names of entries -/

theorem isDigit_of_mem_stagingDigits {n : Nat} {c : Char} (h : c ∈ stagingDigits n) : c.isDigit := digits_padded _ n c h

theorem slash_not_mem_stagingName (n : Nat) : '/' ∉ (stagingName n).toList := by
  rw [stagingName_toList]
  intro h
  rcases List.mem_append.mp h with h | h
  · exact absurd h (by decide)
  · exact absurd (isDigit_of_mem_stagingDigits h) (by decide)

theorem isEntryName_stagingName (n : Nat) : IsEntryName (stagingName n) where
  ne_empty h := by simpa [stagingName_toList] using congrArg String.toList h
  ne_dot h := by simpa [stagingName_toList] using congrArg String.toList h
  ne_dots h := by simpa [stagingName_toList] using congrArg String.toList h
  no_slash := slash_not_mem_stagingName n

/-- The name aside that goes with the name of an entry. -/
theorem IsEntryName.aside {name : String} (h : IsEntryName name) : IsEntryName (asideName name) where
  ne_empty e := by simpa [asideName_toList] using congrArg String.toList e
  ne_dot e := by simpa [asideName_toList] using congrArg String.toList e
  ne_dots e := by simpa [asideName_toList] using congrArg String.toList e
  no_slash := by
    rw [asideName_toList]
    intro hm
    rcases List.mem_append.mp hm with hm | hm
    · exact absurd hm (by decide)
    · exact h.no_slash hm

theorem ne_asideName (name : String) : name ≠ asideName name := fun h => by
  have := congrArg (fun t => t.toList.length) h
  simp only [asideName_toList, List.length_append] at this
  exact absurd (Nat.left_eq_add.mp (this.trans (Nat.add_comm _ _))) (by decide)

theorem isEntryName_asideName (n : Nat) : IsEntryName (asideName (stagingName n)) := (isEntryName_stagingName n).aside

/-! ## Different staging names -/

theorem stagingName_injective {n m : Nat} (h : stagingName n = stagingName m) : n = m := by
  have hvalue : ∀ k, Nat.ofDigitChars 10 (stagingDigits k) 0 = k := fun k => ofDigitChars_padded _ k
  have hdigits : stagingDigits n = stagingDigits m := by
    have := congrArg String.toList h
    rw [stagingName_toList, stagingName_toList] at this
    exact List.append_cancel_left this
  rw [← hvalue n, hdigits, hvalue m]

theorem asideName_injective {s t : String} (h : asideName s = asideName t) : s = t := by
  have := congrArg String.toList h
  rw [asideName_toList, asideName_toList] at this
  exact String.toList_inj.mp (List.append_cancel_left this)

/-- No staging name goes aside with anything. -/
theorem stagingName_ne_asideName (n : Nat) (t : String) : stagingName n ≠ asideName t := fun h => by
  have := congrArg String.toList h
  rw [stagingName_toList, asideName_toList] at this
  simp at this

/-! ## A free staging name -/

/-- The name that rules a staging name out. -/
def ruledOutBy (taken : List String) (name : String) : String := if name ∈ taken then name else asideName name

/-- Different staging names are ruled out by different names. -/
theorem ruledOutBy_injective {taken : List String} {n m : Nat}
    (h : ruledOutBy taken (stagingName n) = ruledOutBy taken (stagingName m)) : n = m := by
  unfold ruledOutBy at h
  split at h
  · split at h
    · exact stagingName_injective h
    · exact absurd h (stagingName_ne_asideName n _)
  · split at h
    · exact absurd h.symm (stagingName_ne_asideName m _)
    · exact stagingName_injective (asideName_injective h)

/-- Of more staging names than there are taken names, one is left. -/
theorem exists_free_stagingName (taken : List String) :
    ∃ n ∈ List.range (taken.length + 1), stagingName n ∉ taken ∧ asideName (stagingName n) ∉ taken := by
  by_contra hnone
  push Not at hnone
  let names := (List.range (taken.length + 1)).map fun n => ruledOutBy taken (stagingName n)
  have hnodup : names.Nodup :=
    List.nodup_range.map_on fun n _ m _ h => ruledOutBy_injective h
  have hsub : names ⊆ taken := by
    intro t ht
    obtain ⟨n, hn, rfl⟩ := List.mem_map.mp ht
    by_cases hs : stagingName n ∈ taken
    · rw [ruledOutBy, if_pos hs]; exact hs
    · rw [ruledOutBy, if_neg hs]; exact hnone n hn hs
  have hlen : names.length ≤ taken.length := hnodup.length_le_of_subset hsub
  simp only [names, List.length_map, List.length_range] at hlen
  omega

/-- **A fresh staging name is not taken**, and neither is the name aside that goes with it. -/
theorem freshStagingName_spec (entries : Directory) (name : String) :
    ∃ n, freshStagingName entries name = stagingName n ∧
    stagingName n ∉ name :: entries.map Prod.fst ∧ asideName (stagingName n) ∉ name :: entries.map Prod.fst := by
  obtain ⟨k, hk, hfree⟩ := exists_free_stagingName (name :: entries.map Prod.fst)
  unfold freshStagingName
  simp only
  cases hf : ((List.range ((name :: entries.map Prod.fst).length + 1)).map stagingName).find? fun c =>
      !(name :: entries.map Prod.fst).contains c && !(name :: entries.map Prod.fst).contains (asideName c) with
  | none =>
    have := List.find?_eq_none.mp hf (stagingName k) (List.mem_map_of_mem hk)
    simp only [List.contains_eq_mem, hfree.1, hfree.2] at this
    exact absurd rfl this
  | some c =>
    obtain ⟨n, -, rfl⟩ := List.mem_map.mp (List.mem_of_find?_eq_some hf)
    have := List.find?_some hf
    refine ⟨n, rfl, ?_⟩
    simpa using this

/-- The first staging name is taken if it is free. -/
theorem freshStagingName_eq_first {entries : Directory} {name : String}
    (hs : stagingName 0 ∉ name :: entries.map Prod.fst)
    (ha : asideName (stagingName 0) ∉ name :: entries.map Prod.fst) :
    freshStagingName entries name = stagingName 0 := by
  unfold freshStagingName
  simp only
  rw [List.range_succ_eq_map, List.map_cons, List.find?_cons_of_pos (by simp [List.contains_eq_mem, hs, ha])]
  rfl

end GraphDisk
