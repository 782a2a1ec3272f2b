import Mathlib.Data.List.Nodup
import Mathlib.Data.List.Perm.Subperm
import GraphDisk.Proofs.Shard.Layout

/-!
# Positions of columns

The columns of a schema are looked up in a file by name and by type, and found at positions that a record has
(`Schema.positions_inBounds`). The names of the columns differ, so different columns are at different positions
(`Schema.nodup_positions`), and since a file has as many leaves as columns every position is that of a column
(`Schema.positions_perm`).
-/

namespace GraphDisk

namespace Schema

variable {s : Schema} {elements : List Element} {positions : List Nat}

theorem positions_eq_ok (h : s.positions elements = .ok positions) : elements.length = s.columns.length ∧
    List.Forall₂ (fun column i => s.position (Leaf.ofElements elements) column = .ok i) s.columns positions := by
  simp only [Schema.positions] at h
  split at h
  · rename_i hflat
    exact ⟨hflat.1.trans hflat.2, mapM_eq_ok.mp h⟩
  · cases h

/-- **Positions that are found are in range**, whatever the layout. -/
theorem positions_inBounds (h : s.positions elements = .ok positions) :
    positions.length = s.columns.length ∧ ∀ i ∈ positions, i < elements.length := by
  simp only [Schema.positions] at h
  split at h
  · rename_i hflat
    refine ⟨(mapM_eq_ok.mp h).length_eq.symm, fun i hi => ?_⟩
    obtain ⟨column, -, hfound⟩ := mem_of_mapM_ok h hi
    obtain ⟨leaf, hleaf, -⟩ := getElem?_position hfound
    rw [hflat.1]
    exact (List.getElem?_eq_some_iff.mp hleaf).1
  · cases h

/-- **Different columns are at different positions.** -/
theorem nodup_positions (h : s.positions elements = .ok positions) : positions.Nodup := by
  -- the names at the positions are those of the columns, which differ
  have hnames : (s.columns.map fun c => some c.name).Nodup := by cases s <;> decide
  have hfound : s.columns.map (fun c => some c.name) =
      positions.map fun i => ((Leaf.ofElements elements)[i]?).map Leaf.name := by
    rw [← List.forall₂_eq_eq_eq, List.forall₂_map_left_iff, List.forall₂_map_right_iff]
    refine (positions_eq_ok h).2.imp fun column i hi => ?_
    obtain ⟨leaf, hleaf, haccepts⟩ := getElem?_position hi
    simp only [accepts, Bool.and_eq_true, beq_iff_eq] at haccepts
    rw [hleaf, Option.map_some, haccepts.1.1]
  rw [hfound] at hnames
  exact hnames.of_map

/-- **The positions of the columns are all positions there are**, each once. -/
theorem positions_perm (h : s.positions elements = .ok positions) : positions.Perm (List.range elements.length) := by
  obtain ⟨hlength, hlt⟩ := positions_inBounds h
  have hcount : (List.range elements.length).length = positions.length := by
    rw [List.length_range, hlength, (positions_eq_ok h).1]
  have hsub : positions.Subperm (List.range elements.length) :=
    List.subperm_of_subset (nodup_positions h) fun i hi => List.mem_range.mpr (hlt i hi)
  exact hsub.perm_of_length_le (Nat.le_of_eq hcount)

end Schema

end GraphDisk
