import Mathlib.Data.Finset.Card
import Mathlib.Data.Finset.Image
import Mathlib.Logic.Equiv.Basic
import GraphDisk.Proofs.Shard.Nested

/-!
# Recognising the schema of a file

A file has a schema iff its leaves are the columns of the schema in some order (`Schema.positions_ok_iff`). The columns
of different schemas are different, so a file has one schema at most (`Schema.eq_of_positions`), and it does not matter
which is tried first. If the columns of a file change places, so do the positions that are found
(`Schema.positions_rearranged`). For files without groups all this is put together in `Schema.detection_of_flat`.
-/

namespace GraphDisk

/-- If one item at most is looked for, it is found wherever it is. -/
theorem find?_eq_some_of_unique {α : Type} {p : α → Bool} {as : List α} {a : α}
    (hone : ∀ a b, p a = true → p b = true → a = b) : as.find? p = some a ↔ a ∈ as ∧ p a = true := by
  constructor
  · intro h
    exact ⟨List.mem_of_find?_eq_some h, List.find?_some h⟩
  · rintro ⟨hmem, ha⟩
    obtain ⟨b, hb⟩ := Option.isSome_iff_exists.mp (List.find?_isSome.mpr ⟨a, hmem, ha⟩)
    rw [hb, hone a b ha (List.find?_some hb)]

/-! ## The leaves of a file -/

/-- The leaf that stores a column. -/
def Column.leaf (c : Column) : Leaf := ⟨c.name, c.type.physical, false⟩

/-- Without groups, every element is the leaf at its place. -/
theorem Leaf.getElem?_ofElements {elements : List Element} (hflat : Element.Flat elements) (i : Nat) :
    (ofElements elements)[i]? = elements[i]?.bind fun e => (ofElement false e).head? := by
  unfold ofElements
  induction elements generalizing i with
  | nil => rfl
  | cons e es ih =>
    obtain ⟨he, hes⟩ := List.forall_mem_cons.mp hflat
    cases e with
    | group name r inner => cases he
    | leaf name r physical tag =>
      cases i with
      | zero => simp [ofAll, ofElement]
      | succ i => simpa [ofAll, ofElement] using ih hes i

/-- Without groups there are as many leaves as elements. -/
theorem Element.balanced_of_flat {elements : List Element} (hflat : Element.Flat elements) : Balanced elements := by
  have hnone : elements.filter isGroup = [] := List.filter_eq_nil_iff.mpr fun e he => by simp [hflat e he]
  rw [balanced_iff, hnone]
  rfl

/-- **An element stores a column**, under any tag and with values that may be missing: a leaf of the column's name and
type that does not repeat. -/
inductive Element.Fits (c : Column) : Element → Prop
  | leaf {r : Repetition} {tag : Tag} : r ≠ .repeated → Fits c (.leaf c.name r c.type.physical tag)

theorem Element.fits_iff {c : Column} {name : String} {r : Repetition} {physical : PhysicalType} {tag : Tag} :
    Fits c (.leaf name r physical tag) ↔ (⟨name, physical, r == .repeated⟩ : Leaf) = c.leaf := by
  constructor
  · rintro ⟨hr⟩
    simp [Column.leaf, hr]
  · intro h
    simp only [Column.leaf, Leaf.mk.injEq, beq_eq_false_iff_ne] at h
    obtain ⟨rfl, rfl, hr⟩ := h
    exact .leaf hr

/-- The elements store some columns iff their leaves are those of the columns. -/
theorem Element.forall₂_fits {order : List Column} {elements : List Element} (hflat : Flat elements) :
    List.Forall₂ Fits order elements ↔ order.map Column.leaf = Leaf.ofElements elements := by
  unfold Leaf.ofElements
  induction elements generalizing order with
  | nil => simp [Leaf.ofAll]
  | cons e es ih =>
    obtain ⟨he, hes⟩ := List.forall_mem_cons.mp hflat
    cases e with
    | group name r inner => cases he
    | leaf name r physical tag =>
      cases order with
      | nil => simp [Leaf.ofAll, Leaf.ofElement]
      | cons c order =>
        rw [List.forall₂_cons, ih hes, fits_iff, List.map_cons, Leaf.ofAll, Leaf.ofElement, Bool.false_or,
          List.singleton_append, List.cons.injEq, eq_comm]

/-- A permutation of the leaves of some columns is that of the columns. -/
theorem perm_leaves_iff {leaves : List Leaf} {columns : List Column} :
    leaves.Perm (columns.map Column.leaf) ↔
      ∃ order : List Column, order.Perm columns ∧ order.map Column.leaf = leaves := by
  constructor
  · intro h
    have hcomp : Relation.Comp (List.Forall₂ fun (c : Column) l => c.leaf = l) List.Perm columns leaves :=
      ⟨columns.map Column.leaf, by rw [List.forall₂_map_right_iff, List.forall₂_same]; exact fun _ _ => rfl, h.symm⟩
    rw [List.forall₂_comp_perm_eq_perm_comp_forall₂] at hcomp
    obtain ⟨order, hp, hleaves⟩ := hcomp
    refine ⟨order, hp.symm, ?_⟩
    rwa [← List.forall₂_eq_eq_eq, List.forall₂_map_left_iff]
  · rintro ⟨order, hp, rfl⟩
    exact hp.map _

namespace Schema

variable {s s' : Schema} {elements elements' : List Element} {leaves leaves' : List Leaf}
  {positions positions' : List Nat}
  {column : Column} {leaf : Leaf} {i : Nat}

/-! ## Which files have a schema -/

theorem accepts_iff : accepts column leaf = true ↔ leaf = column.leaf := by
  obtain ⟨name, physical, repeats⟩ := leaf
  simp [accepts, Column.leaf, and_assoc]

/-- A column has a position iff its leaf is there. -/
theorem position_ok_iff : (∃ i, s.position leaves column = .ok i) ↔ column.leaf ∈ leaves := by
  unfold position
  cases hfind : leaves.findIdx? (accepts column) with
  | none =>
    have hnone := List.findIdx?_eq_none_iff.mp hfind
    simp only [reduceCtorEq, exists_false, false_iff]
    intro hmem
    have := hnone _ hmem
    rw [accepts_iff.mpr rfl] at this
    cases this
  | some i =>
    obtain ⟨hi, haccepts, -⟩ := List.findIdx?_eq_some_iff_getElem.mp hfind
    simp only [Except.ok.injEq, exists_eq', true_iff]
    rw [← accepts_iff.mp haccepts]
    exact List.getElem_mem hi

theorem position_error {fault : FormatFault} (h : s.position leaves column = .error fault) :
    fault = .missingColumn s column := by
  unfold position at h
  split at h
  · cases h
  · cases h
    rfl

/-- The leaves at the positions of the columns are those of the columns. -/
theorem leaves_of_positions (h : s.positions elements = .ok positions) :
    List.Forall₂ (fun (column : Column) i => (Leaf.ofElements elements)[i]? = some column.leaf)
      s.columns positions := by
  refine (positions_eq_ok h).2.imp fun column i hi => ?_
  obtain ⟨leaf, hleaf, haccepts⟩ := getElem?_position hi
  rw [hleaf, accepts_iff.mp haccepts]

/-- **A file in which the columns of a schema are found has no other columns**, since every position is that of a
column. -/
theorem perm_of_positions (h : s.positions elements = .ok positions) :
    (Leaf.ofElements elements).Perm (s.columns.map Column.leaf) := by
  have hbalanced : elements.length = (Leaf.ofElements elements).length := balanced_of_positions h
  have hall : (List.range elements.length).map (fun i => (Leaf.ofElements elements)[i]?) =
      (Leaf.ofElements elements).map some := by
    apply List.ext_getElem
    · simp [hbalanced]
    · intro i h₁ h₂
      simp
  have hcolumns : positions.map (fun i => (Leaf.ofElements elements)[i]?) = (s.columns.map Column.leaf).map some := by
    rw [← List.forall₂_eq_eq_eq, List.forall₂_map_left_iff, List.map_map, List.forall₂_map_right_iff]
    exact (leaves_of_positions h).flip
  have hperm := (positions_perm h).symm.map fun i => (Leaf.ofElements elements)[i]?
  rw [hall, hcolumns] at hperm
  exact (List.map_perm_map_iff (Option.some_injective Leaf)).mp hperm

/-- The elements of a file have the names of the columns. -/
theorem names_of_positions (hflat : Element.Flat elements) (h : s.positions elements = .ok positions) :
    (elements.map Element.name).Perm (s.columns.map Column.name) := by
  have hnames : (Leaf.ofElements elements).map Leaf.name = elements.map Element.name := by
    apply List.ext_getElem?
    intro i
    rw [List.getElem?_map, List.getElem?_map, Leaf.getElem?_ofElements hflat]
    cases he : elements[i]? with
    | none => rfl
    | some e =>
      cases e with
      | group name r inner => cases hflat _ (List.mem_of_getElem? he)
      | leaf name r physical tag => simp [Leaf.ofElement, Element.name]
  have hperm := (perm_of_positions h).map Leaf.name
  rwa [hnames, List.map_map] at hperm

/-- **A file has a schema** iff its leaves are the columns of the schema in some order, one at each place at the top. -/
theorem positions_ok_iff : (∃ positions, s.positions elements = .ok positions) ↔
    Element.Balanced elements ∧ (Leaf.ofElements elements).Perm (s.columns.map Column.leaf) := by
  constructor
  · rintro ⟨positions, h⟩
    exact ⟨balanced_of_positions h, perm_of_positions h⟩
  · rintro ⟨hbalanced, hperm⟩
    have hlength : (Leaf.ofElements elements).length = s.columns.length := by rw [hperm.length_eq, List.length_map]
    have hpositions : s.positions elements = s.columns.mapM (s.position (Leaf.ofElements elements)) :=
      if_pos ⟨hbalanced, hlength⟩
    rw [hpositions]
    rcases ok_or_error (s.columns.mapM (s.position (Leaf.ofElements elements))) with hok | hfail
    · exact hok
    · obtain ⟨column, hcolumn, e, he⟩ := mapM_fails.mp hfail
      obtain ⟨i, hi⟩ := position_ok_iff.mpr (hperm.mem_iff.mpr (List.mem_map_of_mem hcolumn))
      rw [hi] at he
      cases he

/-- **A file has one schema at most.** -/
theorem eq_of_positions (h : s.positions elements = .ok positions) (h' : s'.positions elements = .ok positions') :
    s = s' := by
  have hperm := (perm_of_positions h).symm.trans (perm_of_positions h')
  revert hperm
  cases s <;> cases s' <;> decide

/-- It does not matter in which order the schemas are tried. -/
theorem find?_positions {order : List Schema} (hp : order.Perm all) :
    order.find? (fun s => (s.positions elements).isOk) = some s ↔
      ∃ positions, s.positions elements = .ok positions := by
  have hok : ∀ s : Schema, (s.positions elements).isOk = true ↔ ∃ positions, s.positions elements = .ok positions := by
    intro s
    cases s.positions elements <;> simp [Except.isOk, Except.toBool]
  rw [find?_eq_some_of_unique, hok]
  · exact and_iff_right (hp.mem_iff.mpr (by cases s <;> decide))
  · intro s₁ s₂ h₁ h₂
    obtain ⟨p₁, hp₁⟩ := (hok s₁).mp h₁
    obtain ⟨p₂, hp₂⟩ := (hok s₂).mp h₂
    exact eq_of_positions hp₁ hp₂

theorem detect_eq_ok : detect elements = .ok s ↔ ∃ positions, s.positions elements = .ok positions := by
  rw [← find?_positions (List.Perm.refl all)]
  unfold detect
  cases all.find? fun s => (s.positions elements).isOk <;> simp

theorem detect_error {fault : FormatFault} (h : detect elements = .error fault) :
    fault = .unknownColumns (Leaf.ofElements elements) := by
  unfold detect at h
  split at h
  · cases h
  · cases h
    rfl

/-! ## Columns that change places -/

section Rearranged

variable {σ : Equiv.Perm Nat}

/-- The columns of a schema that is found are at one place each. -/
theorem getElem?_leaf_inj (h : s.positions elements = .ok positions) {i j : Nat}
    (hi : (Leaf.ofElements elements)[i]? = some column.leaf) (hj : (Leaf.ofElements elements)[j]? = some column.leaf) :
    i = j := by
  have hnodup : (Leaf.ofElements elements).Nodup := by
    rw [(perm_of_positions h).nodup_iff]
    cases s <;> decide
  obtain ⟨hlt, -⟩ := List.getElem?_eq_some_iff.mp hi
  exact (List.getElem?_inj hlt hnodup).mp (hi.trans hj.symm)

/-- A list whose items change places keeps its length. -/
theorem length_of_rearranged {α : Type} {as as' : List α} (hσ : ∀ i, as'[σ i]? = as[i]?) : as'.length = as.length := by
  have hrange : Finset.range as'.length = (Finset.range as.length).map σ.toEmbedding := by
    ext j
    have hj : as'[j]? = as[σ.symm j]? := by rw [← hσ, Equiv.apply_symm_apply]
    rw [Finset.mem_range, Finset.mem_map_equiv, Finset.mem_range, ← Nat.not_le, ← Nat.not_le,
      ← List.getElem?_eq_none_iff, ← List.getElem?_eq_none_iff, hj]
  have hcard := congrArg Finset.card hrange
  rwa [Finset.card_map, Finset.card_range, Finset.card_range] at hcard

theorem mem_of_rearranged {α : Type} {as as' : List α} {a : α} (hσ : ∀ i, as'[σ i]? = as[i]?) : a ∈ as' ↔ a ∈ as := by
  simp only [List.mem_iff_getElem?, ← hσ]
  exact σ.surjective.exists

/-- Columns that change places are found at their new places. -/
theorem position_rearranged (hσ : ∀ i, (Leaf.ofElements elements')[σ i]? = (Leaf.ofElements elements)[i]?)
    (h : s.positions elements = .ok positions) (hi : (Leaf.ofElements elements)[i]? = some column.leaf) :
    s.position (Leaf.ofElements elements') column = .ok (σ i) := by
  have hmem : column.leaf ∈ Leaf.ofElements elements' :=
    (mem_of_rearranged hσ).mpr (List.mem_of_getElem? hi)
  obtain ⟨j, hj⟩ := position_ok_iff.mpr hmem
  obtain ⟨leaf, hleaf, haccepts⟩ := getElem?_position hj
  have hback : (Leaf.ofElements elements)[σ.symm j]? = some column.leaf := by
    rw [← hσ, Equiv.apply_symm_apply, hleaf, accepts_iff.mp haccepts]
  rw [hj, ← getElem?_leaf_inj h hback hi, Equiv.apply_symm_apply]

/-- A column that is missing is missing in any order. -/
theorem position_missing_rearranged {fault : FormatFault}
    (hσ : ∀ i, (Leaf.ofElements elements')[σ i]? = (Leaf.ofElements elements)[i]?)
    (h : s.position (Leaf.ofElements elements) column = .error fault) :
    s.position (Leaf.ofElements elements') column = .error fault := by
  rcases ok_or_error (s.position (Leaf.ofElements elements') column) with hok | ⟨fault', h'⟩
  · obtain ⟨i, hi⟩ := position_ok_iff.mpr ((mem_of_rearranged hσ).mp (position_ok_iff.mp hok))
    rw [hi] at h
    cases h
  · rw [h', position_error h, position_error h']

/-- **If the columns of a file change places, so do the positions that are found.** -/
theorem positions_rearranged (s : Schema) (hlength : elements'.length = elements.length)
    (hσ : ∀ i, (Leaf.ofElements elements')[σ i]? = (Leaf.ofElements elements)[i]?) :
    s.positions elements' = (s.positions elements).map (List.map σ) := by
  have hleaves := length_of_rearranged hσ
  rcases ok_or_error (s.positions elements) with ⟨positions, h⟩ | ⟨fault, h⟩
  · have hfound : s.columns.mapM (s.position (Leaf.ofElements elements')) = .ok (positions.map σ) := by
      rw [mapM_eq_ok, List.forall₂_map_right_iff]
      exact (leaves_of_positions h).imp fun column i hi => position_rearranged hσ h hi
    have hflat : elements'.length = (Leaf.ofElements elements').length ∧
        (Leaf.ofElements elements').length = s.columns.length := by
      rw [hlength, hleaves, (positions_eq_ok h).1, (perm_of_positions h).length_eq, List.length_map]
      exact ⟨rfl, rfl⟩
    rw [h, Schema.positions]
    simp only [if_pos hflat, hfound]
    rfl
  · rw [h]
    simp only [Schema.positions] at h ⊢
    rw [hlength, hleaves]
    split at h
    · rename_i hflat
      rw [if_pos hflat]
      -- the columns before the first one that is missing are still there
      obtain ⟨before, column, behind, hcolumns, hbefore, hcolumn⟩ := mapM_eq_error.mp h
      refine mapM_eq_error.mpr ⟨before, column, behind, hcolumns, fun c hc => ?_,
        position_missing_rearranged hσ hcolumn⟩
      rw [position_ok_iff, mem_of_rearranged hσ]
      exact position_ok_iff.mp (hbefore c hc)
    · rename_i hflat
      rw [if_neg hflat]
      exact h

end Rearranged

/-- **A flat file is recognised by its columns, whatever their order.** It has the schema whose columns are those of the
file, and no other; every column is found at a place of its own, and no place is left. If the columns of a file change
places, the file is recognised as before, or refused as before with the columns named in their new order, and the
positions change accordingly. -/
theorem detection_of_flat (hflat : Element.Flat elements) :
    (∀ s, detect elements = .ok s ↔
      ∃ order : List Column, order.Perm s.columns ∧ List.Forall₂ Element.Fits order elements) ∧
    (∀ s s' : Schema, ∀ p p', s.positions elements = .ok p → s'.positions elements = .ok p' → s = s') ∧
    (∀ order : List Schema, order.Perm all →
      order.find? (fun s => (s.positions elements).isOk) = (detect elements).toOption) ∧
    (∀ (s : Schema) p, s.positions elements = .ok p → p.Nodup ∧ p.Perm (List.range elements.length) ∧
      List.Forall₂ (fun column i => ∃ e, elements[i]? = some e ∧ e.Fits column) s.columns p) ∧
    ∀ (σ : Equiv.Perm Nat) (elements' : List Element), (∀ i, elements'[σ i]? = elements[i]?) →
      detect elements' = (detect elements).mapError (fun _ => .unknownColumns (Leaf.ofElements elements')) ∧
      ∀ s : Schema, s.positions elements' = (s.positions elements).map (List.map σ) := by
  refine ⟨fun s => ?_, fun s s' p p' => eq_of_positions, fun order hp => ?_, fun s p h => ?_, fun σ elements' hσ => ?_⟩
  · rw [detect_eq_ok, positions_ok_iff, and_iff_right (Element.balanced_of_flat hflat), perm_leaves_iff]
    simp only [Element.forall₂_fits hflat]
  · ext s
    rw [find?_positions hp, ← detect_eq_ok]
    cases detect elements <;> simp [Except.toOption]
  · refine ⟨nodup_positions h, positions_perm h, (leaves_of_positions h).imp fun column i hi => ?_⟩
    obtain ⟨e, he, hleaf⟩ := Option.bind_eq_some_iff.mp ((Leaf.getElem?_ofElements hflat i).symm.trans hi)
    refine ⟨e, he, ?_⟩
    cases e with
    | group name r inner => cases hflat _ (List.mem_of_getElem? he)
    | leaf name r physical tag => simpa [Element.fits_iff, Leaf.ofElement] using hleaf
  · have hflat' : Element.Flat elements' := fun e he => hflat e ((mem_of_rearranged hσ).mp he)
    have hleaves : ∀ i, (Leaf.ofElements elements')[σ i]? = (Leaf.ofElements elements)[i]? := fun i => by
      rw [Leaf.getElem?_ofElements hflat', Leaf.getElem?_ofElements hflat, hσ]
    have hpositions := fun s => positions_rearranged s (length_of_rearranged hσ) hleaves
    refine ⟨?_, hpositions⟩
    have hsame : ∀ s, detect elements' = .ok s ↔ detect elements = .ok s := by
      intro s
      rw [detect_eq_ok, detect_eq_ok, hpositions]
      cases s.positions elements <;> simp [Except.map]
    cases hd : detect elements with
    | ok s => exact (hsame s).mpr hd
    | error fault =>
      cases hd' : detect elements' with
      | ok s =>
        rw [(hsame s).mp hd'] at hd
        cases hd
      | error fault' => rw [detect_error hd']; rfl

/-- The columns of pairs in another order, and one of them optional. -/
def shuffledPair : List Element :=
  [.leaf "value2" .required .double .plain, .leaf "id" .required .int64 .signed64,
    .leaf "value1" .optional .double .plain]

theorem detection_of_shuffledPair :
    detect shuffledPair = .ok .pairAttribute ∧ detect shuffledPair.reverse = .ok .pairAttribute ∧
    pairAttribute.positions shuffledPair = .ok [1, 2, 0] ∧
      pairAttribute.positions shuffledPair.reverse = .ok [1, 0, 2] := by
  have hflat : Element.Flat shuffledPair := by simp [Element.Flat, shuffledPair, Element.isGroup]
  obtain ⟨hdetect, -, -, -, hmoved⟩ := detection_of_flat hflat
  have hpair : detect shuffledPair = .ok .pairAttribute :=
    (hdetect .pairAttribute).mpr ⟨[⟨"value2", .double⟩, ⟨"id", .int64⟩, ⟨"value1", .double⟩], by decide,
      .cons (.leaf (by decide)) (.cons (.leaf (by decide)) (.cons (.leaf (by decide)) .nil))⟩
  have hreversed : ∀ i, shuffledPair.reverse[Equiv.swap 0 2 i]? = shuffledPair[i]? := by
    rintro (_ | _ | _ | i)
    · rfl
    · rfl
    · rfl
    · rw [Equiv.swap_apply_of_ne_of_ne (by omega) (by omega)]
      rfl
  obtain ⟨hsame, hpositions⟩ := hmoved _ _ hreversed
  have hplaces : pairAttribute.positions shuffledPair = .ok [1, 2, 0] := rfl
  refine ⟨hpair, ?_, hplaces, ?_⟩
  · rw [hsame, hpair]
    rfl
  · rw [hpositions, hplaces]
    rfl

end Schema

end GraphDisk
