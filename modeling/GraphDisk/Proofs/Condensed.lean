import GraphDisk.Proofs.Attribute
import GraphDisk.Proofs.EdgeBundle

/-!
# Rows that were read and are written again

What was read from rows can always be written, since every index that it has was looked up in the vertex sets against
which it is written. Vertices and edges give the rows from which they were read (`VertexSet.externalRows_ofRows`,
`EdgeBundle.externalRows_ofRows`). The slots of an attribute give one row for each id that was read, the last one with
that id, in the order in which the vertex set numbers the ids, and read again, these rows give the same attribute
(`Attribute.externalRows_ofRows`).
-/

namespace GraphDisk

namespace VertexSet

variable {policy : DuplicatePolicy} {g : Guid} {rows : List VertexRow} {vs : VertexSet}

/-- **Rows make a vertex set** unless an id occurs twice and that is not allowed. -/
theorem ofRows_eq_ok : ofRows policy g rows = .ok vs ↔
    vs = ofIds (rows.map VertexRow.id).toArray ∧ (policy = .reject → (rows.map VertexRow.id).Nodup) := by
  have hnodup : (ofIds (rows.map VertexRow.id).toArray).firstDuplicate? = none ↔ (rows.map VertexRow.id).Nodup :=
    firstDuplicate?_eq_none
  unfold ofRows
  cases policy with
  | lastWriteWins => simp [eq_comm]
  | reject =>
    cases hd : (ofIds (rows.map VertexRow.id).toArray).firstDuplicate? with
    | none => simp [hd, hnodup.mp hd, eq_comm]
    | some id =>
      have hrepeat : ¬ (rows.map VertexRow.id).Nodup := fun h => by
        rw [hnodup.mpr h] at hd
        cases hd
      simp [hd, hrepeat]

/-- **The rows from which vertices were read** are the rows of these vertices. -/
theorem externalRows_ofRows (h : ofRows policy g rows = .ok vs) : vs.externalRows = rows := by
  obtain ⟨rfl, -⟩ := ofRows_eq_ok.mp h
  have hid : VertexRow.mk ∘ VertexRow.id = id := rfl
  rw [externalRows, ofIds, List.map_map, hid, List.map_id]

end VertexSet

namespace EdgeBundle

/-- **The rows from which edges were read** are the rows of these edges. -/
theorem externalRows_ofRows {src dst : Dependency} {rows : List EdgeRow} {eb : EdgeBundle}
    (h : ofRows src dst rows = .ok eb) : eb.externalRows src dst = .ok rows := by
  obtain ⟨edges, hedges, h⟩ := bind_eq_ok.mp h
  cases h
  unfold externalRows
  rw [mapM_eq_ok]
  refine (List.Forall₂.flip (mapM_eq_ok.mp hedges)).imp fun e r hr => ?_
  obtain ⟨s, hs, hr⟩ := bind_eq_ok.mp hr
  obtain ⟨t, ht, hr⟩ := bind_eq_ok.mp hr
  cases hr
  have hsrc := VertexSet.externalId?_orderedIndex? (Dependency.orderedIndex_eq_ok.mp hs)
  have hdst := VertexSet.externalId?_orderedIndex? (Dependency.orderedIndex_eq_ok.mp ht)
  rw [Dependency.externalId_eq_ok.mpr hsrc, Dependency.externalId_eq_ok.mpr hdst]
  rfl

end EdgeBundle

namespace Attribute

variable {α : Type} {a : Attribute α} {zero v : α} {n i j : Nat} {writes : List (Nat × α)}
  {rows kept : List (AttributeRow α)}
  {target : Dependency}

/-- **One row for each id**: the last row with that id, and the rows in the order in which the vertex set numbers the
ids. -/
structure Condensed (vs : VertexSet) (rows kept : List (AttributeRow α)) : Prop where
  ascending : kept.Pairwise fun x y =>
    ∃ i j, vs.orderedIndex? x.id = some i ∧ vs.orderedIndex? y.id = some j ∧ i < j
  mem : ∀ row, row ∈ kept ↔ ∃ before behind, rows = before ++ row :: behind ∧ ∀ r ∈ behind, r.id ≠ row.id

/-- No two of the rows that are kept have the same id. -/
theorem Condensed.nodup {vs : VertexSet} (h : Condensed vs rows kept) : (kept.map AttributeRow.id).Nodup := by
  rw [List.Nodup, List.pairwise_map]
  refine h.ascending.imp fun {x y} hxy heq => ?_
  obtain ⟨i, j, hi, hj, hlt⟩ := hxy
  rw [heq, hj] at hi
  exact absurd (Option.some.inj hi) (Nat.ne_of_gt hlt)

/-! ## Slots that were written -/

/-- The write that counts is the last one to its slot. -/
theorem lastWrite_eq_some : lastWrite zero writes j = ⟨v, true⟩ ↔
    ∃ before behind, writes = before ++ (j, v) :: behind ∧ ∀ w ∈ behind, w.1 ≠ j := by
  have hfind : lastWrite zero writes j = ⟨v, true⟩ ↔ (writes.reverse.find? fun w => w.1 = j) = some (j, v) := by
    unfold lastWrite
    cases hf : writes.reverse.find? fun w => w.1 = j with
    | none => simp
    | some w =>
      have hw : w.1 = j := by simpa using List.find?_some hf
      obtain ⟨k, u⟩ := w
      subst hw
      simp
  rw [hfind, List.find?_eq_some_iff_append]
  constructor
  · rintro ⟨-, behind, before, hsplit, hbehind⟩
    refine ⟨before.reverse, behind.reverse, ?_, fun w hw => ?_⟩
    · rw [← List.reverse_reverse writes, hsplit]
      simp
    · simpa using hbehind w (List.mem_reverse.mp hw)
  · rintro ⟨before, behind, rfl, hbehind⟩
    refine ⟨by simp, behind.reverse, before.reverse, by simp, fun w hw => ?_⟩
    simpa using hbehind w (List.mem_reverse.mp hw)

/-- Writing the defined slots of an attribute gives that attribute again, if its other slots are zero. -/
theorem scatter_entries (hsize : a.size = n) (hrest : ∀ (j : Nat) (v : α), a.slots[j]? = some ⟨v, false⟩ → v = zero) :
    scatter zero n a.entries = a := by
  have hslots : (scatter zero n a.entries).slots = a.slots := by
    apply Array.ext_getElem?
    intro j
    by_cases hj : j < n
    · obtain ⟨⟨v, defined⟩, hslot⟩ : ∃ slot, a.slots[j]? = some slot :=
        ⟨_, Array.getElem?_eq_getElem (by rw [← hsize] at hj; exact hj)⟩
      rw [slots_scatter zero _ hj, hslot]
      cases defined with
      | true =>
        have hentry : (j, v) ∈ a.entries := mem_entries.mpr (get?_eq_some.mpr hslot)
        have hlast : lastWrite zero (a.entries.map fun x => (id x.1, x.2)) j = ⟨v, true⟩ :=
          lastWrite_map zero (entries_ascending a) hentry rfl fun x _ hx => Nat.ne_of_gt hx
        simpa using hlast
      | false =>
        have hundefined : (lastWrite zero a.entries j).defined = false := by
          rw [Bool.eq_false_iff]
          intro hdef
          obtain ⟨w, hw, rfl⟩ := (lastWrite_defined _ _ _).mp hdef
          have hw : a.slots[w.1]? = some ⟨w.2, true⟩ := get?_eq_some.mp (mem_entries.mp hw)
          rw [hslot] at hw
          cases hw
        rw [lastWrite_not_defined hundefined, hrest j v hslot]
    · have hscatter := size_scatter zero n a.entries
      rw [size] at hsize hscatter
      rw [Array.getElem?_eq_none (by omega), Array.getElem?_eq_none (by omega)]
  cases a
  exact congrArg Attribute.mk hslots

/-- The slots that are not defined after some writes are zero. -/
theorem eq_zero_of_scatter (h : (scatter zero n writes).slots[j]? = some ⟨v, false⟩) : v = zero := by
  have hj : j < n := by
    rw [← size_scatter zero n writes]
    exact (Array.getElem?_eq_some_iff.mp h).1
  rw [slots_scatter zero writes hj] at h
  have hundefined := Option.some.inj h
  have hzero : lastWrite zero writes j = ⟨zero, false⟩ := lastWrite_not_defined (by rw [hundefined])
  rw [hundefined] at hzero
  exact congrArg Slot.value hzero

/-! ## Rows of an attribute that was read -/

/-- Reading rows writes the slots of their ids. -/
theorem ofRows_ok (h : ofRows zero target rows = .ok a) :
    a = scatter zero target.vertices.size (rows.map fun r => (target.indexOf r.id, r.value)) ∧
      ∀ r ∈ rows, target.vertices.orderedIndex? r.id = some (target.indexOf r.id) := by
  obtain ⟨writes, hwrites, h⟩ := bind_eq_ok.mp h
  have hindex : ∀ (r : AttributeRow α) (w : Nat × α), (do return (← target.orderedIndex r.id, r.value)) = Except.ok w →
      target.vertices.orderedIndex? r.id = some w.1 ∧ w.2 = r.value := by
    intro r w hw
    obtain ⟨i, hi, hw⟩ := bind_eq_ok.mp hw
    cases hw
    exact ⟨Dependency.orderedIndex_eq_ok.mp hi, rfl⟩
  obtain ⟨rfl, hall⟩ := eq_map_of_mapM (g := fun r => (target.indexOf r.id, r.value)) (fun r w hw => by
    obtain ⟨hi, hv⟩ := hindex r w hw
    rw [Dependency.indexOf, hi, Option.getD_some, ← hv]) hwrites
  cases h
  exact ⟨rfl, fun r hr => (hindex r _ (hall r hr)).1⟩

section Reading

variable (h : ofRows zero target rows = .ok a)
include h

/-- A slot is defined by the last row with its id. -/
theorem mem_entries_of_ofRows : (i, v) ∈ a.entries ↔ ∃ before row behind, rows = before ++ row :: behind ∧
    (∀ r ∈ behind, r.id ≠ row.id) ∧ target.vertices.orderedIndex? row.id = some i ∧ row.value = v := by
  obtain ⟨rfl, hids⟩ := ofRows_ok h
  rw [mem_entries, get?_eq_some]
  constructor
  · intro hslot
    have hi : i < target.vertices.size := by
      rw [← size_scatter zero target.vertices.size]
      exact (Array.getElem?_eq_some_iff.mp hslot).1
    rw [slots_scatter zero _ hi] at hslot
    obtain ⟨before, behind, hsplit, hbehind⟩ := lastWrite_eq_some.mp (Option.some.inj hslot)
    obtain ⟨rows₁, rest, rfl, -, hrest⟩ := List.map_eq_append_iff.mp hsplit
    obtain ⟨row, rows₂, rfl, hrow, rfl⟩ := List.map_eq_cons_iff.mp hrest
    cases hrow
    refine ⟨rows₁, row, rows₂, rfl, fun r hr heq => ?_, hids row (by simp), rfl⟩
    exact hbehind _ (List.mem_map.mpr ⟨r, hr, rfl⟩) (by rw [heq])
  · rintro ⟨before, row, behind, rfl, hbehind, hi, rfl⟩
    have hindex : target.indexOf row.id = i := by rw [Dependency.indexOf, hi, Option.getD_some]
    have hlast : lastWrite zero ((before ++ row :: behind).map fun r => (target.indexOf r.id, r.value)) i =
        ⟨row.value, true⟩ := by
      refine lastWrite_eq_some.mpr ⟨before.map fun r => (target.indexOf r.id, r.value),
        behind.map fun r => (target.indexOf r.id, r.value), by simp [hindex], fun w hw heq => ?_⟩
      -- a later row with the same slot would have the same id
      obtain ⟨r, hr, rfl⟩ := List.mem_map.mp hw
      have hlater := hids r (List.mem_append_right _ (List.mem_cons_of_mem _ hr))
      rw [show target.indexOf r.id = i from heq] at hlater
      have hsame := (VertexSet.externalId?_orderedIndex? hlater).symm.trans (VertexSet.externalId?_orderedIndex? hi)
      exact hbehind r hr (Option.some.inj hsame)
    rw [slots_scatter zero _ (VertexSet.orderedIndex?_lt hi), hlast]

/-- The defined slots are those of ids. -/
theorem orderedIndex?_idAt {x : Nat × α} (hx : x ∈ a.entries) :
    target.vertices.externalId? x.1 = some (target.idAt x.1) ∧
      target.vertices.orderedIndex? (target.idAt x.1) = some x.1 := by
  obtain ⟨-, row, -, -, -, hi, -⟩ := (mem_entries_of_ofRows h).mp hx
  have hid := VertexSet.externalId?_orderedIndex? hi
  rw [Dependency.idAt_eq hid]
  exact ⟨hid, hi⟩

/-- **An attribute that was read** is written with one row for each id, and these rows are read as the attribute. -/
theorem externalRows_ofRows : ∃ kept, a.externalRows target = .ok kept ∧ Condensed target.vertices rows kept ∧
    ofRows zero target kept = .ok a := by
  refine ⟨a.entries.map fun x => ⟨target.idAt x.1, x.2⟩, ?_, ⟨?_, fun row => ?_⟩, ?_⟩
  · refine mapM_of_ok fun x hx => ?_
    obtain ⟨hid, -⟩ := orderedIndex?_idAt h hx
    simp [Dependency.externalId_eq_ok.mpr hid, bind, Except.bind, pure, Except.pure]
  · rw [List.pairwise_map]
    refine (entries_ascending a).imp_of_mem fun {x y} hx hy hxy => ?_
    exact ⟨x.1, y.1, (orderedIndex?_idAt h hx).2, (orderedIndex?_idAt h hy).2, hxy⟩
  · rw [List.mem_map]
    constructor
    · rintro ⟨⟨i, v⟩, hx, rfl⟩
      obtain ⟨before, row, behind, hsplit, hbehind, hi, rfl⟩ := (mem_entries_of_ofRows h).mp hx
      rw [Dependency.idAt_eq (VertexSet.externalId?_orderedIndex? hi)]
      exact ⟨before, behind, hsplit, hbehind⟩
    · rintro ⟨before, behind, hsplit, hbehind⟩
      have hi := (ofRows_ok h).2 row (by rw [hsplit]; simp)
      refine ⟨(target.indexOf row.id, row.value), (mem_entries_of_ofRows h).mpr ?_, ?_⟩
      · exact ⟨before, row, behind, hsplit, hbehind, hi, rfl⟩
      · rw [Dependency.idAt_eq (VertexSet.externalId?_orderedIndex? hi)]
  · have hids : ∀ r ∈ a.entries.map fun x => AttributeRow.mk (target.idAt x.1) x.2, r.id ∈ target.vertices.ids := by
      rw [List.forall_mem_map]
      exact fun x hx => VertexSet.mem_of_externalId? (orderedIndex?_idAt h hx).1
    have hwrites : a.entries.map (fun x => (target.indexOf (target.idAt x.1), x.2)) = a.entries := by
      refine (List.map_congr_left fun x hx => ?_).trans (List.map_id _)
      rw [Dependency.indexOf, (orderedIndex?_idAt h hx).2, Option.getD_some, id]
    obtain ⟨hscatter, -⟩ := ofRows_ok h
    have hsize : a.size = target.vertices.size := by rw [hscatter, size_scatter]
    have hzero : ∀ (j : Nat) (v : α), a.slots[j]? = some ⟨v, false⟩ → v = zero := by
      intro j v hv
      rw [hscatter] at hv
      exact eq_zero_of_scatter hv
    rw [ofRows_of_ids zero hids, List.map_map, Function.comp_def, hwrites]
    exact congrArg Except.ok (scatter_entries hsize hzero)

end Reading

end Attribute

end GraphDisk
