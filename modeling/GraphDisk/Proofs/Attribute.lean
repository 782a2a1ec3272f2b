import Mathlib.Data.List.Induction
import Mathlib.Data.List.Nodup
import GraphDisk.Proofs.Dependency
import GraphDisk.Proofs.Outcome
import GraphDisk.Entity.OfRows

/-!
# Attributes between two vertex sets

The rows of an attribute name its defined slots by external id, and reading them against another vertex set writes the
slots that these ids have there. A slot of the one attribute is sent to a slot of the other (`Attribute.Sends`), or
stranded when its id is missing (`Attribute.Strands`). Reading fails with the id of the first slot that is stranded
(`Attribute.ofRows_of_strand`), and otherwise gives the attribute that was moved along, where of several slots that are
sent to the same one the last counts (`Attribute.ofRows_of_no_strand`).
-/

namespace GraphDisk

namespace Attribute

variable {α : Type} {a b : Attribute α} {zero v : α} {n i j : Nat} {writes : List (Nat × α)}
  {rows : List (AttributeRow α)}
  {source target : Dependency} {id : Int64}

/-! ## Defined slots -/

theorem get?_eq_some : a.get? i = some v ↔ a.slots[i]? = some ⟨v, true⟩ := by
  unfold get?
  split
  · rename_i value h
    simp [h]
  · rename_i h
    constructor
    · intro hn; cases hn
    · intro hs; exact absurd hs (h v)

theorem mem_entries : (i, v) ∈ a.entries ↔ a.get? i = some v := by
  rw [get?_eq_some, entries, List.mem_filterMap]
  constructor
  · rintro ⟨⟨slot, k⟩, hm, hs⟩
    rw [List.mem_zipIdx_iff_getElem?] at hm
    obtain ⟨value, defined⟩ := slot
    cases defined with
    | false => simp at hs
    | true =>
      simp only [if_true, Option.some.injEq, Prod.mk.injEq] at hs
      obtain ⟨rfl, rfl⟩ := hs
      simpa using hm
  · intro hs
    refine ⟨(⟨v, true⟩, i), ?_, by simp⟩
    rw [List.mem_zipIdx_iff_getElem?]
    simpa using hs

/-- The defined slots come in the order of their indices. -/
theorem entries_ascending (a : Attribute α) : a.entries.Pairwise fun x y => x.1 < y.1 := by
  have hindex : a.slots.toList.zipIdx.Pairwise fun x y => x.2 < y.2 := by
    rw [← List.pairwise_map, List.zipIdx_map_snd]
    exact List.pairwise_lt_range'
  refine hindex.filterMap _ fun x y hxy u hu w hw => ?_
  have hfst : ∀ (z : Slot α × Nat) (t : Nat × α), (if z.1.defined then some (z.2, z.1.value) else none) = some t →
      t.1 = z.2 := by
    intro z t ht
    split at ht
    · cases ht; rfl
    · cases ht
  rw [hfst x u hu, hfst y w hw]
  exact hxy

/-! ## Writing slots -/

theorem scatter_concat (zero : α) (n : Nat) (writes : List (Nat × α)) (i : Nat) (v : α) :
    scatter zero n (writes ++ [(i, v)]) = ⟨(scatter zero n writes).slots.setIfInBounds i ⟨v, true⟩⟩ := by
  simp [scatter, List.foldl_append]

theorem size_scatter (zero : α) (n : Nat) (writes : List (Nat × α)) : (scatter zero n writes).size = n := by
  induction writes using List.reverseRecOn with
  | nil => simp [scatter, size]
  | append_singleton writes w ih =>
    rw [scatter_concat]
    simpa [size] using ih

/-- **Writes to different slots commute.** -/
theorem scatter_perm {writes' : List (Nat × α)} (hp : writes.Perm writes')
    (hn : (writes.map Prod.fst).Nodup) (zero : α) (n : Nat) :
    scatter zero n writes = scatter zero n writes' := by
  have hcomm : ∀ x ∈ writes, ∀ y ∈ writes, ∀ slots : Array (Slot α),
      (slots.setIfInBounds x.1 ⟨x.2, true⟩).setIfInBounds y.1 ⟨y.2, true⟩ =
        (slots.setIfInBounds y.1 ⟨y.2, true⟩).setIfInBounds x.1 ⟨x.2, true⟩ := by
    intro x hx y hy slots
    by_cases hxy : x.1 = y.1
    · rw [List.inj_on_of_nodup_map hn hx hy hxy]
    · exact Array.setIfInBounds_comm _ _ hxy
  exact congrArg Attribute.mk (hp.foldl_eq' hcomm _)

/-- What is in a slot after some writes. -/
def lastWrite (zero : α) (writes : List (Nat × α)) (j : Nat) : Slot α :=
  match writes.reverse.find? fun w => w.1 = j with
  | some w => ⟨w.2, true⟩
  | none => ⟨zero, false⟩

/-- **The last write to a slot counts.** -/
theorem slots_scatter (zero : α) (writes : List (Nat × α)) (hj : j < n) :
    (scatter zero n writes).slots[j]? = some (lastWrite zero writes j) := by
  induction writes using List.reverseRecOn with
  | nil => simp [scatter, lastWrite, hj]
  | append_singleton writes w ih =>
    have hsize : j < (scatter zero n writes).slots.size := by
      have := size_scatter zero n writes
      rw [size] at this
      omega
    rw [scatter_concat, Array.getElem?_setIfInBounds, lastWrite, List.reverse_append, List.reverse_singleton,
      List.singleton_append, List.find?_cons]
    by_cases hw : w.1 = j
    · simp [hw, hsize]
    · rw [if_neg hw, ih]
      simp [hw, lastWrite]

theorem lastWrite_defined (zero : α) (writes : List (Nat × α)) (j : Nat) :
    (lastWrite zero writes j).defined = true ↔ ∃ w ∈ writes, w.1 = j := by
  unfold lastWrite
  cases hf : writes.reverse.find? fun w => w.1 = j with
  | none =>
    have hnone := List.find?_eq_none.mp hf
    simp only [Bool.false_eq_true, false_iff]
    rintro ⟨w, hw, hj⟩
    exact hnone w (List.mem_reverse.mpr hw) (by simpa using hj)
  | some w =>
    have hw : w.1 = j := by simpa using List.find?_some hf
    have hm := List.mem_of_find?_eq_some hf
    simp only [true_iff]
    exact ⟨w, List.mem_reverse.mp hm, hw⟩

theorem lastWrite_not_defined (h : (lastWrite zero writes j).defined = false) :
    lastWrite zero writes j = ⟨zero, false⟩ := by
  unfold lastWrite at h ⊢
  split
  · rename_i hf
    rw [hf] at h
    cases h
  · rfl

/-- The slots that are defined after some writes are those that were written. -/
theorem isSome_get?_scatter (zero : α) (n : Nat) (writes : List (Nat × α)) (j : Nat) :
    ((scatter zero n writes).get? j).isSome ↔ j < n ∧ ∃ w ∈ writes, w.1 = j := by
  rw [← lastWrite_defined zero]
  constructor
  · intro hdef
    obtain ⟨v, hv⟩ := Option.isSome_iff_exists.mp hdef
    have hslot := get?_eq_some.mp hv
    have hj : j < n := by
      rw [← size_scatter zero n writes]
      exact (Array.getElem?_eq_some_iff.mp hslot).1
    rw [slots_scatter zero writes hj] at hslot
    refine ⟨hj, ?_⟩
    rw [Option.some.inj hslot]
  · rintro ⟨hj, hdef⟩
    have hslot : (scatter zero n writes).slots[j]? = some ⟨(lastWrite zero writes j).value, true⟩ := by
      rw [slots_scatter zero writes hj, ← hdef]
    rw [get?_eq_some.mpr hslot]
    rfl

/-- Of ascending slots that are sent somewhere, the greatest one writes last. -/
theorem lastWrite_map (zero : α) {sent : Nat → Nat} {slots : List (Nat × α)} (hs : slots.Pairwise fun x y => x.1 < y.1)
    (hm : (i, v) ∈ slots) (hsent : sent i = j) (hlast : ∀ x ∈ slots, i < x.1 → sent x.1 ≠ j) :
    lastWrite zero (slots.map fun x => (sent x.1, x.2)) j = ⟨v, true⟩ := by
  induction slots using List.reverseRecOn with
  | nil => cases hm
  | append_singleton slots x ih =>
    have hconcat : lastWrite zero ((slots ++ [x]).map fun x => (sent x.1, x.2)) j =
        if sent x.1 = j then ⟨x.2, true⟩ else lastWrite zero (slots.map fun x => (sent x.1, x.2)) j := by
      simp only [lastWrite, List.map_append, List.map_cons, List.map_nil, List.reverse_append, List.reverse_singleton,
        List.singleton_append, List.find?_cons]
      by_cases hx : sent x.1 = j
      · simp [hx]
      · simp [hx]
    rw [hconcat]
    obtain ⟨hinit, -, hlt⟩ := List.pairwise_append.mp hs
    rcases List.mem_append.mp hm with hm | hm
    · have hx : sent x.1 ≠ j := hlast x (by simp) (hlt _ hm x (by simp))
      rw [if_neg hx]
      exact ih hinit hm fun y hy => hlast y (List.mem_append_left _ hy)
    · rw [List.mem_singleton] at hm
      subst hm
      rw [if_pos hsent]

/-! ## Slots that are sent and slots that are stranded -/

/-- **A defined slot is sent to a slot** for another vertex set: the one of its external id. -/
def Sends (a : Attribute α) (source target : VertexSet) (i j : Nat) : Prop :=
  (a.get? i).isSome ∧ ∃ id, source.externalId? i = some id ∧ target.orderedIndex? id = some j

/-- **A defined slot is stranded** if its external id is missing in the other vertex set. -/
def Strands (a : Attribute α) (source target : VertexSet) (i : Nat) (id : Int64) : Prop :=
  (a.get? i).isSome ∧ source.externalId? i = some id ∧ id ∉ target.ids

/-- **An attribute that was moved from one vertex set to another**: a slot is defined iff a slot is sent to it, it has
the value of the greatest one, and all other slots are zero. -/
structure MovedTo (zero : α) (a : Attribute α) (source target : VertexSet) (b : Attribute α) : Prop where
  size : b.size = target.size
  defined : ∀ j, (b.get? j).isSome ↔ ∃ i, a.Sends source target i j
  value : ∀ i j, a.Sends source target i j → (∀ k, i < k → ¬ a.Sends source target k j) → b.get? j = a.get? i
  rest : ∀ j, j < b.size → (∀ i, ¬ a.Sends source target i j) → b.slots[j]? = some ⟨zero, false⟩

theorem Sends.lt {source target : VertexSet} (h : a.Sends source target i j) : j < target.size := by
  obtain ⟨-, id, -, hj⟩ := h
  exact VertexSet.orderedIndex?_lt hj

/-- Writing the slots to which slots are sent moves the attribute. -/
theorem movedTo_scatter {source target : VertexSet} (zero : α) (sent : Nat → Nat)
    (h : ∀ i j, a.Sends source target i j ↔ ∃ v, (i, v) ∈ a.entries ∧ sent i = j) :
    a.MovedTo zero source target (scatter zero target.size (a.entries.map fun x => (sent x.1, x.2))) := by
  have hsize := size_scatter zero target.size (a.entries.map fun x => (sent x.1, x.2))
  have hwritten : ∀ j, (∃ w ∈ a.entries.map (fun x => (sent x.1, x.2)), w.1 = j) ↔ ∃ i, a.Sends source target i j := by
    intro j
    constructor
    · rintro ⟨w, hw, hj⟩
      obtain ⟨x, hx, rfl⟩ := List.mem_map.mp hw
      exact ⟨x.1, (h x.1 j).mpr ⟨x.2, hx, hj⟩⟩
    · rintro ⟨i, hi⟩
      obtain ⟨v, hv, hj⟩ := (h i j).mp hi
      exact ⟨(sent i, v), List.mem_map.mpr ⟨(i, v), hv, rfl⟩, hj⟩
  constructor
  · exact hsize
  · intro j
    rw [isSome_get?_scatter, hwritten j]
    exact ⟨fun hj => hj.2, fun hj => ⟨hj.elim fun i hi => hi.lt, hj⟩⟩
  · intro i j hi hgreatest
    obtain ⟨v, hv, hj⟩ := (h i j).mp hi
    have hlast := lastWrite_map zero (entries_ascending a) hv hj fun x hx hix hxj =>
      hgreatest x.1 hix ((h x.1 j).mpr ⟨x.2, hx, hxj⟩)
    rw [mem_entries.mp hv, get?_eq_some, slots_scatter zero _ hi.lt, hlast]
  · intro j hj hno
    rw [hsize] at hj
    have hfalse : (lastWrite zero (a.entries.map fun x => (sent x.1, x.2)) j).defined = false := by
      rw [Bool.eq_false_iff]
      intro hdef
      obtain ⟨i, hi⟩ := (hwritten j).mp ((lastWrite_defined _ _ _).mp hdef)
      exact hno i hi
    rw [slots_scatter zero _ hj, lastWrite_not_defined hfalse]

/-- **Back where it came from**, an attribute is the same, if no id occurs twice and there is a slot for each vertex. -/
theorem MovedTo.same {vs : VertexSet} (h : a.MovedTo zero vs vs b) (hn : vs.ids.toList.Nodup)
    (hs : a.size = vs.size) (j : Nat) :
    b.get? j = a.get? j := by
  have hsends : ∀ i, a.Sends vs vs i j → i = j := by
    rintro i ⟨-, id, hid, hj⟩
    rw [VertexSet.orderedIndex?_externalId? hn hid] at hj
    exact Option.some.inj hj
  cases hv : a.get? j with
  | none =>
    rw [← Option.not_isSome_iff_eq_none, h.defined]
    rintro ⟨i, hi⟩
    obtain rfl := hsends i hi
    have hdef := hi.1
    rw [hv] at hdef
    cases hdef
  | some v =>
    have hlt : j < vs.size := by
      rw [← hs]
      exact (Array.getElem?_eq_some_iff.mp (get?_eq_some.mp hv)).1
    obtain ⟨id, hid⟩ : ∃ id, vs.externalId? j = some id := ⟨vs.ids[j], Array.getElem?_eq_getElem hlt⟩
    have hself : a.Sends vs vs j j := ⟨by simp [hv], id, hid, VertexSet.orderedIndex?_externalId? hn hid⟩
    rw [h.value j j hself, hv]
    intro k hk hsent
    have := hsends k hsent
    omega

/-! ## Reading against another vertex set -/

/-- The rows of an attribute: one for each defined slot, with its external id. -/
theorem externalRows_ok (h : a.externalRows source = .ok rows) :
    rows = a.entries.map (fun x => ⟨source.idAt x.1, x.2⟩) ∧
      ∀ x ∈ a.entries, source.vertices.externalId? x.1 = some (source.idAt x.1) := by
  have hrow : ∀ (x : Nat × α) (r : AttributeRow α),
      (do return { id := ← source.externalId x.1, value := x.2 }) = Except.ok r →
      source.vertices.externalId? x.1 = some r.id ∧ r.value = x.2 := by
    intro x r hr
    obtain ⟨id, hid, hr⟩ := bind_eq_ok.mp hr
    cases hr
    exact ⟨Dependency.externalId_eq_ok.mp hid, rfl⟩
  have hknown : ∀ (x : Nat × α) (r : AttributeRow α),
      (do return { id := ← source.externalId x.1, value := x.2 }) = Except.ok r →
      ⟨source.idAt x.1, x.2⟩ = r := by
    intro x r hr
    obtain ⟨hid, hvalue⟩ := hrow x r hr
    rw [Dependency.idAt_eq hid, ← hvalue]
  obtain ⟨hrows, hall⟩ := eq_map_of_mapM hknown h
  exact ⟨hrows, fun x hx => (hrow x _ (hall x hx)).1⟩

/-- Rows whose ids are all there write the slots of these ids. -/
theorem ofRows_of_ids (zero : α) (h : ∀ r ∈ rows, r.id ∈ target.vertices.ids) :
    ofRows zero target rows =
      .ok (scatter zero target.vertices.size (rows.map fun r => (target.indexOf r.id, r.value))) := by
  have hwrites : rows.mapM (fun r => do return (← target.orderedIndex r.id, r.value)) =
      .ok (rows.map fun r => (target.indexOf r.id, r.value)) := by
    refine mapM_of_ok fun r hr => ?_
    simp [Dependency.orderedIndex_of_mem (h r hr), bind, Except.bind, pure, Except.pure]
  unfold ofRows
  rw [hwrites]
  rfl

section Reading

variable (h : a.externalRows source = .ok rows)
include h

theorem strands_iff_of_entries : a.Strands source.vertices target.vertices i id ↔
    ∃ v, (i, v) ∈ a.entries ∧ source.idAt i = id ∧ id ∉ target.vertices.ids := by
  obtain ⟨-, hids⟩ := externalRows_ok h
  constructor
  · rintro ⟨hdef, hid, hmiss⟩
    obtain ⟨v, hv⟩ := Option.isSome_iff_exists.mp hdef
    exact ⟨v, mem_entries.mpr hv, Dependency.idAt_eq hid, hmiss⟩
  · rintro ⟨v, hv, rfl, hmiss⟩
    exact ⟨by simp [mem_entries.mp hv], hids _ hv, hmiss⟩

theorem sends_iff_of_entries (hno : ∀ i id, ¬ a.Strands source.vertices target.vertices i id) :
    a.Sends source.vertices target.vertices i j ↔
      ∃ v, (i, v) ∈ a.entries ∧ target.indexOf (source.idAt i) = j := by
  obtain ⟨-, hids⟩ := externalRows_ok h
  constructor
  · rintro ⟨hdef, id, hid, hj⟩
    obtain ⟨v, hv⟩ := Option.isSome_iff_exists.mp hdef
    refine ⟨v, mem_entries.mpr hv, ?_⟩
    rw [Dependency.idAt_eq hid, Dependency.indexOf, hj, Option.getD_some]
  · rintro ⟨v, hv, rfl⟩
    refine ⟨by simp [mem_entries.mp hv], _, hids _ hv, Dependency.orderedIndex?_indexOf ?_⟩
    by_contra hmiss
    exact hno i _ ((strands_iff_of_entries h).mpr ⟨v, hv, rfl, hmiss⟩)

/-- If no slot is stranded the attribute is moved. -/
theorem ofRows_of_no_strand (zero : α) (hno : ∀ i id, ¬ a.Strands source.vertices target.vertices i id) :
    ∃ b, ofRows zero target rows = .ok b ∧ a.MovedTo zero source.vertices target.vertices b := by
  obtain ⟨hrows, -⟩ := externalRows_ok h
  have hids : ∀ r ∈ rows, r.id ∈ target.vertices.ids := by
    rw [hrows, List.forall_mem_map]
    intro x hx
    by_contra hmiss
    exact hno x.1 _ ((strands_iff_of_entries h).mpr ⟨x.2, hx, rfl, hmiss⟩)
  refine ⟨_, ofRows_of_ids zero hids, ?_⟩
  rw [hrows, List.map_map]
  exact movedTo_scatter zero (fun i => target.indexOf (source.idAt i)) fun i j => sends_iff_of_entries h hno

/-- If slots are stranded the first of them decides. -/
theorem ofRows_of_strand (zero : α) (hstrand : a.Strands source.vertices target.vertices i id)
    (hfirst : ∀ k, k < i → ∀ id, ¬ a.Strands source.vertices target.vertices k id) :
    ofRows zero target rows = .error (.invalidReference target.guid id) := by
  obtain ⟨hrows, hids⟩ := externalRows_ok h
  obtain ⟨v, hv, rfl, hmiss⟩ := (strands_iff_of_entries h).mp hstrand
  obtain ⟨before, behind, hsplit⟩ := List.append_of_mem hv
  have hfail : rows.mapM (fun r => do return (← target.orderedIndex r.id, r.value)) =
      .error (.invalidReference target.guid (source.idAt i)) := by
    rw [hrows, List.mapM_map, hsplit, mapM_eq_error]
    refine ⟨before, (i, v), behind, rfl, fun x hx => ?_, ?_⟩
    · have hentry : x ∈ a.entries := by rw [hsplit]; exact List.mem_append_left _ hx
      have hlt : x.1 < i := by
        have hascending := entries_ascending a
        rw [hsplit] at hascending
        exact (List.pairwise_append.mp hascending).2.2 x hx (i, v) List.mem_cons_self
      have hmem : source.idAt x.1 ∈ target.vertices.ids := by
        by_contra hmiss
        exact hfirst x.1 hlt _ ((strands_iff_of_entries h).mpr ⟨x.2, hentry, rfl, hmiss⟩)
      exact ⟨_, by simp [Dependency.orderedIndex_of_mem hmem, bind, Except.bind, pure, Except.pure]; rfl⟩
    · simp [Dependency.orderedIndex_of_not_mem hmiss, bind, Except.bind]
  unfold ofRows
  rw [hfail]
  rfl

end Reading

end Attribute

end GraphDisk
