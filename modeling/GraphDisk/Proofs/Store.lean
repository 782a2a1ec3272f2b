import Mathlib.Data.List.Dedup
import GraphDisk.Proofs.Dependency
import GraphDisk.Proofs.Text.ByteOrder

/-!
# The store reflects what was written

Who keeps a record of the entities that are made resident, in order, knows what the store holds: under each guid the
entity of the last write to it (`lastWrite`). A store reflects such a record if all answers agree with it
(`Store.Reflects`). They do as soon as the entities under the guids do (`Store.reflects_of_get?`), and they still do
after a further write (`Store.Reflects.install`).
-/

namespace GraphDisk

/-- The entity of the last write to a guid. -/
def lastWrite (log : List (Guid × Entity)) (g : Guid) : Option Entity := log.reverse.lookup g

section LastWrite

variable {log : List (Guid × Entity)} {g k : Guid} {e : Entity}

theorem lastWrite_concat (log : List (Guid × Entity)) (g : Guid) (e : Entity) (k : Guid) :
    lastWrite (log ++ [(g, e)]) k = if g = k then some e else lastWrite log k := by
  rw [lastWrite, List.reverse_append, List.reverse_singleton, List.singleton_append, List.lookup_cons]
  by_cases hk : g = k
  · simp [hk]
  · have hne : (k == g) = false := beq_false_of_ne (Ne.symm hk)
    rw [hne, if_neg hk]
    rfl

/-- A guid has a last write iff it has been written to. -/
theorem isSome_lastWrite : (lastWrite log g).isSome ↔ g ∈ log.map Prod.fst := by
  induction log using List.reverseRecOn with
  | nil => simp [lastWrite]
  | append_singleton log w ih =>
    rw [lastWrite_concat, List.map_append, List.mem_append, ← ih]
    by_cases hw : w.1 = g
    · simp [hw]
    · simp [hw, Ne.symm hw]

end LastWrite

theorem Text.lt_iff_bytes_lt {s t : String} : s < t ↔ bytes s < bytes t := by
  rw [← String.not_le, ← List.not_le, le_iff_bytes_le]

theorem Guid.compare_eq_lt {g k : Guid} : compare g k = .lt ↔ Text.bytes g.text < Text.bytes k.text := by
  rw [Guid.compare_def, ← Text.lt_iff_bytes_lt]
  exact compareOfLessAndEq_eq_lt

namespace Store

/-- **A store reflects a record of writes**: whatever it is asked, the answer is what the last write to each guid says.
-/
structure Reflects (s : Store) (log : List (Guid × Entity)) : Prop where
  get : ∀ g, s.get? g = lastWrite log g
  contains : ∀ g, s.contains g = true ↔ (lastWrite log g).isSome
  /-- The store counts the guids that have been written to. -/
  size : s.size = (log.map Prod.fst).dedup.length
  isEmpty : s.isEmpty = true ↔ log = []
  vertexSet_ok : ∀ g vs, s.vertexSet g = .ok vs ↔ lastWrite log g = some (.vertexSet vs)
  vertexSet_missing : ∀ g, s.vertexSet g = .error (.dependencyNotFound g) ↔ lastWrite log g = none
  vertexSet_other : ∀ g e, lastWrite log g = some e → e.kind ≠ .vertexSet →
    s.vertexSet g = .error (.dependencyKind g .vertexSet e.kind)
  /-- The listing ascends strictly by the bytes of the guids, so that no guid comes twice. -/
  ascending : s.list.Pairwise fun a b => Text.bytes a.1.text < Text.bytes b.1.text
  listed : ∀ g kind, (g, kind) ∈ s.list ↔ ∃ e, lastWrite log g = some e ∧ e.kind = kind
  /-- The guids of the listing are those that have been written to. -/
  written : ∀ g, (∃ kind, (g, kind) ∈ s.list) ↔ g ∈ log.map Prod.fst

variable {s : Store} {log : List (Guid × Entity)} {g : Guid} {e : Entity} {kind : Kind}

theorem mem_list : (g, kind) ∈ s.list ↔ ∃ e, s.get? g = some e ∧ e.kind = kind := by
  unfold list get?
  simp only [List.mem_map, Prod.exists, Prod.mk.injEq]
  constructor
  · rintro ⟨g', e, hm, rfl, rfl⟩
    exact ⟨e, Std.TreeMap.mem_toList_iff_getElem?_eq_some.mp hm, rfl⟩
  · rintro ⟨e, he, rfl⟩
    exact ⟨g, e, Std.TreeMap.mem_toList_iff_getElem?_eq_some.mpr he, rfl, rfl⟩

theorem list_ascending (s : Store) : s.list.Pairwise fun a b => Text.bytes a.1.text < Text.bytes b.1.text := by
  unfold list
  rw [List.pairwise_map]
  exact (Std.TreeMap.ordered_keys_toList (t := s.entities)).imp Guid.compare_eq_lt.mp

theorem nodup_guids (s : Store) : (s.list.map Prod.fst).Nodup := by
  rw [List.Nodup, List.pairwise_map]
  refine s.list_ascending.imp fun {a b} hlt heq => ?_
  rw [heq] at hlt
  exact List.lt_irrefl _ hlt

theorem length_list (s : Store) : s.list.length = s.size := by
  unfold list size
  rw [List.length_map, Std.TreeMap.length_toList]

theorem contains_eq (s : Store) (g : Guid) : s.contains g = (s.get? g).isSome := Std.TreeMap.contains_eq_isSome_getElem?

/-- **All that a store can be asked depends on the entities under the guids.** -/
theorem reflects_of_get? (h : ∀ g, s.get? g = lastWrite log g) : s.Reflects log := by
  have hlisted : ∀ g kind, (g, kind) ∈ s.list ↔ ∃ e, lastWrite log g = some e ∧ e.kind = kind := by
    intro g kind
    rw [mem_list, h]
  have hwritten : ∀ g, (∃ kind, (g, kind) ∈ s.list) ↔ g ∈ log.map Prod.fst := by
    intro g
    rw [← isSome_lastWrite, Option.isSome_iff_exists]
    constructor
    · rintro ⟨kind, hm⟩
      obtain ⟨e, he, -⟩ := (hlisted g kind).mp hm
      exact ⟨e, he⟩
    · rintro ⟨e, he⟩
      exact ⟨e.kind, (hlisted g _).mpr ⟨e, he, rfl⟩⟩
  have hsize : s.size = (log.map Prod.fst).dedup.length := by
    -- the guids of the listing and those of the record, each taken once, are the same
    have hperm : (s.list.map Prod.fst).Perm (log.map Prod.fst).dedup := by
      rw [List.perm_ext_iff_of_nodup s.nodup_guids (List.nodup_dedup _)]
      intro g
      rw [List.mem_dedup, ← hwritten]
      simp
    rw [← hperm.length_eq, List.length_map, length_list]
  have hempty : s.isEmpty = true ↔ log = [] := by
    rw [show s.isEmpty = (s.size == 0) from Std.TreeMap.isEmpty_eq_size_eq_zero, beq_iff_eq, hsize,
      List.length_eq_zero_iff, List.dedup_eq_nil, List.map_eq_nil_iff]
  constructor
  · exact h
  · intro g
    rw [contains_eq, h]
  · exact hsize
  · exact hempty
  · intro g vs
    unfold vertexSet
    rw [h]
    cases hw : lastWrite log g with
    | none => simp
    | some e => cases e <;> simp
  · intro g
    unfold vertexSet
    rw [h]
    cases hw : lastWrite log g with
    | none => simp
    | some e => cases e <;> simp
  · intro g e hw hkind
    unfold vertexSet
    rw [h, hw]
    cases e with
    | vertexSet vs => exact absurd rfl hkind
    | _ => rfl
  · exact s.list_ascending
  · exact hlisted
  · exact hwritten

theorem reflects_empty : empty.Reflects [] := by
  refine reflects_of_get? fun g => ?_
  unfold empty get?
  simp [lastWrite]

/-- **A write is added to the record.** -/
theorem Reflects.install (h : s.Reflects log) (g : Guid) (e : Entity) : (s.install g e).Reflects (log ++ [(g, e)]) := by
  refine reflects_of_get? fun k => ?_
  rw [get?_install, lastWrite_concat, h.get]

end Store

end GraphDisk
