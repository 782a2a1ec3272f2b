import Mathlib.Data.Nat.Find
import GraphDisk.Entity.ToRows
import GraphDisk.Proofs.VertexSet

/-!
# Vertex sets that something refers to

Looking an index or an id up in a dependency gives what its vertex set says, and otherwise names the dependency in the
error. Reading that reports the first place with a missing id reports one iff there is such a place
(`invalidReference_iff_of_first`).
-/

namespace GraphDisk

theorem Store.get?_install (s : Store) (g k : Guid) (e : Entity) :
    (s.install g e).get? k = if g = k then some e else s.get? k := by
  unfold Store.install Store.get?
  rw [Std.TreeMap.getElem?_insert]
  simp only [Std.LawfulEqCmp.compare_eq_iff_eq]

theorem Store.dependency_of_get? {s : Store} {g : Guid} {vs : VertexSet} (h : s.get? g = some (.vertexSet vs)) :
    s.dependency (some g) = .ok ⟨g, vs⟩ := by
  unfold Store.dependency Store.vertexSet
  simp only [Option.getD_some, h]
  rfl

namespace Dependency

variable {d : Dependency} {i : Nat} {id : Int64} {e : Error}

/-- The external id of an index that has one. -/
def idAt (d : Dependency) (i : Nat) : Int64 := (d.vertices.externalId? i).getD 0

/-- The ordered index of an external id that has one. -/
def indexOf (d : Dependency) (id : Int64) : Nat := (d.vertices.orderedIndex? id).getD 0

theorem externalId_eq_ok : d.externalId i = .ok id ↔ d.vertices.externalId? i = some id := by
  unfold externalId
  cases d.vertices.externalId? i <;> simp

theorem idAt_eq (h : d.vertices.externalId? i = some id) : d.idAt i = id := by rw [idAt, h, Option.getD_some]

theorem orderedIndex_eq_ok {j : Nat} : d.orderedIndex id = .ok j ↔ d.vertices.orderedIndex? id = some j := by
  unfold orderedIndex
  cases d.vertices.orderedIndex? id <;> simp

theorem orderedIndex?_indexOf (h : id ∈ d.vertices.ids) : d.vertices.orderedIndex? id = some (d.indexOf id) := by
  obtain ⟨j, hj⟩ := VertexSet.orderedIndex?_isSome h
  rw [indexOf, hj, Option.getD_some]

theorem orderedIndex_of_mem (h : id ∈ d.vertices.ids) : d.orderedIndex id = .ok (d.indexOf id) :=
  orderedIndex_eq_ok.mpr (orderedIndex?_indexOf h)

/-- The error names the dependency and the id that is missing. -/
theorem orderedIndex_eq_error :
    d.orderedIndex id = .error e ↔ id ∉ d.vertices.ids ∧ e = .invalidReference d.guid id := by
  rw [← VertexSet.orderedIndex?_eq_none]
  unfold orderedIndex
  cases d.vertices.orderedIndex? id <;> simp [eq_comm]

theorem orderedIndex_of_not_mem (h : id ∉ d.vertices.ids) : d.orderedIndex id = .error (.invalidReference d.guid id) :=
  orderedIndex_eq_error.mpr ⟨h, rfl⟩

end Dependency

theorem invalidReference_iff_of_first {α : Type} {outcome : Except Error α} {Bad : Nat → Prop}
    (hfirst : ∀ k, Bad k → (∀ l, l < k → ¬ Bad l) → ∃ g id, outcome = .error (.invalidReference g id))
    (hnone : (∀ k, ¬ Bad k) → ∃ a, outcome = .ok a) :
    (∃ g id, outcome = .error (.invalidReference g id)) ↔ ∃ k, Bad k := by
  constructor
  · rintro ⟨g, id, herror⟩
    by_contra hno
    push Not at hno
    obtain ⟨a, hok⟩ := hnone hno
    rw [hok] at herror
    cases herror
  · intro hsome
    classical
    exact hfirst (Nat.find hsome) (Nat.find_spec hsome) fun l hl => Nat.find_min hsome hl

end GraphDisk
