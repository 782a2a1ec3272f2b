import Std.Data.HashMap

/-!
# Vertex sets

A vertex set numbers external ids: the ordered index of a vertex is its position in the list of ids. An id may occur
more than once; looking it up gives its last position.
-/

namespace GraphDisk

/-- The last position of every id in a list. -/
def lastPositions (ids : List Int64) : Std.HashMap Int64 Nat :=
  ids.zipIdx.foldl (fun positions (id, i) => positions.insert id i) ∅

/-- A set of vertices, each with its external id. -/
structure VertexSet where
  ids : Array Int64
  positions : Std.HashMap Int64 Nat
  positions_eq : positions = lastPositions ids.toList

namespace VertexSet

def ofIds (ids : Array Int64) : VertexSet := ⟨ids, lastPositions ids.toList, rfl⟩

def size (vs : VertexSet) : Nat := vs.ids.size

def externalId? (vs : VertexSet) (index : Nat) : Option Int64 := vs.ids[index]?

def orderedIndex? (vs : VertexSet) (id : Int64) : Option Nat := vs.positions[id]?

/-- Whether no external id occurs twice: there are as many different ids as vertices. -/
def hasUniqueIds (vs : VertexSet) : Bool := vs.positions.size == vs.ids.size

/-- The first external id that occurs again later. -/
def firstDuplicate? (vs : VertexSet) : Option Int64 :=
  if vs.hasUniqueIds then none
  else (vs.ids.toList.zipIdx.find? fun (id, i) => vs.orderedIndex? id != some i).map Prod.fst

/-- All external ids with their ordered indices, ascending by id. -/
def orderedIndices (vs : VertexSet) : List (Int64 × Nat) := vs.positions.toList.mergeSort fun a b => a.1 ≤ b.1

end VertexSet

end GraphDisk
