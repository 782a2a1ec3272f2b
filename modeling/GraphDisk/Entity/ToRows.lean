import GraphDisk.Store
import GraphDisk.Row

/-!
# From ordered indices to external ids

Entities refer to vertices by ordered index, shards by external id. `Entity.externalRows` says which rows an entity has
on disk: a vertex set one for each vertex, an edge bundle one for each edge, an attribute one for each defined slot.
-/

namespace GraphDisk

/-- A vertex set that something refers to, with its guid. -/
structure Dependency where
  guid : Guid
  vertices : VertexSet

namespace Dependency

def externalId (d : Dependency) (index : Nat) : Except Error Int64 :=
  match d.vertices.externalId? index with
  | some id => .ok id
  | none => .error (.indexOutOfRange d.guid index)

def orderedIndex (d : Dependency) (id : Int64) : Except Error Nat :=
  match d.vertices.orderedIndex? id with
  | some index => .ok index
  | none => .error (.invalidReference d.guid id)

end Dependency

/-- The resident vertex set of a guid. No guid is looked up like the empty one. -/
def Store.dependency (s : Store) (g : Option Guid) : Except Error Dependency := do
  let g := g.getD .unset
  return ⟨g, ← s.vertexSet g⟩

structure RowBlock where
  schema : Schema
  rows : List schema.Row

def VertexSet.externalRows (vs : VertexSet) : List VertexRow := vs.ids.toList.map VertexRow.mk

/-- A row for each edge. The source of an edge is looked up before its destination. -/
def EdgeBundle.externalRows (eb : EdgeBundle) (first second : Dependency) : Except Error (List EdgeRow) :=
  eb.edges.toList.mapM fun e => do
    return { id := e.id, src := ← first.externalId e.src, dst := ← second.externalId e.dst }

def Attribute.externalRows {α : Type} (a : Attribute α) (d : Dependency) : Except Error (List (AttributeRow α)) :=
  a.entries.mapM fun (i, v) => do return { id := ← d.externalId i, value := v }

/-- The rows of an entity on disk. The vertex sets that it needs are looked up in the store, the first one first. -/
def Entity.externalRows (s : Store) (first second : Option Guid) : Entity → Except Error RowBlock
  | .scalar _ => .error (.unsupportedKind Kind.scalar.name)
  | .vertexSet vs => return ⟨.vertex, vs.externalRows⟩
  | .edgeBundle eb => do
    let src ← s.dependency first
    let dst ← s.dependency second
    return ⟨.edge, ← eb.externalRows src dst⟩
  | .doubleAttribute a => do return ⟨.doubleAttribute, ← a.externalRows (← s.dependency first)⟩
  | .stringAttribute a => do return ⟨.stringAttribute, ← a.externalRows (← s.dependency first)⟩
  | .pairAttribute a => do return ⟨.pairAttribute, ← a.externalRows (← s.dependency first)⟩

end GraphDisk
