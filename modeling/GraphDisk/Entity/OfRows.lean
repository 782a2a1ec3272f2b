import GraphDisk.Config
import GraphDisk.Entity.ToRows

/-!
# From external ids to ordered indices

The rows of a shard directory become an entity again: vertices are numbered in the order of the rows, and the ends of
edges and the slots of attributes are found by external id. If several rows name the same slot, the last one counts.
-/

namespace GraphDisk

def VertexSet.ofRows (policy : DuplicatePolicy) (g : Guid) (rows : List VertexRow) : Except Error VertexSet :=
  let vs := VertexSet.ofIds (rows.map VertexRow.id).toArray
  match policy, vs.firstDuplicate? with
  | .reject, some id => .error (.duplicateExternalId g id)
  | _, _ => .ok vs

def EdgeBundle.ofRows (first second : Dependency) (rows : List EdgeRow) : Except Error EdgeBundle := do
  let edges ← rows.mapM fun r => do
    return ({ id := r.id, src := ← first.orderedIndex r.src, dst := ← second.orderedIndex r.dst } : Edge)
  return ⟨edges.toArray⟩

/-- The attribute of some rows: a slot for each vertex, and zero where no row has written. -/
def Attribute.ofRows {α : Type} (zero : α) (d : Dependency) (rows : List (AttributeRow α)) :
    Except Error (Attribute α) := do
  let writes ← rows.mapM fun r => do return (← d.orderedIndex r.id, r.value)
  return scatter zero d.vertices.size writes

end GraphDisk
