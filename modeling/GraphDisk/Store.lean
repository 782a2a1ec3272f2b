import Std.Data.TreeMap
import GraphDisk.Entity

/-!
# The entity store

The store holds at most one entity for each guid. Installing an entity replaces the one before it.
-/

namespace GraphDisk

/-- The resident entities by guid. -/
structure Store where
  entities : Std.TreeMap Guid Entity

namespace Store

def empty : Store := ⟨∅⟩

def get? (s : Store) (g : Guid) : Option Entity := s.entities[g]?

def install (s : Store) (g : Guid) (e : Entity) : Store := ⟨s.entities.insert g e⟩

def contains (s : Store) (g : Guid) : Bool := s.entities.contains g

def size (s : Store) : Nat := s.entities.size

def isEmpty (s : Store) : Bool := s.entities.isEmpty

/-- All guids with the kinds of their entities, in the order of the guids. -/
def list (s : Store) : List (Guid × Kind) := s.entities.toList.map fun (g, e) => (g, e.kind)

/-- The vertex set of a guid that something else refers to. -/
def vertexSet (s : Store) (g : Guid) : Except Error VertexSet :=
  match s.get? g with
  | some (.vertexSet vs) => .ok vs
  | some e => .error (.dependencyKind g .vertexSet e.kind)
  | none => .error (.dependencyNotFound g)

end Store

end GraphDisk
