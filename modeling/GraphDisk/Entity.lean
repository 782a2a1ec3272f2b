import GraphDisk.Attribute
import GraphDisk.EdgeBundle
import GraphDisk.Json.Value
import GraphDisk.VertexSet

/-!
# Entities

An entity is one of six sorts of values. `Entity.fields` shows its columns by name, in the order in which the ordered
form on disk holds them.
-/

namespace GraphDisk

/-- A value in the store. -/
inductive Entity where
  /-- A single value that means nothing to the store. -/
  | scalar (value : Json.Value)
  | vertexSet (vs : VertexSet)
  | edgeBundle (eb : EdgeBundle)
  | doubleAttribute (a : Attribute Double)
  | stringAttribute (a : Attribute String)
  | pairAttribute (a : Attribute (Double × Double))

inductive FieldData where
  | json (value : Json.Value)
  | ids (values : Array Int64)
  | indices (values : Array Nat)
  | doubles (values : Array Double)
  | strings (values : Array String)
  | flags (values : Array Bool)

namespace Entity

def kind : Entity → Kind
  | scalar _ => .scalar
  | vertexSet _ => .vertexSet
  | edgeBundle _ => .edgeBundle
  | doubleAttribute _ => .doubleAttribute
  | stringAttribute _ => .stringAttribute
  | pairAttribute _ => .pairAttribute

/-- The length of an entity; scalars have none. -/
def size? : Entity → Option Nat
  | scalar _ => none
  | vertexSet vs => some vs.size
  | edgeBundle eb => some eb.size
  | doubleAttribute a => some a.size
  | stringAttribute a => some a.size
  | pairAttribute a => some a.size

def fields : Entity → List (String × FieldData)
  | scalar v => [("Value", .json v)]
  | vertexSet vs => [("Mapping", .ids vs.ids)]
  | edgeBundle eb => [("Src", .indices eb.sources), ("Dst", .indices eb.destinations), ("EdgeMapping", .ids eb.ids)]
  | doubleAttribute a => [("Values", .doubles a.values), ("Defined", .flags a.defined)]
  | stringAttribute a => [("Values", .strings a.values), ("Defined", .flags a.defined)]
  | pairAttribute a =>
    [("Values1", .doubles (a.values.map Prod.fst)), ("Values2", .doubles (a.values.map Prod.snd)),
      ("Defined", .flags a.defined)]

end Entity

end GraphDisk
