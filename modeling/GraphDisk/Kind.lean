/-!
# Kinds of entities

The six kinds, their names, and the codes by which the ordered form on disk tells them apart. `Kind.all` is in the
order of the codes; the order on kinds is the order of the constructors.
-/

namespace GraphDisk

inductive Kind where
  | scalar
  | vertexSet
  | edgeBundle
  | doubleAttribute
  | stringAttribute
  | pairAttribute
deriving DecidableEq, Repr, Ord

namespace Kind

/-- All kinds, by code. -/
def all : List Kind := [edgeBundle, vertexSet, scalar, doubleAttribute, stringAttribute, pairAttribute]

/-- The name of a kind in requests and messages. -/
def name : Kind → String
  | scalar => "Scalar"
  | vertexSet => "VertexSet"
  | edgeBundle => "EdgeBundle"
  | doubleAttribute => "DoubleAttribute"
  | stringAttribute => "StringAttribute"
  | pairAttribute => "DoubleTuple2Attribute"

def code : Kind → Nat
  | edgeBundle => 0
  | vertexSet => 1
  | scalar => 2
  | doubleAttribute => 3
  | stringAttribute => 4
  | pairAttribute => 5

def ofCode? (n : Nat) : Option Kind := all.find? (·.code == n)

def ofName? (s : String) : Option Kind := all.find? (·.name == s)

end Kind

end GraphDisk
