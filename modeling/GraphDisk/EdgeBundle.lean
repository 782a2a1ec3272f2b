import GraphDisk.Error

/-!
# Edge bundles

An edge bundle is a list of edges between two vertex sets. The ends of an edge are ordered indices, the edge itself has
an external id.
-/

namespace GraphDisk

/-- An edge between two vertices given by ordered index. -/
structure Edge where
  id : Int64
  src : Nat
  dst : Nat
deriving DecidableEq, Repr

structure EdgeBundle where
  edges : Array Edge
deriving DecidableEq, Repr

namespace EdgeBundle

/-- The edges of three columns of equal length. -/
def ofColumns (src dst : Array Nat) (ids : Array Int64) : Except Error EdgeBundle :=
  if src.size = dst.size ∧ src.size = ids.size then
    .ok ⟨(ids.zip (src.zip dst)).map fun (id, s, d) => ⟨id, s, d⟩⟩
  else .error (.invalidEntity (.edgeColumns src.size dst.size ids.size))

def size (eb : EdgeBundle) : Nat := eb.edges.size

def sources (eb : EdgeBundle) : Array Nat := eb.edges.map Edge.src

def destinations (eb : EdgeBundle) : Array Nat := eb.edges.map Edge.dst

def ids (eb : EdgeBundle) : Array Int64 := eb.edges.map Edge.id

end EdgeBundle

end GraphDisk
