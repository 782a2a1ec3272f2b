import GraphDisk.Error

/-!
# Attributes

An attribute has a slot for each vertex of a vertex set, by ordered index. Only a slot that is marked as defined has a
value; what is stored in the others means nothing, and is zero after reading.
-/

namespace GraphDisk

structure Slot (α : Type) where
  value : α
  defined : Bool
deriving DecidableEq, Repr

/-- Values for the vertices of a vertex set. -/
structure Attribute (α : Type) where
  slots : Array (Slot α)
deriving DecidableEq, Repr

namespace Attribute

variable {α : Type}

/-- The attribute of a column of values and a column that says which of them are defined. -/
def ofColumns (kind : Kind) (values : Array α) (defined : Array Bool) : Except Error (Attribute α) :=
  if values.size = defined.size then .ok ⟨(values.zip defined).map fun (v, d) => ⟨v, d⟩⟩
  else .error (.invalidEntity (.attributeColumns kind [values.size, defined.size]))

def ofPairColumns {β : Type} (kind : Kind) (firsts : Array α) (seconds : Array β) (defined : Array Bool) :
    Except Error (Attribute (α × β)) :=
  if firsts.size = seconds.size ∧ seconds.size = defined.size then
    .ok ⟨((firsts.zip seconds).zip defined).map fun (v, d) => ⟨v, d⟩⟩
  else .error (.invalidEntity (.attributeColumns kind [firsts.size, seconds.size, defined.size]))

def size (a : Attribute α) : Nat := a.slots.size

def get? (a : Attribute α) (index : Nat) : Option α :=
  match a.slots[index]? with
  | some ⟨value, true⟩ => some value
  | _ => none

def values (a : Attribute α) : Array α := a.slots.map Slot.value

def defined (a : Attribute α) : Array Bool := a.slots.map Slot.defined

/-- The defined slots with their indices, ascending. -/
def entries (a : Attribute α) : List (Nat × α) :=
  a.slots.toList.zipIdx.filterMap fun (slot, i) => if slot.defined then some (i, slot.value) else none

/-- The attribute with the given number of slots in which the given slots have been written, in order; all others are
zero and not defined. -/
def scatter (zero : α) (size : Nat) (writes : List (Nat × α)) : Attribute α :=
  ⟨writes.foldl (fun slots (i, v) => slots.setIfInBounds i ⟨v, true⟩) (Array.replicate size ⟨zero, false⟩)⟩

end Attribute

end GraphDisk
