import GraphDisk.Table.Field

/-!
# Records of a table

A record takes one stored value, or none, from each leaf of the layout, depth first, and has one field for each
element at the top. A leaf without a value leaves out the innermost optional element on the way to it.
-/

namespace GraphDisk

namespace Element

mutual

/-- Whether the way from an element down to its first leaf passes an optional element. -/
def reachesOptional : Element → Bool
  | leaf _ r _ _ => r == .optional
  | group _ r elements => r == .optional || anyOptional elements

def anyOptional : List Element → Bool
  | [] => false
  | e :: _ => reachesOptional e

end

def startsEmpty : List (Option StoredValue) → Bool
  | none :: _ => true
  | _ => false

mutual

/-- The field of an element, and the values that are left for the elements after it. -/
def field : Element → List (Option StoredValue) → Except TableFault (Field × List (Option StoredValue))
  | leaf .., [] => .error .unreadable
  | leaf .., none :: rest => .ok (.null, rest)
  | leaf _ _ physical tag, some v :: rest => do return (← Field.ofStored physical tag v, rest)
  | group _ r elements, values =>
    if r == .optional && startsEmpty values && !anyOptional elements then
      .ok (.null, values.drop (Leaf.ofAll false elements).length)
    else do
      let (fs, rest) ← fields elements values
      return (.group fs, rest)

def fields : List Element → List (Option StoredValue) →
    Except TableFault (List (String × Field) × List (Option StoredValue))
  | [], values => .ok ([], values)
  | e :: es, values => do
    let (f, rest) ← field e values
    let (fs, rest) ← fields es rest
    return ((e.name, f) :: fs, rest)

end

end Element

abbrev Record := List (String × Field)

/-- The record that a layout makes of one value for each leaf. -/
def Record.ofValues (elements : List Element) (values : List (Option StoredValue)) : Except TableFault Record :=
  (Element.fields elements values).map Prod.fst

/-- The field at a position. A position beyond the record is never asked for by a shard, and is as good as unreadable.
-/
def Record.at (r : Record) (position : Nat) : Except TableFault Field :=
  match r[position]? with
  | some (_, f) => .ok f
  | none => .error .unreadable

end GraphDisk
