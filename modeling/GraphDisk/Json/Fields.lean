import GraphDisk.Json.Document
import GraphDisk.Json.Value

/-!
# Records as JSON

A record with named fields is read from an object or from an array. In an object the fields may come in any order,
members of other names are ignored, and no field may come twice. In an array the fields come in the order of the
record, and fields at the end may be left out. `Document.fields?` does both: it gives one document for each field
name, or none for a field that was left out; what that means is for the record to say.
-/

namespace GraphDisk.Json

namespace Document

/-- The document of a field among some members: none if it is not there, and failure if it is there twice. -/
def field? (name : String) (members : List (String × Document)) : Option (Option Document) :=
  match members.filter (·.1 == name) with
  | [] => some none
  | [(_, d)] => some (some d)
  | _ => none

def named? (members : List (Spelling × Document)) : Option (List (String × Document)) :=
  members.mapM fun (key, d) => key.map (·, d)

/-- One document, or none, for each of the named fields of a record. -/
def fields? (names : List String) : Document → Option (List (Option Document))
  | .object ms => do
    let ms ← named? ms
    names.mapM fun name => field? name ms
  | .array ds =>
    if ds.length ≤ names.length then some (ds.map some ++ List.replicate (names.length - ds.length) none) else none
  | _ => none

/-! ## Field values -/

def string? : Document → Option String
  | .string s => s
  | _ => none

def bool? : Document → Option Bool
  | .bool b => some b
  | _ => none

/-- A whole number from zero up, spelt with digits only, that fits 64 bits. -/
def natural? : Document → Option UInt64
  | .number n =>
    match n.number? with
    | some (.natural k) => some k
    | _ => none
  | _ => none

/-- One of some names: as a text, or as the only member of an object, with the value null. -/
def name? : Document → Option String
  | .string s => s
  | .object [(key, .null)] => key
  | _ => none

/-- A field that may be left out or null. -/
def optional? {α : Type} (read : Document → Option α) : Option Document → Option (Option α)
  | none => some none
  | some .null => some none
  | some d => (read d).map some

/-- A field with a value of its own for when it is left out. -/
def orDefault? {α : Type} (read : Document → Option α) (byDefault : α) : Option Document → Option α
  | none => some byDefault
  | some d => read d

def required? {α : Type} (read : Document → Option α) (field : Option Document) : Option α := field.bind read

end Document

end GraphDisk.Json
