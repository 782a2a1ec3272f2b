import GraphDisk.Config
import GraphDisk.Guid

/-!
# Requests and replies

Other programs ask for a disk operation by a JSON object. A vertex set that is not needed may be left out, be null, or
be the empty guid; the first two are the same message, the third is a different one that means the same.
-/

namespace GraphDisk

open Json (Document Value)

/-- Asks for the shard directory of a resident entity to be written. -/
structure WriteRequest where
  guid : Guid
  first : Option Guid := none
  second : Option Guid := none
deriving DecidableEq, Repr

/-- Asks for an entity to be built from its shard directory. -/
structure ReadRequest where
  guid : Guid
  kind : String
  first : Option Guid := none
  second : Option Guid := none
deriving DecidableEq, Repr

/-- The reply to a request that was carried out: it says nothing more. -/
structure Reply where
deriving DecidableEq, Repr

def Guid.ofDocument? (d : Document) : Option Guid := d.string?.map Guid.mk

def Guid.value (g : Guid) : Value := .string g.text

/-- The guid of a message, unless it stands for none. -/
def Guid.orNone (g : Option Guid) : Option Guid := g.filter fun g => !g.isUnset

/-- A field that is written only if it has a value. -/
def optionalMember (name : String) (g : Option Guid) : List (String × Value) :=
  match g with
  | some g => [(name, g.value)]
  | none => []

namespace WriteRequest

def fieldNames : List String := ["guid", "vsguid1", "vsguid2"]

def ofDocument? (d : Document) : Option WriteRequest := do
  let [guid, first, second] ← d.fields? fieldNames | none
  return {
    guid := ← Document.required? Guid.ofDocument? guid
    first := ← Document.optional? Guid.ofDocument? first
    second := ← Document.optional? Guid.ofDocument? second }

def value (r : WriteRequest) : Value :=
  .object (("guid", r.guid.value) :: optionalMember "vsguid1" r.first ++ optionalMember "vsguid2" r.second)

def text (r : WriteRequest) : String := r.value.text

def parse? (s : String) : Option WriteRequest := (Document.parse? s).bind ofDocument?

end WriteRequest

namespace ReadRequest

def fieldNames : List String := ["guid", "type", "vsguid1", "vsguid2"]

def ofDocument? (d : Document) : Option ReadRequest := do
  let [guid, kind, first, second] ← d.fields? fieldNames | none
  return {
    guid := ← Document.required? Guid.ofDocument? guid
    kind := ← Document.required? Document.string? kind
    first := ← Document.optional? Guid.ofDocument? first
    second := ← Document.optional? Guid.ofDocument? second }

def value (r : ReadRequest) : Value :=
  .object (("guid", r.guid.value) :: ("type", .string r.kind) ::
    optionalMember "vsguid1" r.first ++ optionalMember "vsguid2" r.second)

def text (r : ReadRequest) : String := r.value.text

def parse? (s : String) : Option ReadRequest := (Document.parse? s).bind ofDocument?

end ReadRequest

namespace Reply

def ofDocument? (d : Document) : Option Reply := (d.fields? []).map fun _ => {}

def value (_ : Reply) : Value := .object []

def text (r : Reply) : String := r.value.text

def parse? (s : String) : Option Reply := (Document.parse? s).bind ofDocument?

end Reply

/-- Reads a scalar: a record with the one field `value`. The record is one container, so one less may be nested in the
value. -/
def Scalar.ofDocument? (d : Document) : Option Value := do
  let [value] ← d.fields? ["value"] | none
  Document.required? (Document.value? (Json.maxDepth - 1)) value

def Scalar.value (v : Value) : Value := .object [("value", v)]

def Kind.ofDocument? (d : Document) : Option Kind := d.name?.bind Kind.ofName?

end GraphDisk
