/-!
# The layout of a columnar table

A columnar file stores the leaves of a tree. A leaf has a physical type and perhaps a tag that says how its values are
meant; a group holds further elements. Every element is required, optional or repeated. `Leaf.ofElements` lists the
leaves depth first, which is the order of the columns in the file.
-/

namespace GraphDisk

/-- How values are stored. -/
inductive PhysicalType where
  | boolean
  | int32
  | int64
  | int96
  | float
  | double
  | byteArray
  | fixedLenByteArray
deriving DecidableEq, Repr

namespace PhysicalType

def name : PhysicalType → String
  | boolean => "BOOLEAN"
  | int32 => "INT32"
  | int64 => "INT64"
  | int96 => "INT96"
  | float => "FLOAT"
  | double => "DOUBLE"
  | byteArray => "BYTE_ARRAY"
  | fixedLenByteArray => "FIXED_LEN_BYTE_ARRAY"

def all : List PhysicalType := [boolean, int32, int64, int96, float, double, byteArray, fixedLenByteArray]

def ofName? (s : String) : Option PhysicalType := all.find? (·.name == s)

end PhysicalType

inductive Repetition where
  | required
  | optional
  | repeated
deriving DecidableEq, Repr

def Repetition.ofName? : String → Option Repetition
  | "REQUIRED" => some .required
  | "OPTIONAL" => some .optional
  | "REPEATED" => some .repeated
  | _ => none

/-- What the values of a leaf are meant as. -/
inductive Tag where
  | plain
  | utf8
  | json
  | enumeration
  | bson
  /-- A whole number of at most so many digits, to be divided by a power of ten. -/
  | decimal (precision scale : Nat)
  | signed64
  | unsigned64
  | timestampMillis
  | timestampMicros
  /-- Any other tag; no shard column carries one. -/
  | other (name : String)
deriving DecidableEq, Repr

/-- The tag with a name. A decimal needs its scale and its precision, too, which has to be greater to be of use. -/
def Tag.ofName (scale : Nat) (name : String) (precision : Nat := scale + 1) : Tag :=
  match name with
  | "NONE" => plain
  | "UTF8" => utf8
  | "JSON" => json
  | "ENUM" => enumeration
  | "BSON" => bson
  | "DECIMAL" => decimal precision scale
  | "INT_64" => signed64
  | "UINT_64" => unsigned64
  | "TIMESTAMP_MILLIS" => timestampMillis
  | "TIMESTAMP_MICROS" => timestampMicros
  | name => other name

inductive Element where
  | leaf (name : String) (repetition : Repetition) (physical : PhysicalType) (tag : Tag)
  | group (name : String) (repetition : Repetition) (elements : List Element)
deriving Repr

namespace Element

def name : Element → String
  | leaf name _ _ _ => name
  | group name _ _ => name

def repetition : Element → Repetition
  | leaf _ r _ _ => r
  | group _ r _ => r

end Element

/-- A column of a file: a leaf, and whether its values repeat within one record because the leaf or a group around it
does. -/
structure Leaf where
  name : String
  physical : PhysicalType
  repeats : Bool
deriving DecidableEq, Repr

namespace Leaf

mutual

/-- The leaves of an element inside groups that repeat or not. -/
def ofElement (repeats : Bool) : Element → List Leaf
  | .leaf name r physical _ => [⟨name, physical, repeats || r == .repeated⟩]
  | .group _ r elements => ofAll (repeats || r == .repeated) elements

/-- The leaves of some elements, depth first. -/
def ofAll (repeats : Bool) : List Element → List Leaf
  | [] => []
  | e :: es => ofElement repeats e ++ ofAll repeats es

end

def ofElements (elements : List Element) : List Leaf := ofAll false elements

end Leaf

end GraphDisk
