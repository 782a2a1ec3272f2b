import GraphDisk.Cell
import GraphDisk.FileSystem.Fault
import GraphDisk.FileSystem.Path
import GraphDisk.Guid

/-!
# Errors

Every failure of the library is one `Error`, which holds its cause. `Error.message` is the only place where a failure
becomes a sentence, and `Error.code` gives the class of a failure that replies to other programs carry.
-/

namespace GraphDisk

def decimalText (n : Nat) : String := String.ofList (Nat.toDigits 10 n)

/-- Why columns do not make an entity. -/
inductive EntityFault where
  | attributeColumns (kind : Kind) (lengths : List Nat)
  | edgeColumns (sources destinations ids : Nat)
  | described (text : String)
deriving DecidableEq, Repr

namespace EntityFault

def message : EntityFault → String
  | attributeColumns kind lengths =>
    kind.name ++ " columns differ in length: [" ++ ", ".intercalate (lengths.map decimalText) ++ "]"
  | edgeColumns sources destinations ids =>
    "edge bundle columns differ in length: src=" ++ decimalText sources ++ ", dst=" ++ decimalText destinations ++
      ", edge_mapping=" ++ decimalText ids
  | described text => text

end EntityFault

/-- Why reading a table fails. -/
inductive TableFault where
  | unreadable
  /-- A value that is meant as text is not UTF-8. -/
  | invalidText
  /-- A field of one type was asked for a value of another type. -/
  | access (found wanted : String)
  /-- No error: the program ends where it is, and nothing is handed back. -/
  | halt
  | described (text : String)
deriving DecidableEq, Repr

namespace TableFault

def message : TableFault → String
  | unreadable => "Parquet error: Invalid Parquet file"
  | invalidText => "Parquet error: Invalid UTF-8"
  | access found wanted => "Parquet error: Cannot access " ++ found ++ " as " ++ wanted
  | halt => "the program has ended"
  | described text => "Parquet error: " ++ text

end TableFault

/-- Why a table is not the shard that it should be. -/
inductive FormatFault where
  /-- The file is not flat, or has another number of columns than the schema. -/
  | columnCount (schema : Schema) (found : Nat)
  | missingColumn (schema : Schema) (column : Column)
  | unknownColumns (columns : List Leaf)
  | cellType (cell : Cell) (column : ColumnType)
  | otherSchema (expected found : Schema)
  /-- A row group holds fewer rows than it should. -/
  | rowCount (group held stated : Nat)
  | table (fault : TableFault)
  | inFile (path : Path) (fault : FormatFault)
  | described (text : String)
deriving DecidableEq, Repr

namespace FormatFault

def leafText (l : Leaf) : String := l.physical.name ++ " " ++ l.name

def message : FormatFault → String
  | columnCount schema found =>
    "expected " ++ decimalText schema.columns.length ++ " columns of a " ++ schema.name ++ " shard, file has " ++
      decimalText found
  | missingColumn schema column =>
    schema.name ++ " shard needs " ++ column.type.name ++ " column " ++ Text.quoted column.name
  | unknownColumns columns => "columns [" ++ ", ".intercalate (columns.map leafText) ++ "] match no shard schema"
  | cellType cell column => cell.description ++ " cell in " ++ column.name ++ " column"
  | otherSchema expected found => "expected " ++ expected.name ++ " shard, got " ++ found.name
  | rowCount group held stated =>
    "row group " ++ decimalText group ++ " holds " ++ decimalText held ++ " rows, footer says " ++ decimalText stated
  | table fault => fault.message
  | inFile path fault => path.text ++ ": " ++ fault.message
  | described text => text

end FormatFault

inductive ConfigFault where
  | noWorkers
  | marker (name : String)
  | described (text : String)
deriving DecidableEq, Repr

namespace ConfigFault

def message : ConfigFault → String
  | noWorkers => "codec.workers must be at least 1"
  | marker name => "completion_marker must be a plain file name, got " ++ Text.quoted name
  | described text => text

end ConfigFault

namespace Guid.Fault

def message : Guid.Fault → String
  | reserved text => Text.quoted text
  | separator text => Text.quoted text ++ " contains a path separator"
  | described text => text

end Guid.Fault

inductive Error where
  | entityNotFound (guid : Guid)
  | dependencyNotFound (guid : Guid)
  | dependencyKind (guid : Guid) (expected found : Kind)
  /-- Entities of this kind have no shards, or there is no such kind. -/
  | unsupportedKind (name : String)
  /-- An external id does not occur in the vertex set that it should be looked up in. -/
  | invalidReference (vertexSet : Guid) (externalId : Int64)
  /-- An ordered index lies beyond the vertex set that it should be looked up in. -/
  | indexOutOfRange (vertexSet : Guid) (index : Nat)
  | duplicateExternalId (vertexSet : Guid) (externalId : Int64)
  | invalidEntity (fault : EntityFault)
  | io (fault : IoFault)
  | invalidFormat (fault : FormatFault)
  | table (fault : TableFault)
  /-- A shard directory that must have a completion marker has none. -/
  | incompleteDirectory (path : Path)
  | invalidGuid (fault : Guid.Fault)
  | invalidConfig (fault : ConfigFault)
  /-- A text is not JSON, or not of the expected form. -/
  | malformedJson
deriving DecidableEq, Repr

namespace Error

/-- The class of a failure in replies. There is no reply if the program has ended. -/
def code : Error → String
  | entityNotFound _ => "ENTITY_NOT_FOUND"
  | dependencyNotFound _ => "DEPENDENCY_NOT_FOUND"
  | dependencyKind .. => "DEPENDENCY_TYPE_MISMATCH"
  | unsupportedKind _ => "UNSUPPORTED_ENTITY_TYPE"
  | invalidReference .. | indexOutOfRange .. => "INVALID_REFERENCE"
  | duplicateExternalId .. | invalidEntity _ => "INVALID_DATA"
  | table .halt => ""
  | io _ | invalidFormat _ | table _ | incompleteDirectory _ => "IO_ERROR"
  | invalidGuid _ => "INVALID_GUID"
  | invalidConfig _ | malformedJson => "INVALID_CONFIG"

def message : Error → String
  | entityNotFound guid => "guid " ++ guid.text ++ " not found"
  | dependencyNotFound guid => "dependency guid " ++ guid.text ++ " not found"
  | dependencyKind guid expected found =>
    "dependency guid " ++ guid.text ++ " is a " ++ found.name ++ ", expected " ++ expected.name
  | unsupportedKind name => "unsupported entity type for unordered disk: " ++ name
  | invalidReference vertexSet externalId =>
    "external id " ++ toString externalId.toInt ++ " has no ordered counterpart in vertex set " ++ vertexSet.text
  | indexOutOfRange vertexSet index =>
    "ordered index " ++ decimalText index ++ " has no external id in vertex set " ++ vertexSet.text
  | duplicateExternalId vertexSet externalId =>
    "external id " ++ toString externalId.toInt ++ " appears more than once in vertex set " ++ vertexSet.text
  | invalidEntity fault => "Invalid entity: " ++ fault.message
  | io fault => "IO error: " ++ fault.message
  | invalidFormat fault => "Invalid shard format: " ++ fault.message
  | table fault => "Parquet error: " ++ fault.message
  | incompleteDirectory path => "shard directory " ++ Text.quoted path.text ++ " has no completion marker"
  | invalidGuid fault => "Invalid guid: " ++ fault.message
  | invalidConfig fault => "Invalid configuration: " ++ fault.message
  | malformedJson => "JSON error"

/-- The failures that made this one, outermost first and without the failure itself. -/
def causes : Error → List String
  | io fault => [fault.message]
  | table fault => [fault.message]
  | _ => []

end Error

/-- The name of a guid's directory entry, or why there is none. -/
def Guid.entryName (g : Guid) : Except Error String :=
  match g.fault? with
  | some fault => .error (.invalidGuid fault)
  | none => .ok g.text

end GraphDisk
