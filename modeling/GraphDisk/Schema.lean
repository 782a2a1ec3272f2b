import GraphDisk.Kind
import GraphDisk.Table.Element

/-!
# Shard schemas

A shard holds the rows of one entity. There are five schemas, one for each kind but scalars; every schema is a list of
named columns, the first of which is the external id that the row is about.
-/

namespace GraphDisk

inductive ColumnType where
  | int64
  | double
  | utf8
deriving DecidableEq, Repr

namespace ColumnType

def name : ColumnType → String
  | int64 => "INT64"
  | double => "DOUBLE"
  | utf8 => "UTF8"

/-- How the values of a column are stored. -/
def physical : ColumnType → PhysicalType
  | int64 => .int64
  | double => .double
  | utf8 => .byteArray

/-- What the stored values of a column are meant as. -/
def tag : ColumnType → Tag
  | utf8 => .utf8
  | _ => .plain

end ColumnType

structure Column where
  name : String
  type : ColumnType
deriving DecidableEq, Repr

namespace Column

/-- The element that stores a column: always required. -/
def element (c : Column) : Element := .leaf c.name .required c.type.physical c.type.tag

def declaration (c : Column) : String :=
  match c.type with
  | .utf8 => "REQUIRED BYTE_ARRAY " ++ c.name ++ " (UTF8);"
  | _ => "REQUIRED " ++ c.type.physical.name ++ " " ++ c.name ++ ";"

end Column

inductive Schema where
  | vertex
  | edge
  | stringAttribute
  | doubleAttribute
  | pairAttribute
deriving DecidableEq, Repr

namespace Schema

/-- All schemas, in the order in which a file is tried against them. -/
def all : List Schema := [vertex, edge, stringAttribute, doubleAttribute, pairAttribute]

def name : Schema → String
  | vertex => "vertex"
  | edge => "edge"
  | stringAttribute => "string_attribute"
  | doubleAttribute => "double_attribute"
  | pairAttribute => "double_tuple2_attribute"

def ofName? (s : String) : Option Schema := all.find? (·.name == s)

/-- The kind of entity whose rows a schema holds. -/
def kind : Schema → Kind
  | vertex => .vertexSet
  | edge => .edgeBundle
  | stringAttribute => .stringAttribute
  | doubleAttribute => .doubleAttribute
  | pairAttribute => .pairAttribute

def columns : Schema → List Column
  | vertex => [⟨"id", .int64⟩]
  | edge => [⟨"id", .int64⟩, ⟨"src", .int64⟩, ⟨"dst", .int64⟩]
  | stringAttribute => [⟨"id", .int64⟩, ⟨"value", .utf8⟩]
  | doubleAttribute => [⟨"id", .int64⟩, ⟨"value", .double⟩]
  | pairAttribute => [⟨"id", .int64⟩, ⟨"value1", .double⟩, ⟨"value2", .double⟩]

/-- The layout of a file that holds the columns in their order. -/
def elements (s : Schema) : List Element := s.columns.map Column.element

/-- The size of a row in memory, in bytes. -/
def rowSize : Schema → Nat
  | vertex => 8
  | edge => 24
  | stringAttribute => 32
  | doubleAttribute => 16
  | pairAttribute => 24

def messageType (s : Schema) : String :=
  "message " ++ s.name ++ " \x7b " ++ " ".intercalate (s.columns.map Column.declaration) ++ " \x7d"

end Schema

/-- The schema for the rows of a kind. Scalars have none. -/
def Kind.schema? : Kind → Option Schema
  | .vertexSet => some .vertex
  | .edgeBundle => some .edge
  | .stringAttribute => some .stringAttribute
  | .doubleAttribute => some .doubleAttribute
  | .pairAttribute => some .pairAttribute
  | .scalar => none

end GraphDisk
