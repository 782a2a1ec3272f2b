import GraphDisk.Table.Record

/-!
# Columnar tables

A table is a layout, the row groups in file order, and what the footer says about the file. Within a row group the
values lie column by column; `RowGroup.rows` turns them back into rows. The footer states a number of rows for each
group, and no more rows than that are read.
-/

namespace GraphDisk

/-- A part of a table: the values of each leaf, column by column, and the number of rows that the footer states. -/
structure RowGroup where
  columns : List (Array (Option StoredValue))
  stated : Nat

namespace RowGroup

def held (g : RowGroup) : Nat := (g.columns.head?.map Array.size).getD 0

/-- The values of a row, one for each leaf. -/
def row (g : RowGroup) (i : Nat) : List (Option StoredValue) := g.columns.map fun column => column[i]?.join

/-- The rows that are read, in order. -/
def rows (g : RowGroup) : List (List (Option StoredValue)) := (List.range (min g.stated g.held)).map g.row

end RowGroup

structure Table where
  /-- The elements at the top of the layout. -/
  elements : List Element
  groups : List RowGroup
  /-- The number of rows that the footer states for the whole table. It is shown as it is, decides whether the row
  groups are spread over threads, and room is made for so many rows when the groups have been read. -/
  stated : Int
  createdBy : Option String

namespace Table

def leaves (t : Table) : List Leaf := Leaf.ofElements t.elements

def rows (t : Table) : List (List (Option StoredValue)) := t.groups.flatMap RowGroup.rows

def rowCount (t : Table) : Nat := t.stated.toNat

def record (t : Table) (values : List (Option StoredValue)) : Except TableFault Record :=
  Record.ofValues t.elements values

end Table

end GraphDisk
