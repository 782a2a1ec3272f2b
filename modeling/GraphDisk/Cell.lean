import GraphDisk.Decimal.Layout
import GraphDisk.Schema
import GraphDisk.Text.Quoted

/-!
# Cells

A cell is one value of a row, of one of the three column types.
-/

namespace GraphDisk

/-- One value of a row. -/
inductive Cell where
  | int64 (n : Int64)
  | double (x : Double)
  | utf8 (s : String)
deriving DecidableEq, Repr

namespace Cell

def type : Cell → ColumnType
  | int64 _ => .int64
  | double _ => .double
  | utf8 _ => .utf8

/-- A cell as messages show it. -/
def description : Cell → String
  | int64 n => "Int64(" ++ toString n.toInt ++ ")"
  | double x => "Double(" ++ Layout.message.text x ++ ")"
  | utf8 s => "Utf8(" ++ Text.quoted s ++ ")"

end Cell

end GraphDisk
