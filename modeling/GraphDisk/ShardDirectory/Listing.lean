import GraphDisk.Config

/-!
# The files of a shard directory

A shard directory holds data files and perhaps a completion marker. Everything else in it — directories and links — is
passed over. The data files are read in the order of their names or, on request, as the directory lists them.
-/

namespace GraphDisk

/-- A whole number in at least five digits, and the extension of data files. -/
def partFileName (index : Nat) : String :=
  let digits := Nat.toDigits 10 index
  "part-" ++ String.ofList (List.replicate (5 - digits.length) '0' ++ digits) ++ ".parquet"

/-- The data files of a shard directory, in the order in which they are read. -/
structure Listing where
  directory : Path
  names : List String
  hasMarker : Bool
deriving DecidableEq, Repr

namespace Listing

/-- The listing of a directory, given its entries in the order in which the directory lists them. -/
def ofEntries (directory : Path) (marker : String) (ordering : ShardOrdering) (entries : Directory) : Listing :=
  let files := (entries.filter fun e => e.2.isFile).map Prod.fst
  let names := files.filter (· ≠ marker)
  { directory
    names := match ordering with
      | .lexicographic => names.mergeSort fun a b => a ≤ b
      | .listing => names
    hasMarker := files.contains marker }

def paths (l : Listing) : List Path := l.names.map l.directory.entry

def ofPath (fs : FileSystem) (directory : Path) (marker : String) (ordering : ShardOrdering) : Except Error Listing :=
  match fs.list directory with
  | .ok entries => .ok (ofEntries directory marker ordering entries)
  | .error fault => .error (.io fault)

end Listing

end GraphDisk
