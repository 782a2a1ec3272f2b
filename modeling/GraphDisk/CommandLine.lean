import GraphDisk.UnorderedDisk

/-!
# The command line

Two commands look at shards: `inspect` describes a file, or a directory and all its data files, and `dump` prints the
rows of a file. `Command.parse?` reads the arguments, `Command.run` gives the `Report` of a command: all that it
prints, and how it failed if it did. What was printed before a failure stays printed.
-/

namespace GraphDisk

/-! ## Arguments -/

inductive Command where
  /-- Describes a shard file, or a shard directory with a completion marker of the given name. -/
  | inspect (path : Path) (marker : String)
  /-- Prints the rows of a shard file, at most the given number. -/
  | dump (path : Path) (limit : Option Nat)
deriving DecidableEq, Repr

namespace Command

/-- Whether an argument is an option and not a value. A single dash is a value. -/
def isOption (arg : String) : Bool := arg.toList.head? == some '-' && arg != "-"

def after? (start : List Char) (arg : String) : Option String :=
  if start.isPrefixOf arg.toList then some (String.ofList (arg.toList.drop start.length)) else none

/-- The one value among the arguments and the value of the one option that there may be. The option can stand anywhere,
its value after it or after an equals sign; after two dashes everything is a value. -/
def split (option : String) : Option String → Option String → List String → Option (String × Option String)
  | none, _, [] => none
  | some value, setting, [] => some (value, setting)
  | value, setting, arg :: rest =>
    if arg = "--" then
      match value, rest with
      | none, [value] => some (value, setting)
      | some value, [] => some (value, setting)
      | _, _ => none
    else if arg = option then
      match setting, rest with
      | none, next :: rest => if isOption next then none else split option value (some next) rest
      | _, _ => none
    else
      match after? (option.toList ++ ['=']) arg, setting with
      | some given, none => split option value (some given) rest
      | some _, some _ => none
      | none, _ =>
        if isOption arg then none
        else
          match value with
          | none => split option (some arg) setting rest
          | some _ => none

/-- A whole number of 64 bits, perhaps with a plus sign. -/
def limit? (text : String) : Option Nat :=
  let digits := match text.toList with
    | '+' :: digits => digits
    | digits => digits
  if digits.isEmpty || !digits.all (fun c => '0' ≤ c && c ≤ '9') then none
  else
    let n := digits.foldl (fun n c => 10 * n + (c.toNat - 48)) 0
    if n < UInt64.size then some n else none

def path? (text : String) : Option Path := if text = "" then none else some ⟨text⟩

def parse? : List String → Option Command
  | "inspect" :: args => do
    let (path, marker) ← split "--marker" none none args
    return .inspect (← path? path) (marker.getD ({} : Config).marker)
  | "dump" :: args => do
    let (path, limit) ← split "--limit" none none args
    match limit with
    | none => return .dump (← path? path) none
    | some text => return .dump (← path? path) (some (← limit? text))
  | _ => none

end Command

/-! ## Reports -/

/-- A failed command: what went wrong, the causes of that, outermost first, and the status of the program. -/
structure Failure where
  headline : String
  causes : List String
  status : Nat := 1
deriving DecidableEq, Repr

namespace Failure

def during (activity : String) (e : Error) : Failure := { headline := activity, causes := e.message :: e.causes }

/-- A failure by itself, which may be that the program has ended already. -/
def ofError (e : Error) : Failure :=
  { headline := e.message, causes := e.causes, status := if e = .table .halt then 101 else 1 }

def linesOf (text : String) : List String :=
  (text.toList.splitOn '\n').map String.ofList

/-- A cause, indented; several causes are numbered, and the lines of one cause stand below each other. -/
def causeText (numbered : Bool) (number : Nat) (cause : String) : String :=
  let start := if numbered then "    " ++ decimalText number ++ ": " else "    "
  let next := if numbered then "\n       " else "\n    "
  start ++ next.intercalate (linesOf cause)

def text (f : Failure) : String :=
  let numbered := decide (1 < f.causes.length)
  let causes := f.causes.zipIdx.map fun (cause, i) => "\n" ++ causeText numbered i cause
  "Error: " ++ f.headline ++ (if f.causes.isEmpty then "" else "\n\nCaused by:" ++ String.join causes) ++ "\n"

end Failure

structure Report where
  output : String
  failure : Option Failure := none
deriving DecidableEq, Repr

namespace Report

def lines (ls : List String) : Report := { output := String.join (ls.map (· ++ "\n")) }

def failed (f : Failure) : Report := { output := "", failure := some f }

/-- One report after another, unless the first one fails. -/
def andThen (r next : Report) : Report :=
  match r.failure with
  | some _ => r
  | none => { next with output := r.output ++ next.output }

/-- The status with which the program ends: two for wrong arguments, zero for success. -/
def status : Option Report → Nat
  | none => 2
  | some r => (r.failure.map Failure.status).getD 0

end Report

/-! ## Commands -/

namespace Command

def padRight (width : Nat) (s : String) : String := s ++ String.ofList (List.replicate (width - s.length) ' ')

/-- The line of a shard's size in bytes. A table is kept as a value and not as bytes, so the line shows a star. -/
def sizeLine : String := "bytes:      *"

def shardLines (path : Path) (shard : Shard) : List String :=
  ["file:       " ++ path.text,
    "kind:       " ++ shard.schema.kind.name,
    "rows:       " ++ decimalText shard.table.rowCount,
    "row groups: " ++ decimalText shard.table.groups.length,
    sizeLine] ++
  shard.table.createdBy.toList.map ("written by: " ++ ·) ++
  shard.schema.columns.map fun c => "  " ++ padRight 8 c.name ++ " " ++ c.type.name

def describe (fs : FileSystem) (path : Path) : Report :=
  match fs.openShard path with
  | .ok shard => .lines (shardLines path shard)
  | .error e => .failed (.during ("opening " ++ path.text) e)

def describeDirectory (fs : FileSystem) (path : Path) (marker : String) : Report :=
  match Listing.ofPath fs path marker .lexicographic with
  | .error e => .failed (.during ("listing " ++ path.text) e)
  | .ok l =>
    let head := Report.lines [
      "directory:  " ++ path.text,
      "marker:     " ++ (if l.hasMarker then marker else "(missing)"),
      "shards:     " ++ decimalText l.names.length]
    l.paths.foldl (fun r p => r.andThen ((Report.lines [""]).andThen (describe fs p))) head

def printRows (fs : FileSystem) (path : Path) (limit : Option Nat) : Report :=
  match fs.openShard path with
  | .error e => .failed (.during ("opening " ++ path.text) e)
  | .ok shard =>
    let head := Report.lines ["\t".intercalate (shard.schema.columns.map Column.name)]
    head.andThen <|
      match shard.formatRows (limit.getD (UInt64.size - 1)) with
      | .ok rows => .lines (rows.map ("\t".intercalate ·))
      | .error e => .failed (.ofError e)

def run (fs : FileSystem) : Command → Report
  | inspect path marker => if fs.isDirectory path then describeDirectory fs path marker else describe fs path
  | dump path limit => printRows fs path limit

end Command

end GraphDisk
