import GraphDisk.CommandLine
import GraphDisk.Snapshot

/-!
# The program

The arguments are a command; the file system that it looks at is read as a snapshot from standard input.
-/

namespace GraphDisk

/-- All that is left of a stream, line by line. -/
partial def readAll (stream : IO.FS.Stream) (before : String) : IO String := do
  let line ← stream.getLine
  if line.isEmpty then return before else readAll stream (before ++ line)

def usage : String := "usage: inspect <path> [--marker <name>] | dump <path> [--limit <number>]"

end GraphDisk

open GraphDisk in
def main (args : List String) : IO UInt32 := do
  match Command.parse? args with
  | none =>
    IO.eprintln usage
    return (Report.status none).toUInt32
  | some command =>
    match Snapshot.parse? (← readAll (← IO.getStdin) "") with
    | none =>
      IO.eprintln "standard input is not a snapshot"
      return 1
    | some files =>
      let report := command.run files
      IO.print report.output
      if let some failure := report.failure then IO.eprint failure.text
      return (Report.status (some report)).toUInt32
