import GraphDisk.FileSystem.Fault
import GraphDisk.FileSystem.Tree

/-!
# What a path leads to

`FileSystem.walk` follows the steps of a path from a directory. It ends at a node, or at a name that is still free in a
directory that exists; every other path leads nowhere. Links on the way are followed, and so is a link at the end if
the caller wants that. After forty links the walk is given up. The directory above the top directory is the top
directory itself.
-/

namespace GraphDisk

/-- Where a path leads. -/
inductive Target where
  | found (location : Location) (node : Node)
  /-- To a name that no entry of a directory has. -/
  | free (directory : Location) (name : String)

def maxNameSize : Nat := 255

def maxPathSize : Nat := 4095

/-- The greatest number of links that are followed on the way. -/
def maxLinks : Nat := 40

namespace Path

/-- Whether a path can be handed to the file system at all. -/
def check (p : Path) : Except IoFault Unit :=
  if p.text.toList.contains '\x00' then .error .nulInPath
  else if p.text = "" then .error .notFound
  else if maxPathSize < p.text.utf8ByteSize then .error .nameTooLong
  else .ok ()

/-- The steps on the way to something that is there. A slash at the end asks for a directory; it is an empty step. -/
def lookupSteps (p : Path) : List String := if p.endsInSlash then p.steps ++ [""] else p.steps

end Path

namespace FileSystem

/-- What a walk is for. -/
inductive Purpose where
  /-- To find what is there, with a link at the end or without. -/
  | look (follow : Bool)
  /-- To write a file: a link at the end is followed, and a name with a slash after it cannot be a file's. -/
  | write
deriving DecidableEq, Repr

def Purpose.follows : Purpose → Bool
  | look follow => follow
  | write => true

/-- Goes on from a directory until the steps are used up or a link has to be followed; `onLink` is told the directory of
the link, its target, and the steps after it. -/
def advance (fs : FileSystem) (purpose : Purpose) (onLink : Location → Path → List String → Except IoFault Target) :
    Location → List String → Except IoFault Target
  | here, [] => .ok (.found here (.directory (fs.entriesAt here)))
  | here, name :: rest =>
    if name = "." ∨ name = "" then advance fs purpose onLink here rest
    else if name = ".." then advance fs purpose onLink here.dropLast rest
    -- a slash after the name of a file that is to be written
    else if purpose = .write ∧ rest = [""] then .error .isDirectory
    else if maxNameSize < name.utf8ByteSize then .error .nameTooLong
    else
      match fs.node? (here ++ [name]) with
      | some (.directory _) => advance fs purpose onLink (here ++ [name]) rest
      | some (.link target) =>
        if rest = [] ∧ purpose.follows = false then
          .ok (.found (here ++ [name]) (.link target))
        else
          onLink here target rest
      | some (.file content) =>
        if rest = [] then .ok (.found (here ++ [name]) (.file content)) else .error .notDirectory
      | none => if rest = [] then .ok (.free here name) else .error .notFound

/-- Goes on from a directory, with at most the given number of links. -/
def walk (fs : FileSystem) (purpose : Purpose) : Nat → Location → List String → Except IoFault Target
  | 0 => fs.advance purpose fun _ _ _ => .error .tooManyLinks
  | links + 1 => fs.advance purpose fun here target rest =>
    walk fs purpose links (if target.isAbsolute then [] else here) (target.lookupSteps ++ rest)

def start (fs : FileSystem) (p : Path) : Except IoFault Location :=
  if p.isAbsolute then .ok []
  else match fs.node? fs.working with
    | some (.directory _) => .ok fs.working
    | _ => .error .notFound

/-- Where a path leads; a link at the end is followed iff `follow`. -/
def lookup (fs : FileSystem) (follow : Bool) (p : Path) : Except IoFault Target := do
  p.check
  fs.walk (.look follow) maxLinks (← fs.start p) p.lookupSteps

/-- Where a path leads when an entry is to be made or moved there: a slash at the end does not count, and a link at the
end is not followed. -/
def place (fs : FileSystem) (p : Path) : Except IoFault Target := do
  p.check
  fs.walk (.look false) maxLinks (← fs.start p) p.steps

def placeFile (fs : FileSystem) (p : Path) : Except IoFault Target := do
  p.check
  fs.walk .write maxLinks (← fs.start p) p.lookupSteps

end FileSystem

end GraphDisk
