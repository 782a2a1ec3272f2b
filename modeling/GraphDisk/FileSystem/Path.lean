/-!
# Paths as texts

A path is a text; nothing about it is looked up here. `join` puts a path under another, `parent?` takes the last
component away. What a path leads to is the business of `GraphDisk.FileSystem.Walk`.
-/

namespace GraphDisk

/-- A path, absolute if it begins with a slash and relative to the working directory if not. -/
structure Path where
  text : String
deriving DecidableEq, Repr

namespace Path

def isAbsolute (p : Path) : Bool := p.text.toList.head? == some '/'

def endsInSlash (p : Path) : Bool := p.text.toList.getLast? == some '/'

/-- A path under another: one slash is put between the two unless there is one already or nothing to separate. A second
path that is absolute stands alone. -/
def join (p q : Path) : Path :=
  if q.isAbsolute then q
  else if p.text = "" ∨ p.endsInSlash then ⟨p.text ++ q.text⟩
  else ⟨p.text ++ "/" ++ q.text⟩

def entry (p : Path) (name : String) : Path := p.join ⟨name⟩

def pieces : List Char → List (List Char)
  | [] => [[]]
  | c :: cs =>
    if c = '/' then [] :: pieces cs
    else match pieces cs with
      | [] => [[c]]
      | p :: ps => (c :: p) :: ps

/-- The pieces between slashes, empty ones left out. -/
def steps (p : Path) : List String := ((pieces p.text.toList).filter (· ≠ [])).map String.ofList

/-- The pieces that name something: a `.` counts only at the very beginning of a relative path. -/
def components (p : Path) : List String :=
  match p.steps with
  | [] => []
  | s :: rest => if s = "." ∧ p.isAbsolute then rest.filter (· ≠ ".") else s :: rest.filter (· ≠ ".")

def ofComponents (absolute : Bool) (components : List String) : Path :=
  ⟨(if absolute then "/" else "") ++ "/".intercalate components⟩

/-- The path without its last component; a path without components has no parent. -/
def parent? (p : Path) : Option Path :=
  match p.components with
  | [] => none
  | c :: cs => some (ofComponents p.isAbsolute (c :: cs).dropLast)

end Path

end GraphDisk
