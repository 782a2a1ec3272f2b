/-!
# Guids

A guid is the name its caller gave an entity. Guids are ordered by the bytes of their text; since UTF-8 keeps the order
of code points, that is the order of the texts as sequences of characters. A guid that is to name a directory entry
must not be one of the names that have a meaning of their own, and must not hold a separator.
-/

namespace GraphDisk

/-- The name of an entity, chosen by the caller. -/
structure Guid where
  text : String
deriving DecidableEq, Repr

namespace Guid

instance : Ord Guid := ⟨fun a b => compare a.text b.text⟩

theorem compare_def (a b : Guid) : compare a b = compare a.text b.text := rfl

instance : Std.TransOrd Guid where
  eq_swap {a b} := by simpa only [compare_def] using Std.OrientedCmp.eq_swap
  isLE_trans {a b c} := by simpa only [compare_def] using Std.TransCmp.isLE_trans

instance : Std.LawfulEqOrd Guid where
  compare_self {a} := by simpa only [compare_def] using Std.ReflCmp.compare_self
  eq_of_compare {a b} h := by
    have h : a.text = b.text := Std.LawfulEqCmp.eq_of_compare (by simpa only [compare_def] using h)
    cases a; cases b; exact congrArg Guid.mk h

/-- The guid that stands for no guid in messages. -/
def unset : Guid := ⟨""⟩

def isUnset (g : Guid) : Bool := g.text.isEmpty

inductive Fault where
  /-- The text is empty, `.` or `..`. -/
  | reserved (text : String)
  /-- The text holds a slash, a backslash or a NUL. -/
  | separator (text : String)
  | described (text : String)
deriving DecidableEq, Repr

def isSeparator (c : Char) : Bool := c == '/' || c == '\\' || c == '\x00'

def fault? (g : Guid) : Option Fault :=
  if g.text = "" ∨ g.text = "." ∨ g.text = ".." then some (.reserved g.text)
  else if g.text.toList.any isSeparator then some (.separator g.text)
  else none

end Guid

end GraphDisk
