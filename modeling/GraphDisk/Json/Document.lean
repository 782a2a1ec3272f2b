/-!
# JSON texts as trees

A `Document` is a JSON text after reading and before anyone has asked what it means. It keeps what a later decision
can depend on: the members of an object in order, repeated ones included, and a number as it was spelt. A text that
spells half of a surrogate pair cannot become a string, but is no mistake where it is ignored; it is held as a text
without a value.
-/

namespace GraphDisk.Json

/-- A number as it was spelt: sign, digits before and after the point, and the exponent. -/
structure Numeral where
  negative : Bool
  whole : List Nat
  fraction : List Nat
  /-- The sign of the exponent (`true` for a minus) and its digits, if there is one. -/
  exponent : Option (Bool × List Nat)
deriving DecidableEq, Repr

namespace Numeral

def isInteger (n : Numeral) : Bool := n.fraction.isEmpty && n.exponent.isNone

def valueOf (digits : List Nat) : Nat := digits.foldl (fun n d => 10 * n + d) 0

end Numeral

/-- The text between quotes, or `none` if it spells half of a surrogate pair. -/
abbrev Spelling := Option String

inductive Document where
  | null
  | bool (b : Bool)
  | number (n : Numeral)
  | string (s : Spelling)
  | array (items : List Document)
  | object (members : List (Spelling × Document))

end GraphDisk.Json
