import GraphDisk.Double
import GraphDisk.Json.Document

/-!
# JSON values that are kept

A kept value is what a document means: whole numbers of 64 bits stay exact and all others become doubles, the last of
several members of one name counts, and the members of an object are in the order of their names. Not every document
has a value: a number may be too large for a double, a text may hold half a surrogate pair, and containers may be
nested too deeply.
-/

namespace GraphDisk.Json

inductive Number where
  | natural (n : UInt64)
  | negative (n : Int64)
  | double (x : Double)
deriving DecidableEq

/-- A JSON value. The members of an object ascend by name. -/
inductive Value where
  | null
  | bool (b : Bool)
  | number (n : Number)
  | string (s : String)
  | array (items : List Value)
  | object (members : List (String × Value))

/-! ## Numbers -/

namespace Numeral

/-- Whole digits as far as their value fits 64 bits, and how many digits are left: each of those counts as a zero. -/
def takeWhole (n : Nat) : List Nat → Nat × Nat
  | [] => (n, 0)
  | d :: ds => if 10 * n + d < UInt64.size then takeWhole (10 * n + d) ds else (n, ds.length + 1)

/-- Digits after the point as far as their value fits 64 bits, and how many were taken: the others are dropped. -/
def takeFraction (n : Nat) : List Nat → Nat × Nat
  | [] => (n, 0)
  | d :: ds =>
    if 10 * n + d < UInt64.size then
      let (m, taken) := takeFraction (10 * n + d) ds
      (m, taken + 1)
    else (n, 0)

/-- The significand of at most 64 bits and the power of ten that goes with it. -/
def parts (n : Numeral) : Nat × Int :=
  let (w, dropped) := takeWhole 0 n.whole
  let (significand, taken) := takeFraction w n.fraction
  let exponent : Int := match n.exponent with
    | none => 0
    | some (false, ds) => valueOf ds
    | some (true, ds) => -(valueOf ds : Int)
  (significand, dropped - taken + exponent)

def powerOfTen (k : Nat) : Float := Float.ofScientific 1 false k

/-- Divides by a power of ten, in steps of `10 ^ 308`, until nothing is left. -/
def divide (x : Float) (k : Nat) : Float :=
  if k ≤ 308 then x / powerOfTen k
  else if x == 0 then x
  else divide (x / powerOfTen 308) (k - 308)
termination_by k

/-- Multiplies by a power of ten. A product out of range is no number. -/
def multiply? (x : Float) (k : Nat) : Option Float :=
  if k ≤ 308 then
    let y := x * powerOfTen k
    if y.isInf then none else some y
  else if x == 0 then some x
  else none

/-- The double that a number stands for: the significand, rounded, times its power of ten, rounded again. -/
def double? (n : Numeral) : Option Double := do
  let (significand, exponent) := n.parts
  let x := significand.toUInt64.toFloat
  let y ← if 0 ≤ exponent then multiply? x exponent.toNat else some (divide x (-exponent).toNat)
  let size := Double.ofFloat y
  return if n.negative then size.negate else size

/-- The number that a spelling stands for. Whole numbers stay whole if they fit; minus zero is a double. -/
def number? (n : Numeral) : Option Number :=
  let size := valueOf n.whole
  if n.isInteger ∧ ¬n.negative ∧ size < UInt64.size then some (.natural size.toUInt64)
  else if n.isInteger ∧ n.negative ∧ 0 < size ∧ Int64.minValue.toInt ≤ -size then some (.negative (Int64.ofInt (-size)))
  else n.double?.map .double

end Numeral

/-! ## Values -/

/-- Puts a member into an object; a member of the same name is replaced. -/
def insertMember (key : String) (v : Value) : List (String × Value) → List (String × Value)
  | [] => [(key, v)]
  | (k, w) :: rest =>
    if key < k then (key, v) :: (k, w) :: rest
    else if key = k then (key, v) :: rest
    else (k, w) :: insertMember key v rest

/-- How many containers may be nested in a kept value. -/
def maxDepth : Nat := 127

namespace Document

mutual

/-- The value of a document in which at most the given number of containers may be nested. -/
def value? : Nat → Document → Option Value
  | _, .null => some .null
  | _, .bool b => some (.bool b)
  | _, .number n => n.number?.map .number
  | _, .string s => s.map .string
  | 0, .array _ => none
  | depth + 1, .array ds => (values? depth ds).map .array
  | 0, .object _ => none
  | depth + 1, .object ms => (members? depth [] ms).map .object

def values? : Nat → List Document → Option (List Value)
  | _, [] => some []
  | depth, d :: ds => do return (← value? depth d) :: (← values? depth ds)

def members? : Nat → List (String × Value) → List (Spelling × Document) → Option (List (String × Value))
  | _, done, [] => some done
  | depth, done, (key, d) :: ms => do members? depth (insertMember (← key) (← value? depth d) done) ms

end

end Document

end GraphDisk.Json
