import GraphDisk.Double

/-!
# The shortest decimal that reads back

Every decimal in the rounding interval of a number reads back as that number. `shortest` tries the grids of one,
two, … seventeen significant digits; on each it looks at the two grid points around the number and takes the first
grid with a point in the interval, on that grid the nearer point. All comparisons are between natural numbers.
-/

namespace GraphDisk

/-- A decimal number `coefficient * 10 ^ scale`. -/
structure Decimal where
  coefficient : Nat
  scale : Int
deriving DecidableEq, Repr

namespace Decimal

/-- Which of two equally near decimals is taken. -/
inductive Tie where
  | away
  | even
deriving DecidableEq, Repr

def digits (d : Decimal) : List Char := Nat.toDigits 10 d.coefficient

/-- The power of ten of the first digit. -/
def leading (d : Decimal) : Int := d.scale + d.digits.length - 1

/-- The same value without trailing zeros in the coefficient; seventeen steps are enough for a double. -/
def trim (d : Decimal) : Decimal := go 17 d
where
  go : Nat → Decimal → Decimal
    | 0, d => d
    | n + 1, d => if d.coefficient % 10 = 0 ∧ d.coefficient ≠ 0 then go n ⟨d.coefficient / 10, d.scale + 1⟩ else d

/-- `2 ^ binary / 10 ^ decimal` as a quotient of natural numbers. -/
def quotient (binary decimal : Int) : Nat × Nat :=
  (Nat.pow 2 binary.toNat * Nat.pow 10 (-decimal).toNat, Nat.pow 2 (-binary).toNat * Nat.pow 10 decimal.toNat)

/-- The power of ten of the first digit of `n * 2 ^ e`, for `n > 0`: an estimate from the binary length, which is off
by at most one, and its correction. -/
def leadingOf (n : Nat) (e : Int) : Int :=
  let guess := ((n.log2 + e) * 30103).fdiv 100000
  let reaches (p : Int) : Bool := let (a, b) := quotient e p; b ≤ n * a
  if reaches (guess + 1) then guess + 1 else if reaches guess then guess else guess - 1

/-- The point of the grid `10 ^ scale` that lies in the rounding interval of `n * 2 ^ e` and is nearest to it, if one
of the two neighbours does. Quarters of the last bit are the unit; the ends belong to the interval iff `n` is even. -/
def onGrid? (tie : Tie) (n : Nat) (e : Int) (atBinade : Bool) (scale : Int) : Option Nat :=
  let (a, b) := quotient (e - 2) scale
  let value := 4 * n * a
  let low := (4 * n - if atBinade then 1 else 2) * a
  let high := (4 * n + 2) * a
  let below := value / b
  let fits (c : Nat) : Bool := if n % 2 = 0 then low ≤ c * b && c * b ≤ high else low < c * b && c * b < high
  match fits below, fits (below + 1) with
  | false, false => none
  | true, false => some below
  | false, true => some (below + 1)
  | true, true =>
    let down := value - below * b
    let up := (below + 1) * b - value
    if down < up then some below
    else if up < down then some (below + 1)
    else match tie with
      | .away => some (below + 1)
      | .even => some (if below % 2 = 0 then below else below + 1)

/-- The shortest decimal that reads back as `n * 2 ^ e`, the nearest of those; zero is `0`. -/
def shortest (tie : Tie) (n : Nat) (e : Int) (atBinade : Bool) : Decimal :=
  if n = 0 then ⟨0, 0⟩
  else
    let first := leadingOf n e
    let found := (List.range 17).findSome? fun (k : Nat) =>
      (onGrid? tie n e atBinade (first - k)).map fun c => (⟨c, first - k⟩ : Decimal)
    -- seventeen digits are enough for every double, so something is found
    (found.getD ⟨n, e⟩).trim

end Decimal

end GraphDisk
