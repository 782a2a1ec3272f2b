import GraphDisk.Decimal.Shortest

/-!
# How doubles are written

The digits come from `Decimal.shortest`; a `Layout` fixes the rest: which numbers are written positionally, how an
exponent is marked, and where a tie between two shortest decimals goes. Three outputs of the library use three layouts.
-/

namespace GraphDisk

/-- The decisions of one text form of doubles. -/
structure Layout where
  /-- Where a number halfway between two shortest decimals goes. -/
  tie : Decimal.Tie
  /-- The least power of ten of a first digit that is written positionally. -/
  lowest : Int
  /-- The greatest power of ten of a first digit that is written positionally. -/
  highest : Int
  mark : Char
  plus : List Char

namespace Layout

/-- Numbers inside messages: positional from `0.0001` up to, and without, `10 ^ 16`. -/
def message : Layout := ⟨.away, -4, 15, 'e', []⟩

/-- Numbers of JSON texts: positional from `0.00001` up to, and without, `10 ^ 16`. -/
def json : Layout := ⟨.even, -5, 15, 'e', ['+']⟩

/-- Numbers of row listings that are written positionally. -/
def plain : Layout := ⟨.away, -15, 19, 'E', []⟩

/-- All other numbers of row listings: never positional, not even zero. -/
def scientific : Layout := ⟨.away, 1, 0, 'E', []⟩

/-- Digits around a point, at least one on each side. -/
def positional (d : Decimal) : List Char :=
  let digits := d.digits
  let leading := d.leading
  if leading < 0 then '0' :: '.' :: List.replicate (-leading - 1).toNat '0' ++ digits
  else
    let whole := leading.toNat + 1
    if digits.length ≤ whole then digits ++ List.replicate (whole - digits.length) '0' ++ ['.', '0']
    else digits.take whole ++ '.' :: digits.drop whole

def withExponent (l : Layout) (d : Decimal) : List Char :=
  let sign := if d.leading < 0 then ['-'] else l.plus
  let exponent := l.mark :: sign ++ Nat.toDigits 10 d.leading.natAbs
  match d.digits with
  | [] => exponent
  | [c] => c :: exponent
  | c :: rest => c :: '.' :: rest ++ exponent

def ofDecimal (l : Layout) (d : Decimal) : List Char :=
  if l.lowest ≤ d.leading ∧ d.leading ≤ l.highest then positional d else l.withExponent d

def text (l : Layout) (x : Double) : String :=
  let sign := if x.isNegative then "-" else ""
  match x.magnitude with
  | .notANumber => "NaN"
  | .infinite => sign ++ "inf"
  | .finite n e => sign ++ String.ofList (l.ofDecimal (Decimal.shortest l.tie n e x.atBinade))

end Layout

namespace Double

/-- The least number that row listings write positionally, `10 ^ -15`. -/
def leastPlain : Double := ⟨0x3cd203af9ee75616⟩

/-- The greatest number that row listings write positionally, `10 ^ 19`. -/
def greatestPlain : Double := ⟨0x43e158e460913d00⟩

/-- The text of a number in a row listing. Positive numbers are ordered as their bits. -/
def rowText (x : Double) : String :=
  if leastPlain.bits ≤ x.bits ∧ x.bits ≤ greatestPlain.bits then Layout.plain.text x else Layout.scientific.text x

end Double

end GraphDisk
