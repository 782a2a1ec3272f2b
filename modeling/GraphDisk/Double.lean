/-!
# Double-precision numbers as bit patterns

Values are kept bit for bit through every shard, so a number is its 64 bits and nothing else: two not-a-numbers with
different payloads are different, and so are the two zeros. `Double.magnitude` reads the bits as an exact number
`coefficient * 2 ^ exponent`; the text forms in `GraphDisk.Decimal` start from it.
-/

namespace GraphDisk

/-- A double-precision number, as its bits. -/
structure Double where
  /-- The sign bit, eleven bits of exponent and fifty-two of fraction, from the top. -/
  bits : UInt64
deriving DecidableEq, Repr

namespace Double

/-- Positive zero, the value of an attribute slot that was never written. -/
def zero : Double := ⟨0⟩

instance : Inhabited Double := ⟨zero⟩

def isNegative (x : Double) : Bool := x.bits >>> 63 == 1

def biasedExponent (x : Double) : Nat := ((x.bits >>> 52) &&& 0x7ff).toNat

def fraction (x : Double) : Nat := (x.bits &&& 0xfffffffffffff).toNat

/-- The size of a number without its sign. -/
inductive Magnitude where
  /-- The exact value `coefficient * 2 ^ exponent`. -/
  | finite (coefficient : Nat) (exponent : Int)
  | infinite
  | notANumber
deriving DecidableEq, Repr

/-- The size that the bits stand for; subnormal numbers share the exponent of the smallest normal ones. -/
def magnitude (x : Double) : Magnitude :=
  if x.biasedExponent = 0x7ff then
    if x.fraction = 0 then .infinite else .notANumber
  else if x.biasedExponent = 0 then .finite x.fraction (-1074)
  else .finite (0x10000000000000 + x.fraction) ((x.biasedExponent : Int) - 1075)

/-- Whether the next number towards zero is only half as far away as the next one outwards: powers of two, unless the
exponent is already the smallest. -/
def atBinade (x : Double) : Bool := x.fraction == 0 && decide (1 < x.biasedExponent)

def ofFloat (x : Float) : Double := ⟨x.toBits⟩

def negate (x : Double) : Double := ⟨x.bits ^^^ 0x8000000000000000⟩

end Double

end GraphDisk
