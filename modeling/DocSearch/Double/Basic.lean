/-
Double precision numbers, by their 64 bits: a sign above a magnitude. Zeros of
both signs, infinities and NaN are all there; `IsFinite` names the numbers
that have a decimal form. Equality of values is equality of bits, and `equals`
compares as numbers do, where NaN differs from itself and the zeros agree.
-/
import DocSearch.Double.Format

namespace DocSearch

/-- A double precision number. -/
structure Double where
  /-- The sign bit, the exponent field and the fraction field. -/
  bits : UInt64
  deriving DecidableEq

namespace Double

/-- The number without its sign. -/
def magnitude (x : Double) : Nat := x.bits.toNat % 0x8000000000000000

/-- Whether the sign bit is set. -/
def isNegative (x : Double) : Bool := 0x8000000000000000 ≤ x.bits.toNat

/-- The number with the given sign and magnitude. -/
def ofMagnitude (negative : Bool) (magnitude : Nat) : Double :=
  ⟨UInt64.ofNat (magnitude + if negative then 0x8000000000000000 else 0)⟩

/-- Neither infinite nor NaN. -/
def IsFinite (x : Double) : Prop := x.magnitude < BinaryFormat.double.infinity

instance (x : Double) : Decidable x.IsFinite :=
  inferInstanceAs (Decidable (x.magnitude < BinaryFormat.double.infinity))

/-- Not a number. -/
def isNaN (x : Double) : Bool := BinaryFormat.double.infinity < x.magnitude

/-- Zero of either sign. -/
def isZero (x : Double) : Bool := x.magnitude = 0

/-- The result of operations that have none. -/
def nan : Double := ⟨0x7FF8000000000000⟩

/-- Infinity with the given sign. -/
def infinite (negative : Bool) : Double := ofMagnitude negative BinaryFormat.double.infinity

/-- The number nearest to an integer. -/
def ofInt (n : Int) : Double :=
  ofMagnitude (n < 0) (BinaryFormat.double.nearest n.natAbs 1)

/-- Equality as numbers. -/
def equals (x y : Double) : Bool :=
  !x.isNaN && !y.isNaN && (x = y || (x.isZero && y.isZero))

end Double

/-- A double precision number that is neither infinite nor NaN. -/
abbrev FiniteDouble := { x : Double // x.IsFinite }

end DocSearch
