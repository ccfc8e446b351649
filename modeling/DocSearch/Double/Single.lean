/-
Single precision numbers, and their way into double precision: through their
own shortest decimal, so that the digits a person wrote are kept.
-/
import DocSearch.Double.Basic
import DocSearch.Double.Shortest

namespace DocSearch

/-- A single precision number, by its 32 bits. -/
structure Single where
  /-- The sign bit, the exponent field and the fraction field. -/
  bits : UInt32
  deriving DecidableEq

namespace Single

/-- The number without its sign. -/
def magnitude (x : Single) : Nat := x.bits.toNat % 0x80000000

/-- Whether the sign bit is set. -/
def isNegative (x : Single) : Bool := 0x80000000 ≤ x.bits.toNat

/-- The number with the given sign and magnitude. -/
def ofMagnitude (negative : Bool) (magnitude : Nat) : Single :=
  ⟨UInt32.ofNat (magnitude + if negative then 0x80000000 else 0)⟩

/-- The single precision number nearest to a double precision one. -/
def ofDouble (x : Double) : Single :=
  if x.isNaN then ⟨0x7FC00000⟩
  else if x.IsFinite then
    ofMagnitude x.isNegative (BinaryFormat.single.nearestScaled
      (BinaryFormat.double.significand x.magnitude) (BinaryFormat.double.exponent x.magnitude))
  else ofMagnitude x.isNegative BinaryFormat.single.infinity

/-- The double precision number nearest to the shortest decimal of a single precision one. -/
def widen (x : Single) : Double :=
  if BinaryFormat.single.infinity < x.magnitude then .nan
  else if x.magnitude = BinaryFormat.single.infinity then .infinite x.isNegative
  else .ofMagnitude x.isNegative
    ((Decimal.shortest .single .up x.magnitude).nearest .double)

end Single

end DocSearch
