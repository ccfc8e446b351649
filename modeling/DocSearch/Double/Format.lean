/-
Binary interchange formats: a value is a significand times a power of two, kept
as a magnitude (exponent field above fraction field) beside a sign. `nearest`
rounds an exact quotient of natural numbers to a magnitude, to nearest and
ties to even, and a quotient beyond the largest finite value to infinity.
Every operation on magnitudes is that rounding of an exact result.
-/

namespace DocSearch

/-- A binary format, by the widths of its two fields. -/
structure BinaryFormat where
  fractionBits : Nat
  exponentBits : Nat

namespace BinaryFormat

/-- The format with 64 bits. -/
def double : BinaryFormat := ⟨52, 11⟩

/-- The format with 32 bits. -/
def single : BinaryFormat := ⟨23, 8⟩

/-- The number of fractions, which is the weight of one in the exponent field. -/
def fractions (f : BinaryFormat) : Nat := Nat.pow 2 f.fractionBits

/-- The exponent of the last place of the smallest magnitudes. -/
def leastExponent (f : BinaryFormat) : Int :=
  2 - (Nat.pow 2 (f.exponentBits - 1) : Nat) - f.fractionBits

/-- The magnitude of infinity. Finite magnitudes lie below it and those of NaN above. -/
def infinity (f : BinaryFormat) : Nat := (Nat.pow 2 f.exponentBits - 1) * f.fractions

/-- The significand of a finite magnitude. -/
def significand (f : BinaryFormat) (magnitude : Nat) : Nat :=
  if magnitude / f.fractions = 0 then magnitude
  else f.fractions + magnitude % f.fractions

/-- The exponent of the last place of a finite magnitude. -/
def exponent (f : BinaryFormat) (magnitude : Nat) : Int :=
  f.leastExponent + (magnitude / f.fractions - 1 : Nat)

/-- Whether the gap below a finite magnitude is half the gap above it, as at a power of two. -/
def isNarrowBelow (f : BinaryFormat) (magnitude : Nat) : Bool :=
  magnitude % f.fractions = 0 && 1 < magnitude / f.fractions

/-- The quotient rounded to an integer, to nearest and ties to even. -/
def roundQuotient (num den : Nat) : Nat :=
  let q := num / den
  match compare (2 * (num % den)) den with
  | .lt => q
  | .gt => q + 1
  | .eq => q + q % 2

/-- The greatest `e` with 2 to the power `e` at most `num / den`, for positive `num` and `den`. -/
def floorLog2 (num den : Nat) : Int :=
  let e : Int := (num.log2 : Int) - den.log2
  if num * Nat.pow 2 (-e).toNat < den * Nat.pow 2 e.toNat then e - 1 else e

/-- The magnitude nearest to `num / den`. -/
def nearest (f : BinaryFormat) (num den : Nat) : Nat :=
  if num = 0 then 0
  else
    let q := max (floorLog2 num den - f.fractionBits) f.leastExponent
    let m := roundQuotient (num * Nat.pow 2 (-q).toNat) (den * Nat.pow 2 q.toNat)
    min ((q - f.leastExponent).toNat * f.fractions + m) f.infinity

/-- The magnitude nearest to `m` times 2 to the power `q`. -/
def nearestScaled (f : BinaryFormat) (m : Nat) (q : Int) : Nat :=
  f.nearest (m * Nat.pow 2 q.toNat) (Nat.pow 2 (-q).toNat)

/-- The rounded product of two finite magnitudes. -/
def mul (f : BinaryFormat) (a b : Nat) : Nat :=
  f.nearestScaled (f.significand a * f.significand b) (f.exponent a + f.exponent b)

/-- The rounded quotient of two finite magnitudes, the second one not zero. -/
def div (f : BinaryFormat) (a b : Nat) : Nat :=
  let q := f.exponent a - f.exponent b
  f.nearest (f.significand a * Nat.pow 2 q.toNat) (f.significand b * Nat.pow 2 (-q).toNat)

example : double.nearest 1 1 = 0x3FF0000000000000 := by decide +kernel

example : double.nearest 1 10 = 0x3FB999999999999A := by decide +kernel

end BinaryFormat

end DocSearch
