/-
Reading decimals in rounded steps. The significand keeps the leading digits
that fit 64 bits; it is rounded first and then scaled by a power of ten that is
itself rounded, so the last place may differ from the nearest number. A scale
beyond 10 to the power 308 goes up to infinity, which is refused, or down in
several steps.
-/
import DocSearch.Double.Basic
import DocSearch.Text.Numeral

namespace DocSearch.Double

/-- The largest power of ten that is used in one step. -/
def maxPower : Nat := 308

/-- The magnitude of a power of ten. -/
def powerOfTen (e : Nat) : Nat := BinaryFormat.double.nearest (Nat.pow 10 e) 1

/-- Extends a significand by the digits that keep it within 64 bits, and counts them. -/
def keepDigits (significand : Nat) : List Char → Nat × Nat
  | [] => (significand, 0)
  | c :: cs =>
    let next := 10 * significand + Text.Numeral.digitValue c
    if next < 0x10000000000000000 then
      let (kept, count) := keepDigits next cs
      (kept, count + 1)
    else (significand, 0)

/-- Scales a magnitude down by a power of ten, in steps of at most `maxPower`. -/
def scaleDown (magnitude e : Nat) : Nat :=
  if e ≤ maxPower then BinaryFormat.double.div magnitude (powerOfTen e)
  else if magnitude = 0 then 0
  else scaleDown (BinaryFormat.double.div magnitude (powerOfTen maxPower)) (e - maxPower)
  termination_by e
  decreasing_by simp only [maxPower] at *; omega

/-- Scales a magnitude by a power of ten. -/
def scaleByTen (magnitude : Nat) : Int → Nat
  | .ofNat e =>
    if e ≤ maxPower then BinaryFormat.double.mul magnitude (powerOfTen e)
    else if magnitude = 0 then 0 else BinaryFormat.double.infinity
  | .negSucc e => scaleDown magnitude (e + 1)

/-- The number written with the given digits before and after the point, scaled by a power of
ten, if it is finite. -/
def ofDigits? (negative : Bool) (whole fraction : List Char) (exponent : Int) :
    Option FiniteDouble :=
  let (significand, inWhole) := keepDigits 0 whole
  let (significand, inFraction) := keepDigits significand fraction
  let exponent := exponent + (whole.length - inWhole : Nat) - inFraction
  let x := ofMagnitude negative
    (scaleByTen (BinaryFormat.double.nearest significand 1) exponent)
  if h : x.IsFinite then some ⟨x, h⟩ else none

example : (ofDigits? false ['0'] ['1'] 0).map (·.val.bits) = some 0x3FB999999999999A := by
  decide +kernel

end DocSearch.Double
