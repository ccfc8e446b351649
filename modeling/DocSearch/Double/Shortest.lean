/-
Shortest decimals. Of the decimals that round to a finite magnitude, `shortest`
takes one with the fewest digits and of those the nearest; `Tie` says which of
two equally near ones. The grids of 1, 2, … digits are tried in turn, in exact
arithmetic: the first one with a decimal that reads back wins.
-/
import DocSearch.Double.Format
import DocSearch.Text.Numeral

namespace DocSearch

/-- A decimal number: `digits` times 10 to the power `exponent`. -/
structure Decimal where
  digits : Nat
  exponent : Int
  deriving DecidableEq

/-- Which of two equally near decimals is taken. -/
inductive Tie where
  /-- The one with the even last digit. -/
  | toEven
  /-- The larger one. -/
  | up
  deriving DecidableEq

namespace Decimal

/-- Compares a decimal with `m` times 2 to the power `q`. -/
def compareScaled (d : Decimal) (m : Nat) (q : Int) : Ordering :=
  compare (d.digits * Nat.pow 10 d.exponent.toNat * Nat.pow 2 (-q).toNat)
    (m * Nat.pow 2 q.toNat * Nat.pow 10 (-d.exponent).toNat)

/-- Whether the decimal rounds to the magnitude: it lies between the midpoints to the two
neighbours, which count when the significand is even. -/
def readsBack (f : BinaryFormat) (magnitude : Nat) (d : Decimal) : Bool :=
  let m := f.significand magnitude
  let q := f.exponent magnitude - 2
  let low := compareScaled d (if f.isNarrowBelow magnitude then 4 * m - 1 else 4 * m - 2) q
  let high := compareScaled d (4 * m + 2) q
  let closed := m % 2 = 0
  (low = .gt || (closed && low = .eq)) && (high = .lt || (closed && high = .eq))

/-- The number of decimal digits, none for zero. -/
def digitCount (n : Nat) : Nat := if n = 0 then 0 else (Text.Numeral.digits n).length

/-- The least `k` with `num / den` below 10 to the power `k`, for positive `num` and `den`. -/
def scale (num den : Nat) : Int :=
  if den ≤ num then digitCount (num / den) else 1 - digitCount ((den - 1) / num)

/-- The better of the two neighbours of `num / den` on the grid of 10 to the power `e`, among
those that read back. -/
def onGrid? (f : BinaryFormat) (tie : Tie) (magnitude num den : Nat) (e : Int) : Option Decimal :=
  let gridNum := num * Nat.pow 10 (-e).toNat
  let gridDen := den * Nat.pow 10 e.toNat
  let q := gridNum / gridDen
  let low : Decimal := ⟨q, e⟩
  let high : Decimal := ⟨q + 1, e⟩
  match readsBack f magnitude low, readsBack f magnitude high with
  | true, true =>
    match compare (2 * gridNum) ((2 * q + 1) * gridDen), tie with
    | .lt, _ => some low
    | .gt, _ => some high
    | .eq, .toEven => if q % 2 = 0 then some low else some high
    | .eq, .up => some high
  | true, false => some low
  | false, true => some high
  | false, false => none

/-- Moves trailing zeros of the digits into the exponent; `fuel` bounds how many. -/
def stripZeros : Nat → Decimal → Decimal
  | 0, d => d
  | fuel + 1, d =>
    if d.digits % 10 = 0 then stripZeros fuel ⟨d.digits / 10, d.exponent + 1⟩ else d

/-- The most digits a grid is tried with; seventeen suffice for 64 bits. -/
def maxDigits : Nat := 17

/-- The shortest decimal that rounds to a finite magnitude. Zero is written with one digit. -/
def shortest (f : BinaryFormat) (tie : Tie) (magnitude : Nat) : Decimal :=
  if magnitude = 0 then ⟨0, 0⟩
  else
    let m := f.significand magnitude
    let q := f.exponent magnitude
    let num := m * Nat.pow 2 q.toNat
    let den := Nat.pow 2 (-q).toNat
    let k := scale num den
    let found := (List.range maxDigits).findSome? fun n =>
      onGrid? f tie magnitude num den (k - (n + 1 : Nat))
    stripZeros maxDigits (found.getD ⟨m * Nat.pow 2 q.toNat * Nat.pow 5 (-q).toNat, min q 0⟩)

/-- The magnitude nearest to a decimal. -/
def nearest (f : BinaryFormat) (d : Decimal) : Nat :=
  f.nearest (d.digits * Nat.pow 10 d.exponent.toNat) (Nat.pow 10 (-d.exponent).toNat)

example : shortest .double .toEven 0x3FB999999999999A = ⟨1, -1⟩ := by decide +kernel

example : shortest .double .toEven 1 = ⟨5, -324⟩ := by decide +kernel

end Decimal

end DocSearch
