/-
Integers as doubles. An integer that a JSON number holds has at most 64 bits, so the double nearest
to it is far below infinity (`nearest_lt_infinity`): the last place of its significand is worth 2 to
the power 11 at most. So every JSON number is a finite double.
-/
import DocSearch.Json.Number

namespace DocSearch

namespace BinaryFormat

theorem roundQuotient_le (num den : Nat) : roundQuotient num den ≤ num / den + 1 := by
  have hparity : num / den % 2 < 2 := Nat.mod_lt _ (by decide)
  simp only [roundQuotient]
  split <;> omega

theorem floorLog2_one {n : Nat} (hn : n ≠ 0) : floorLog2 n 1 = n.log2 := by
  have hone : Nat.log2 1 = 0 := by decide
  have hself : ¬ n * Nat.pow 2 (-(n.log2 : Int)).toNat < 1 * Nat.pow 2 (n.log2 : Int).toNat := by
    have hle : 2 ^ n.log2 ≤ n := Nat.log2_self_le hn
    have hneg : (-(n.log2 : Int)).toNat = 0 := by omega
    rw [hneg, Int.toNat_natCast, Nat.pow_eq, Nat.pow_eq, Nat.pow_zero]
    omega
  rw [floorLog2, hone, Int.natCast_zero, Int.sub_zero, if_neg hself]

/-- The significand of an integer with this many bits, its last place filled up or rounded off. -/
theorem roundQuotient_scaled_le {n e : Nat} (h : n < Nat.pow 2 (e + 1)) :
    roundQuotient (n * Nat.pow 2 (52 - e)) (Nat.pow 2 (e - 52)) ≤ 0x20000000000000 := by
  simp only [Nat.pow_eq] at h ⊢
  have hscaled : n * 2 ^ (52 - e) < 2 ^ (e - 52) * 2 ^ 53 := by
    calc
      n * 2 ^ (52 - e) < 2 ^ (e + 1) * 2 ^ (52 - e) :=
        Nat.mul_lt_mul_of_pos_right h (Nat.two_pow_pos _)
      _ = 2 ^ (e - 52) * 2 ^ 53 := by
        rw [← Nat.pow_add, ← Nat.pow_add]
        congr 1
        omega
  have hquotient : n * 2 ^ (52 - e) / 2 ^ (e - 52) < 2 ^ 53 := Nat.div_lt_of_lt_mul hscaled
  have hround := roundQuotient_le (n * 2 ^ (52 - e)) (2 ^ (e - 52))
  omega

/-- An integer of 64 bits is nearest to a finite double. -/
theorem nearest_lt_infinity {n : Nat} (h : n < 0x10000000000000000) :
    double.nearest n 1 < double.infinity := by
  have hinfinity : double.infinity = 2047 * 2 ^ 52 := by decide
  have hfractions : double.fractions = 2 ^ 52 := by decide
  have hleast : double.leastExponent = -1074 := by decide
  by_cases hn : n = 0
  · rw [nearest, if_pos hn, hinfinity]
    decide
  have hlog : n.log2 < 64 := (Nat.log2_lt hn).mpr h
  have hplace : max (floorLog2 n 1 - double.fractionBits) double.leastExponent
      = (n.log2 : Int) - 52 := by
    have hbits : double.fractionBits = 52 := rfl
    rw [floorLog2_one hn, hleast, hbits]
    omega
  have hround : roundQuotient (n * Nat.pow 2 (-((n.log2 : Int) - 52)).toNat)
      (1 * Nat.pow 2 ((n.log2 : Int) - 52).toNat) ≤ 0x20000000000000 := by
    have hup : (-((n.log2 : Int) - 52)).toNat = 52 - n.log2 := by omega
    have hdown : ((n.log2 : Int) - 52).toNat = n.log2 - 52 := by omega
    rw [hup, hdown, Nat.one_mul]
    exact roundQuotient_scaled_le Nat.lt_log2_self
  have hsteps : ((n.log2 : Int) - 52 - double.leastExponent).toNat ≤ 1085 := by omega
  simp only [nearest, if_neg hn, hplace, hfractions, hinfinity]
  omega

end BinaryFormat

namespace Double

theorem magnitude_ofMagnitude {m : Nat} (h : m < 0x8000000000000000) (negative : Bool) :
    (ofMagnitude negative m).magnitude = m := by
  cases negative <;> simp only [ofMagnitude, magnitude, UInt64.toNat_ofNat'] <;>
    simp <;> omega

theorem isFinite_ofInt {n : Int} (h : n.natAbs < 0x10000000000000000) : (ofInt n).IsFinite := by
  have hnearest := BinaryFormat.nearest_lt_infinity h
  have hinfinity : BinaryFormat.double.infinity < 0x8000000000000000 := by decide
  rw [IsFinite, ofInt, magnitude_ofMagnitude (by omega)]
  exact hnearest

end Double

namespace Json

/-- Every JSON number is a finite double. -/
theorem Number.isFinite_toDouble (number : Number) : number.toDouble.IsFinite := by
  cases number with
  | integer n h =>
    have hlow : -9223372036854775808 ≤ n := h.1
    have hhigh : n < 18446744073709551616 := h.2
    exact Double.isFinite_ofInt (by omega)
  | float x => exact x.property

end Json

end DocSearch
