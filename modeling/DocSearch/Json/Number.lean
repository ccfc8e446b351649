/-
JSON numbers: integers of 64 bits, signed or unsigned, and finite doubles. A
literal without fraction and exponent that is out of the integers' range, and
minus zero, is a double. Doubles are written with the fewest digits that read
back, plainly when the leading digit stands between 10 to the power -5 and 15,
and with a signed exponent otherwise.
-/
import DocSearch.Double.Reading
import DocSearch.Double.Shortest

namespace DocSearch

namespace Json

/-- The integers JSON numbers hold. -/
def InRange (n : Int) : Prop := -9223372036854775808 ≤ n ∧ n < 18446744073709551616

instance (n : Int) : Decidable (InRange n) :=
  inferInstanceAs (Decidable (-9223372036854775808 ≤ n ∧ n < 18446744073709551616))

/-- A JSON number. -/
inductive Number where
  | integer (n : Int) (inRange : InRange n)
  | float (x : FiniteDouble)
  deriving DecidableEq

namespace Number

/-- An unsigned integer. -/
def ofUInt64 (n : UInt64) : Number :=
  .integer n.toNat (by have := n.toNat_lt; simp only [InRange]; omega)

/-- An unsigned integer of 32 bits. -/
def ofUInt32 (n : UInt32) : Number :=
  .integer n.toNat (by have := n.toNat_lt; simp only [InRange]; omega)

/-- An unsigned integer of 8 bits. -/
def ofUInt8 (n : UInt8) : Number :=
  .integer n.toNat (by have := n.toNat_lt; simp only [InRange]; omega)

/-- A signed integer. -/
def ofInt64 (n : Int64) : Number :=
  .integer n.toInt (by have := n.toInt_lt; have := n.le_toInt; simp only [InRange]; omega)

/-- The number as a double; an integer is rounded. -/
def toDouble : Number → Double
  | .integer n _ => .ofInt n
  | .float x => x.val

/-! ## Writing -/

/-- The digits of a decimal with the point after `place` of them, filled up with zeros. -/
def plain (digits : List Char) (place : Int) : List Char :=
  if place ≤ 0 then ['0', '.'] ++ List.replicate (-place).toNat '0' ++ digits
  else if digits.length ≤ place.toNat then
    digits ++ List.replicate (place.toNat - digits.length) '0' ++ ['.', '0']
  else digits.take place.toNat ++ '.' :: digits.drop place.toNat

/-- One digit, the others behind a point, and the exponent with its sign. -/
def scientific (digits : List Char) (exponent : Int) : List Char :=
  let fraction := if digits.length = 1 then [] else '.' :: digits.drop 1
  digits.take 1 ++ fraction ++ ['e', if exponent < 0 then '-' else '+']
    ++ Text.Numeral.digits exponent.natAbs

/-- Whether a leading digit at this power of ten is written without exponent. -/
def isPlain (exponent : Int) : Bool := -5 ≤ exponent && exponent ≤ 15

/-- The text of a finite double. -/
def floatChars (x : FiniteDouble) : List Char :=
  let d := Decimal.shortest .double .toEven x.val.magnitude
  let digits := Text.Numeral.digits d.digits
  let exponent := d.exponent + digits.length - 1
  let text := if isPlain exponent then plain digits (exponent + 1) else scientific digits exponent
  if x.val.isNegative then '-' :: text else text

/-- The text of a number. -/
def chars : Number → List Char
  | .integer n _ => Text.Numeral.integerDigits n
  | .float x => floatChars x

/-! ## Reading -/

/-- The number written as an integer literal. -/
def ofWhole? (negative : Bool) (digits : List Char) : Option Number :=
  let n : Int := Text.Numeral.value digits
  if negative then
    if h : InRange (-n) ∧ n ≠ 0 then some (.integer (-n) h.1)
    else .float <$> Double.ofDigits? true digits [] 0
  else
    if h : InRange n then some (.integer n h)
    else .float <$> Double.ofDigits? false digits [] 0

/-- The exponent written after the letter: digits behind an optional sign. -/
def exponent? : List Char → Option Int
  | '+' :: cs => digits? cs
  | '-' :: cs => (- ·) <$> digits? cs
  | cs => digits? cs
where
  /-- A run of at least one digit and nothing else. -/
  digits? (cs : List Char) : Option Int :=
    if cs.isEmpty || !cs.all Char.isDigit then none else some (Text.Numeral.value cs)

/-- The number with this fraction, read from what follows the digits before the point. -/
def ofFraction? (negative : Bool) (whole fraction rest : List Char) : Option Number :=
  match rest with
  | [] => .float <$> Double.ofDigits? negative whole fraction 0
  | c :: cs =>
    if c = 'e' ∨ c = 'E' then do
      let e ← exponent? cs
      .float <$> Double.ofDigits? negative whole fraction e
    else none

/-- The number written without its sign. -/
def ofUnsigned? (negative : Bool) (cs : List Char) : Option Number :=
  let whole := cs.takeWhile Char.isDigit
  if whole.isEmpty || (whole.head? = some '0' && whole.length ≠ 1) then none
  else match cs.dropWhile Char.isDigit with
    | [] => ofWhole? negative whole
    | '.' :: rest =>
      let fraction := rest.takeWhile Char.isDigit
      if fraction.isEmpty then none
      else ofFraction? negative whole fraction (rest.dropWhile Char.isDigit)
    | rest => ofFraction? negative whole [] rest

/-- The number a literal stands for. -/
def ofChars? : List Char → Option Number
  | '-' :: cs => ofUnsigned? true cs
  | cs => ofUnsigned? false cs

example : (ofChars? ['-', '1', '2']).map chars = some ['-', '1', '2'] := by decide +kernel

end Number

end Json

end DocSearch
