/-
Literals: the plain values that a field may be compared with. Integers up to
the largest signed one are held signed, those above it unsigned.
-/
import DocSearch.Double.Single
import DocSearch.Json.Basic

namespace DocSearch

/-- A plain value that a field is compared with. -/
inductive Literal where
  | integer (n : Int64)
  | unsigned (n : UInt64)
  | float (x : Double)
  | text (value : String)
  deriving DecidableEq

namespace Literal

/-- The literal of a single precision number, with the digits of its shortest decimal. -/
def ofSingle (x : Single) : Literal := .float x.widen

/-- The literal of a JSON number: signed where that holds it, else unsigned. -/
def ofNumber : Json.Number → Literal
  | .integer n _ =>
    if n < 9223372036854775808 then .integer (Int64.ofInt n)
    else .unsigned (UInt64.ofNat n.toNat)
  | .float x => .float x.val

/-- The JSON value of a literal; null where a double has none. -/
def toJson : Literal → Json
  | .integer n => .ofInt64 n
  | .unsigned n => .ofUInt64 n
  | .float x => .ofDouble x
  | .text value => .string value

/-- The literal has a JSON form: it is neither NaN nor infinite. -/
def IsFinite : Literal → Prop
  | .float x => x.IsFinite
  | _ => True

instance : (literal : Literal) → Decidable literal.IsFinite
  | .integer _ => isTrue trivial
  | .unsigned _ => isTrue trivial
  | .float x => inferInstanceAs (Decidable x.IsFinite)
  | .text _ => isTrue trivial

/-- Equality of literals, doubles compared as numbers. -/
def equals : Literal → Literal → Bool
  | .float x, .float y => x.equals y
  | a, b => a = b

end Literal

end DocSearch
