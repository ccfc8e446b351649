/-
Reading typed values from JSON. A reader takes a value or says why it cannot;
`DecodeError` lists the reasons and `message` words them. An integer is taken
where a double is asked for, but a double, even a whole one, is never taken
for an integer.
-/
import DocSearch.Json.Basic
import DocSearch.Text.Quoted

namespace DocSearch.Json

/-- What a reader asks for. -/
inductive Expected where
  | string
  | boolean
  /-- An unsigned integer of this many bits. -/
  | unsigned (bits : Nat)
  /-- A signed integer of 64 bits. -/
  | signed
  | real
  | sequence
  /-- Nothing but the name of a choice. -/
  | unit
  /-- The name of a choice, alone or with its content. -/
  | choice
  | record (title : String)
  deriving DecidableEq

/-- Why a value cannot be read. -/
inductive DecodeError where
  /-- The value is of another kind. -/
  | mismatch (found : Json) (expected : Expected)
  /-- The integer does not fit. -/
  | outOfRange (found : Int) (expected : Expected)
  /-- A field that has to stand does not. -/
  | missing (field : String)
  /-- A field stands under two of its spellings. -/
  | repeated (field : String)
  /-- No choice has this name. -/
  | unknownChoice (given : String) (names : List String)
  /-- An object in place of a choice has no single member. -/
  | notSingle
  /-- An array in place of a record ends before a field that has to stand. -/
  | tooShort (length : Nat) (title : String) (fields : Nat)
  /-- An array in place of a record goes on after the last field. -/
  | tooLong (length : Nat)
  /-- None of the forms that a value may have fits. -/
  | noForm (title : String)
  deriving DecidableEq

/-! ## Wording -/

namespace Expected

/-- How an expectation is named. -/
def text : Expected → String
  | string => "a string"
  | boolean => "a boolean"
  | unsigned bits => "u" ++ Text.ofNat bits
  | signed => "i64"
  | real => "f64"
  | sequence => "a sequence"
  | unit => "unit"
  | choice => "string or map"
  | record title => "struct " ++ title

end Expected

/-- How a value of the wrong kind is named: a scalar with its value, the others by kind. -/
def describe : Json → String
  | .null => "null"
  | .bool true => "boolean `true`"
  | .bool false => "boolean `false`"
  | .number (.integer n _) => "integer `" ++ Text.ofInt n ++ "`"
  | .number (.float x) => "floating point `" ++ String.ofList (Number.floatChars x) ++ "`"
  | .string text => "string " ++ Text.quoted text
  | .array _ => "sequence"
  | .object _ => "map"

namespace DecodeError

/-- The names of choices, each between backticks. -/
def nameList (names : List String) : String :=
  ", ".intercalate (names.map fun name => "`" ++ name ++ "`")

/-- How the reason is reported. -/
def message : DecodeError → String
  | mismatch found expected => "invalid type: " ++ found.describe ++ ", expected " ++ expected.text
  | outOfRange found expected =>
    "invalid value: integer `" ++ Text.ofInt found ++ "`, expected " ++ expected.text
  | missing field => "missing field `" ++ field ++ "`"
  | repeated field => "duplicate field `" ++ field ++ "`"
  | unknownChoice given names =>
    "unknown variant `" ++ given ++ "`, expected one of " ++ nameList names
  | notSingle => "invalid value: map, expected map with a single key"
  | tooShort length title fields =>
    "invalid length " ++ Text.ofNat length ++ ", expected struct " ++ title ++ " with "
      ++ Text.ofNat fields ++ if fields = 1 then " element" else " elements"
  | tooLong length =>
    "invalid length " ++ Text.ofNat length ++ ", expected fewer elements in array"
  | noForm title => "data did not match any variant of untagged enum " ++ title

end DecodeError

/-! ## Readers -/

/-- What reading a value gives. -/
abbrev Decoded (α : Type) := Except DecodeError α

/-- Reads a text. -/
def readString : Json → Decoded String
  | .string text => .ok text
  | other => .error (.mismatch other .string)

/-- Reads a truth value. -/
def readBool : Json → Decoded Bool
  | .bool value => .ok value
  | other => .error (.mismatch other .boolean)

/-- Reads an unsigned integer of this many bits. -/
def readUnsigned (bits : Nat) : Json → Decoded { n : Nat // n < Nat.pow 2 bits }
  | .number (.integer n _) =>
    if h : 0 ≤ n ∧ n.toNat < Nat.pow 2 bits then .ok ⟨n.toNat, h.2⟩
    else .error (.outOfRange n (.unsigned bits))
  | other => .error (.mismatch other (.unsigned bits))

/-- Reads an unsigned integer of 8 bits. -/
def readUInt8 (value : Json) : Decoded UInt8 :=
  (fun n => UInt8.ofNatLT n.1 n.2) <$> readUnsigned 8 value

/-- Reads an unsigned integer of 32 bits. -/
def readUInt32 (value : Json) : Decoded UInt32 :=
  (fun n => UInt32.ofNatLT n.1 n.2) <$> readUnsigned 32 value

/-- Reads an unsigned integer of 64 bits. -/
def readUInt64 (value : Json) : Decoded UInt64 :=
  (fun n => UInt64.ofNatLT n.1 n.2) <$> readUnsigned 64 value

/-- Reads a signed integer of 64 bits. -/
def readInt64 : Json → Decoded Int64
  | .number (.integer n _) =>
    if n < 9223372036854775808 then .ok (Int64.ofInt n) else .error (.outOfRange n .signed)
  | other => .error (.mismatch other .signed)

/-- Reads a double. -/
def readDouble : Json → Decoded Double
  | .number n => .ok n.toDouble
  | other => .error (.mismatch other .real)

/-- Takes null for the absence of a value. -/
def readOption {α : Type} (read : Json → Decoded α) : Json → Decoded (Option α)
  | .null => .ok none
  | value => some <$> read value

/-- Reads each item of an array. -/
def readList {α : Type} (read : Json → Decoded α) : Json → Decoded (List α)
  | .array items => items.mapM read
  | other => .error (.mismatch other .sequence)

/-- Nothing stands behind the name of a choice. -/
def isNull : Json → Bool
  | .null => true
  | _ => false

/-- Nothing, or an object without members, stands behind the name of a choice. -/
def isNullOrEmpty : Json → Bool
  | .null => true
  | .object [] => true
  | _ => false

/-- The choice with this name. -/
def choose {α : Type} (table : List (String × α)) (name : String) : Decoded α :=
  match table.lookup name with
  | some value => .ok value
  | none => .error (.unknownChoice name (Entries.names table))

/-- Reads one of several named choices: its name alone, or an object whose one member has that
name and nothing behind it. -/
def readChoice {α : Type} (table : List (String × α)) (isUnit : Json → Bool) : Json → Decoded α
  | .string name => choose table name
  | .object [(name, content)] => do
    let value ← choose table name
    if isUnit content then .ok value else .error (.mismatch content .unit)
  | .object _ => .error .notSingle
  | other => .error (.mismatch other .choice)

/-! ## What readers accept -/

theorem readString_eq_ok_iff {value : Json} {text : String} :
    readString value = .ok text ↔ value = .string text := by
  cases value <;> simp [readString]

theorem readBool_eq_ok_iff {value : Json} {b : Bool} :
    readBool value = .ok b ↔ value = .bool b := by
  cases value <;> simp [readBool]

theorem choose_eq_ok_iff {α : Type} {table : List (String × α)} {name : String} {value : α} :
    choose table name = .ok value ↔ table.lookup name = some value := by
  cases h : table.lookup name <;> simp [choose, h]

example : (DecodeError.mismatch (.ofDouble ⟨0x3FF8000000000000⟩) .string).message
    = "invalid type: floating point `1.5`, expected a string" := by decide +kernel

end DocSearch.Json
