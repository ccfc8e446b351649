/-
JSON values. The members of an object keep the order in which their names
first arrived, and equality compares them in order. That the names of one
object differ is `WellFormed`, which holds of everything the library reads or
builds, and is kept apart from the tree. `depth` counts nested arrays and objects.
-/
import DocSearch.Entries
import DocSearch.Json.Number

namespace DocSearch

/-- A JSON value. -/
inductive Json where
  | null
  | bool (value : Bool)
  | number (value : Json.Number)
  | string (value : String)
  | array (items : List Json)
  | object (members : List (String × Json))

namespace Json

instance : Inhabited Json := ⟨.null⟩

/-! ## Equality -/

mutual

/-- Whether two values are the same, members compared in order. -/
def same : Json → Json → Bool
  | .null, .null => true
  | .bool a, .bool b => a == b
  | .number a, .number b => a = b
  | .string a, .string b => a == b
  | .array as, .array bs => sameItems as bs
  | .object as, .object bs => sameMembers as bs
  | _, _ => false

/-- Whether two lists of values are the same. -/
def sameItems : List Json → List Json → Bool
  | [], [] => true
  | a :: as, b :: bs => same a b && sameItems as bs
  | _, _ => false

/-- Whether two lists of members are the same. -/
def sameMembers : List (String × Json) → List (String × Json) → Bool
  | [], [] => true
  | (m, a) :: as, (n, b) :: bs => m == n && same a b && sameMembers as bs
  | _, _ => false

end

mutual

theorem same_iff : ∀ a b : Json, same a b = true ↔ a = b
  | .null, b => by cases b <;> simp [same]
  | .bool a, b => by cases b <;> simp [same]
  | .number a, b => by cases b <;> simp [same]
  | .string a, b => by cases b <;> simp [same]
  | .array as, b => by cases b <;> simp [same, sameItems_iff as]
  | .object as, b => by cases b <;> simp [same, sameMembers_iff as]

theorem sameItems_iff : ∀ as bs : List Json, sameItems as bs = true ↔ as = bs
  | [], bs => by cases bs <;> simp [sameItems]
  | a :: as, bs => by cases bs <;> simp [sameItems, same_iff a, sameItems_iff as]

theorem sameMembers_iff : ∀ as bs : List (String × Json), sameMembers as bs = true ↔ as = bs
  | [], bs => by cases bs <;> simp [sameMembers]
  | (m, a) :: as, bs => by
    rcases bs with _ | ⟨⟨n, b⟩, bs⟩
    · simp [sameMembers]
    · simp [sameMembers, same_iff a, sameMembers_iff as]

end

instance : DecidableEq Json := fun a b =>
  if h : same a b = true then isTrue ((same_iff a b).1 h)
  else isFalse fun e => h ((same_iff a b).2 e)

/-! ## Shape -/

mutual

/-- The names of every object in the value differ. -/
def WellFormed : Json → Prop
  | .array items => WellFormedItems items
  | .object members => (Entries.names members).Nodup ∧ WellFormedMembers members
  | _ => True

/-- Every item is well formed. -/
def WellFormedItems : List Json → Prop
  | [] => True
  | item :: items => WellFormed item ∧ WellFormedItems items

/-- The value of every member is well formed. -/
def WellFormedMembers : List (String × Json) → Prop
  | [] => True
  | (_, value) :: members => WellFormed value ∧ WellFormedMembers members

end

mutual

/-- How many arrays and objects are nested in the value, itself included. -/
def depth : Json → Nat
  | .array items => depthItems items + 1
  | .object members => depthMembers members + 1
  | _ => 0

/-- The greatest depth among the items. -/
def depthItems : List Json → Nat
  | [] => 0
  | item :: items => max (depth item) (depthItems items)

/-- The greatest depth among the values of the members. -/
def depthMembers : List (String × Json) → Nat
  | [] => 0
  | (_, value) :: members => max (depth value) (depthMembers members)

end

/-! ## Building and reading -/

/-- A double where numbers can hold it, else null: NaN and infinities have no JSON form. -/
def ofDouble (x : Double) : Json :=
  if h : x.IsFinite then .number (.float ⟨x, h⟩) else .null

/-- An unsigned integer. -/
def ofUInt64 (n : UInt64) : Json := .number (.ofUInt64 n)

/-- An unsigned integer of 32 bits. -/
def ofUInt32 (n : UInt32) : Json := .number (.ofUInt32 n)

/-- An unsigned integer of 8 bits. -/
def ofUInt8 (n : UInt8) : Json := .number (.ofUInt8 n)

/-- A signed integer. -/
def ofInt64 (n : Int64) : Json := .number (.ofInt64 n)

/-- The object with one member. -/
def single (name : String) (value : Json) : Json := .object [(name, value)]

/-- A member that stands only when it has a value. -/
def optional (name : String) (value : Option Json) : List (String × Json) :=
  match value with
  | some v => [(name, v)]
  | none => []

/-- The value of a member, if the value is an object that has it. -/
def member? (value : Json) (name : String) : Option Json :=
  match value with
  | .object members => members.lookup name
  | _ => none

end Json

end DocSearch
