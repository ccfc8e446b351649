/-
Records read from JSON. A shape lists the fields of a record in order, each
with its spellings, and builds the record from the values that stand. In an
object the members are visited in their order: unknown ones are skipped, a
field that comes again under any spelling is refused, and the value of a known
one is checked on the spot, so the first problem in the text is the one
reported. Fields that do not stand are reported after that, in the order of
the shape. An array holds the fields by position.
-/
import DocSearch.Json.Decode

namespace DocSearch.Json

/-- What a shape says of one field. -/
structure Slot where
  /-- The name under which the field is reported. -/
  name : String
  aliases : List String
  /-- Whether an array may end before the field. -/
  mayLack : Bool
  /-- Whether the field takes a value. -/
  check : Json → Decoded Unit

namespace Slot

/-- Whether the field answers to a name. -/
def answersTo (slot : Slot) (name : String) : Bool := slot.name = name || slot.aliases.contains name

/-- The field of that name, if a shape has one. -/
def find? (slots : List Slot) (name : String) : Option Slot := slots.find? (·.answersTo name)

/-- The values of the fields among the members of an object, after those of `seen`. -/
def visit (slots : List Slot) (seen : List (String × Json)) :
    List (String × Json) → Decoded (List (String × Json))
  | [] => .ok seen
  | (name, value) :: members =>
    match find? slots name with
    | none => visit slots seen members
    | some slot =>
      if (seen.lookup slot.name).isSome then .error (.repeated slot.name)
      else do
        slot.check value
        visit slots (seen ++ [(slot.name, value)]) members

/-- The values of the fields among the items of an array of `length`, for the record `title` of
`count` fields. -/
def place (title : String) (count length : Nat) :
    List Slot → List Json → Decoded (List (String × Json))
  | [], [] => .ok []
  | [], _ :: _ => .error (.tooLong length)
  | slot :: slots, [] =>
    if slot.mayLack then place title count length slots []
    else .error (.tooShort length title count)
  | slot :: slots, value :: items => do
    slot.check value
    let rest ← place title count length slots items
    .ok ((slot.name, value) :: rest)

end Slot

/-- How a record is read. -/
structure Shape (α : Type) where
  /-- The name of the record in reports. -/
  title : String
  slots : List Slot
  /-- The record with these values of its fields. -/
  build : (String → Option Json) → Decoded α

namespace Shape

variable {α β : Type}

/-- A record without fields yet, made by `make`. -/
def of (title : String) (make : α) : Shape α := ⟨title, [], fun _ => .ok make⟩

/-- Adds a field with its reader and with what stands for its absence. -/
def add (shape : Shape (β → α)) (name : String) (aliases : List String) (mayLack : Bool)
    (read : Json → Decoded β) (absent : Decoded β) : Shape α where
  title := shape.title
  slots := shape.slots ++ [⟨name, aliases, mayLack, fun value => (fun _ => ()) <$> read value⟩]
  build values := do
    let make ← shape.build values
    let value ← match values name with
      | some value => read value
      | none => absent
    .ok (make value)

/-- Adds a field that has to stand. -/
def required (shape : Shape (β → α)) (name : String) (read : Json → Decoded β) : Shape α :=
  shape.add name [] false read (.error (.missing name))

/-- Adds a field that an object may leave out or hold as null. -/
def optional (shape : Shape (Option β → α)) (name : String) (read : Json → Decoded β) : Shape α :=
  shape.add name [] false (readOption read) (.ok none)

/-- Adds a field with further spellings that objects and arrays may leave out or hold as null. -/
def setting (shape : Shape (Option β → α)) (name : String) (aliases : List String)
    (read : Json → Decoded β) : Shape α :=
  shape.add name aliases true (readOption read) (.ok none)

/-- The record with the given members. -/
def readMembers (shape : Shape α) (members : List (String × Json)) : Decoded α := do
  let values ← Slot.visit shape.slots [] members
  shape.build fun name => values.lookup name

/-- The record with the given items. -/
def readItems (shape : Shape α) (items : List Json) : Decoded α := do
  let values ← Slot.place shape.title shape.slots.length items.length shape.slots items
  shape.build fun name => values.lookup name

/-- Reads the record from an object or from an array. -/
def read (shape : Shape α) : Json → Decoded α
  | .object members => shape.readMembers members
  | .array items => shape.readItems items
  | other => .error (.mismatch other (.record shape.title))

end Shape

end DocSearch.Json
