/-
Documents and the records they are stored as. A type of documents says how it
is written as JSON and read back. A record is a document with the identity the
engine gave it; it is written flat, the identity first, and a member of the
document that has the name of an identity member replaces its value in place.
-/
import DocSearch.Json.Shape

namespace DocSearch

open Json (Decoded Shape)

/-- Why a value has no JSON form. -/
inductive EncodeError where
  /-- A document that is written flat is no object. -/
  | notAnObject (found : Json)
  /-- The value's own reason. -/
  | refused (message : String)
  deriving DecidableEq

namespace EncodeError

/-- How a document that is no object is named. -/
def kindName : Json → String
  | .null => "null"
  | .bool _ => "a boolean"
  | .number (.integer _ _) => "an integer"
  | .number (.float _) => "a float"
  | .string _ => "a string"
  | .array _ => "a sequence"
  | .object _ => "a map"

/-- How the reason is reported. -/
def message : EncodeError → String
  | notAnObject found => "can only flatten structs and maps (got " ++ kindName found ++ ")"
  | refused message => message

end EncodeError

/-- A type of documents. -/
class Document (α : Type) where
  /-- The index such documents are kept in when none is named. -/
  index : String
  toJson : α → Except EncodeError Json
  ofJson : Json → Decoded α

/-- A document as it is stored. -/
structure Record (α : Type) where
  index : String
  id : String
  /-- How often the document was written. -/
  version : Option Int64
  /-- How well the document matches a search. -/
  score : Option Double
  data : α

namespace Record

variable {α β : Type}

/-- Changes the document and keeps its identity. -/
def map (f : α → β) (record : Record α) : Record β := { record with data := f record.data }

/-- The members that identify a record. -/
def identityMembers (record : Record α) : List (String × Json) :=
  [("_index", .string record.index), ("_id", .string record.id)]
    ++ Json.optional "_version" (record.version.map Json.ofInt64)
    ++ Json.optional "_score" (record.score.map Json.ofDouble)

/-- The members that a document's JSON form gives; null gives none. -/
def documentMembers : Json → Except EncodeError (List (String × Json))
  | .object members => .ok members
  | .null => .ok []
  | other => .error (.notAnObject other)

/-- The JSON form of a record. -/
def toJson [Document α] (record : Record α) : Except EncodeError Json := do
  let document ← Document.toJson record.data
  let members ← documentMembers document
  .ok (.object (Entries.setAll record.identityMembers members))

/-- The names of the members that identify a record. -/
def identityNames : List String := ["_index", "_id", "_version", "_score"]

/-- How the identity of a record is read. -/
def identityShape : Shape (α → Record α) :=
  Shape.of "Record" Record.mk
    |>.required "_index" Json.readString
    |>.required "_id" Json.readString
    |>.setting "_version" [] Json.readInt64
    |>.setting "_score" [] Json.readDouble

/-- Reads a record from an object: its identity, and its document from the other members. -/
def ofJson [Document α] : Json → Decoded (Record α)
  | .object members => do
    let make ← identityShape.readMembers members
    let document ←
      Document.ofJson (.object (members.filter fun member => !identityNames.contains member.1))
    .ok (make document)
  | other => .error (.mismatch other (.record "Record"))

end Record

end DocSearch
