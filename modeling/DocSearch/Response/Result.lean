/-
What the operations give when they succeed, each with its JSON form.
-/
import DocSearch.Document
import DocSearch.Operation

namespace DocSearch

open Json (Decoded Shape)

/-- What the engine did with a document. -/
inductive WriteResult where
  | created
  | updated
  | deleted
  | notFound
  /-- There was nothing to change. -/
  | noop
  deriving DecidableEq

namespace WriteResult

/-- The results by name. -/
def table : List (String × WriteResult) :=
  [("created", .created), ("updated", .updated), ("deleted", .deleted),
   ("not_found", .notFound), ("noop", .noop)]

/-- The name of a result. -/
def name : WriteResult → String
  | created => "created"
  | updated => "updated"
  | deleted => "deleted"
  | notFound => "not_found"
  | noop => "noop"

theorem lookup_name (result : WriteResult) : table.lookup result.name = some result := by
  cases result <;> decide +kernel

/-- Reads a result from its name. -/
def ofJson : Json → Decoded WriteResult := Json.readChoice table Json.isNull

end WriteResult

/-- A document was stored. -/
structure Creation where
  index : String
  /-- The document's id, given or made up by the engine. -/
  id : String
  /-- How often the document was written. -/
  version : Int64
  deriving DecidableEq

namespace Creation

/-- The JSON form of a creation. -/
def toJson (creation : Creation) : Json :=
  .object [("index", .string creation.index), ("id", .string creation.id),
    ("version", .ofInt64 creation.version)]

/-- How a creation is read. -/
def shape : Shape Creation :=
  Shape.of "CreateAck" Creation.mk
    |>.required "index" Json.readString
    |>.required "id" Json.readString
    |>.required "version" Json.readInt64

end Creation

/-- A document was changed or removed, or it was not there to be. -/
structure Change where
  index : String
  id : String
  result : WriteResult
  deriving DecidableEq

namespace Change

/-- Whether the document was removed. -/
def isDeleted (change : Change) : Bool := change.result = .deleted

/-- The JSON form of a change. -/
def toJson (change : Change) : Json :=
  .object [("index", .string change.index), ("id", .string change.id),
    ("result", .string change.result.name)]

/-- How a change is read, under the title of the operation that made it. -/
def shape (title : String) : Shape Change :=
  Shape.of title Change.mk
    |>.required "index" Json.readString
    |>.required "id" Json.readString
    |>.required "result" WriteResult.ofJson

/-- How an update is read. -/
def updateShape : Shape Change := shape "UpdateAck"

/-- How a removal is read. -/
def deleteShape : Shape Change := shape "DeleteAck"

end Change

/-- All documents of an index were removed. -/
structure Truncation where
  count : UInt64
  deriving DecidableEq

namespace Truncation

/-- The JSON form of a truncation. -/
def toJson (truncation : Truncation) : Json := .single "count" (.ofUInt64 truncation.count)

/-- How a truncation is read. -/
def shape : Shape Truncation :=
  Shape.of "TruncateAck" Truncation.mk |>.required "count" Json.readUInt64

end Truncation

/-- An index was created. -/
structure IndexCreation where
  index : String
  deriving DecidableEq

namespace IndexCreation

/-- The JSON form of an index creation. -/
def toJson (creation : IndexCreation) : Json := .single "index" (.string creation.index)

/-- How an index creation is read. -/
def shape : Shape IndexCreation :=
  Shape.of "InitAck" IndexCreation.mk |>.required "index" Json.readString

end IndexCreation

/-- An index was removed. -/
structure IndexRemoval where
  /-- Whether all of the engine knows. -/
  acknowledged : Bool
  deriving DecidableEq

namespace IndexRemoval

/-- The JSON form of an index removal. -/
def toJson (removal : IndexRemoval) : Json := .single "acknowledged" (.bool removal.acknowledged)

/-- How an index removal is read. -/
def shape : Shape IndexRemoval :=
  Shape.of "DropAck" IndexRemoval.mk |>.required "acknowledged" Json.readBool

end IndexRemoval

/-- What an operation gives on documents of type `α`. -/
def Operation.Result (α : Type) : Operation → Type
  | create => Creation
  | get => Option (Record α)
  | search => List (Record α)
  | update => Change
  | delete => Change
  | truncate => Truncation
  | createIndex => IndexCreation
  | dropIndex => IndexRemoval

end DocSearch
