/-
The bodies of the engine's answers. A body is read as a record of the fields an
operation needs; other members do not matter.
-/
import DocSearch.Response.Result

namespace DocSearch

open Json (Shape)

/-! ## Documents -/

/-- The answer to the writing of a document. -/
structure WriteReply where
  index : String
  id : String
  /-- How often the document was written. -/
  version : Option Int64
  result : WriteResult
  deriving DecidableEq

namespace WriteReply

/-- How the answer is read. -/
def shape : Shape WriteReply :=
  Shape.of "WriteBody" WriteReply.mk
    |>.required "_index" Json.readString
    |>.required "_id" Json.readString
    |>.optional "_version" Json.readInt64
    |>.required "result" WriteResult.ofJson

/-- The change that the answer reports. -/
def toChange (body : WriteReply) : Change := ⟨body.index, body.id, body.result⟩

end WriteReply

/-- The answer to the reading of a document. -/
structure GetReply (α : Type) where
  index : String
  id : String
  /-- How often the document was written. -/
  version : Option Int64
  /-- Whether the document is there. -/
  found : Bool
  source : Option α

/-- How the answer to the reading of a document is read. -/
def GetReply.shape {α : Type} [Document α] : Shape (GetReply α) :=
  Shape.of "GetBody" GetReply.mk
    |>.required "_index" Json.readString
    |>.required "_id" Json.readString
    |>.optional "_version" Json.readInt64
    |>.required "found" Json.readBool
    |>.optional "_source" Document.ofJson

/-- How the answer to a truncation is read. -/
def Truncation.bodyShape : Shape Truncation :=
  Shape.of "Body" Truncation.mk |>.required "deleted" Json.readUInt64

/-! ## Searches -/

namespace Hits

variable {α : Type} [Document α]

/-- How one hit is read. -/
def hitShape : Shape (Record α) :=
  Shape.of "HitBody" Record.mk
    |>.required "_index" Json.readString
    |>.required "_id" Json.readString
    |>.optional "_version" Json.readInt64
    |>.optional "_score" Json.readDouble
    |>.required "_source" Document.ofJson

/-- How the list of hits is read. -/
def listShape : Shape (List (Record α)) :=
  Shape.of "HitsBody" id |>.required "hits" (Json.readList hitShape.read)

/-- How the answer to a search is read. -/
def shape : Shape (List (Record α)) :=
  Shape.of "SearchBody" id |>.required "hits" listShape.read

end Hits

/-! ## Missing documents -/

/-- The answer that a document is not there. -/
structure MissingDocument where
  index : String
  id : String
  /-- Whether the document is there after all. -/
  found : Bool
  deriving DecidableEq

/-- How the answer that a document is not there is read. -/
def MissingDocument.shape : Shape MissingDocument :=
  Shape.of "MissingDocument" MissingDocument.mk
    |>.required "_index" Json.readString
    |>.required "_id" Json.readString
    |>.required "found" Json.readBool

/-! ## Refusals -/

namespace RootCauses

/-- How one cause is read. -/
def causeShape : Shape String :=
  Shape.of "RootCause" id |>.required "reason" Json.readString

/-- How the list of causes is read. -/
def listShape : Shape (List String) :=
  Shape.of "EngineErrorDetail" id |>.required "root_cause" (Json.readList causeShape.read)

/-- How the answer is read. -/
def shape : Shape (List String) :=
  Shape.of "EngineErrorBody" id |>.required "error" listShape.read

end RootCauses

end DocSearch
