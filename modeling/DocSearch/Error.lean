/-
Everything that can go wrong with a request, from its making to its answer.
-/
import DocSearch.Config
import DocSearch.Document
import DocSearch.Filter.Basic
import DocSearch.Operation

namespace DocSearch

/-- Why the answer to a request that succeeded makes no sense. -/
inductive ResponseError where
  /-- The body cannot be read. -/
  | unreadable (cause : Json.DecodeError)
  /-- A stored document has no version. -/
  | noVersion
  /-- A document was found but is not there. -/
  | noSource
  deriving DecidableEq

/-- How the reason is reported. -/
def ResponseError.message : ResponseError → String
  | unreadable cause => cause.message
  | noVersion => "missing _version"
  | noSource => "found without _source"

/-- Why a value cannot pass from or to JSON. -/
inductive SerializationError where
  | reading (cause : Json.DecodeError)
  | writing (cause : EncodeError)
  deriving DecidableEq

/-- How the reason is reported. -/
def SerializationError.message : SerializationError → String
  | reading cause => cause.message
  | writing cause => cause.message

/-- What went wrong. -/
inductive Error where
  /-- The engine does not accept the credentials. -/
  | unauthorized
  | notFound (index id : String)
  /-- The engine refused the request and said why. -/
  | engine (status : UInt16) (reason : String)
  /-- The engine refused the request. -/
  | http (status : UInt16) (body : Json)
  | unsupportedFilter (filter : Unsupported)
  | alreadyConfigured
  | notConnected
  | configuration (cause : ConfigError)
  /-- The engine accepted the request, but its answer makes no sense. -/
  | unexpectedResponse (operation : Operation) (cause : ResponseError)
  /-- A value cannot pass from or to JSON. -/
  | serialization (cause : SerializationError)
  /-- No answer came, for a reason that only the transport knows. -/
  | transport (reason : String)
  deriving DecidableEq

namespace Error

/-- How the error is reported. -/
def message : Error → String
  | unauthorized => "Unauthorized"
  | notFound index id => "Document not found: " ++ index ++ "/" ++ id
  | engine _ reason => reason
  | http status _ => "Request failed with status code " ++ Text.ofNat status.toNat
  | unsupportedFilter filter =>
    "Unsupported filter on field `" ++ filter.field ++ "`: " ++ filter.reason.message
  | alreadyConfigured => "Connection already configured"
  | notConnected => "Connection not configured"
  | configuration cause => "Configuration error: " ++ cause.message
  | unexpectedResponse operation cause =>
    "Unexpected response: " ++ operation.name ++ " response: " ++ cause.message
  | serialization cause => "Serialization error: " ++ cause.message
  | transport reason => "Transport error: " ++ reason

/-- The status of the answer that the error came with. -/
def status : Error → Option UInt16
  | unauthorized => some 401
  | notFound _ _ => some 404
  | engine status _ => some status
  | http status _ => some status
  | _ => none

end Error

end DocSearch
