/-
The parts of the library that write to the log.
-/
import DocSearch.Log.Entry

namespace DocSearch.Log

/-- A part of the library that writes to the log. -/
inductive Source where
  /-- The making of connections. -/
  | connection
  /-- The making of requests. -/
  | request
  /-- The reading of answers. -/
  | response
  /-- The sending of requests. -/
  | transport
  deriving DecidableEq

namespace Source

/-- The name under which a part writes. -/
def target : Source → String
  | connection => "opensequel_model::connection"
  | request => "opensequel_model::model"
  | response => "opensequel_model::response"
  | transport => "opensequel_model::transport"

/-- An entry of a part. -/
def entry (source : Source) (level : Level) (message : String)
    (fields : List (String × String)) : Entry := ⟨level, source.target, message, fields⟩

end Source

end DocSearch.Log
