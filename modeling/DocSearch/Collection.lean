/-
Collections: calls on one index through a connection. What a call does is seen from
its result and from its events, in order: the announcement, the request if one
is made, with what the transport notes around it, what the settling notes, and
what is noted of the result.
-/
import DocSearch.Connection
import DocSearch.Request.Call
import DocSearch.Response.Settle

namespace DocSearch

/-- A view of one index. -/
structure Collection where
  /-- Where its requests go. -/
  connection : Connection := {}
  index : String
  deriving DecidableEq

namespace Collection

variable {α : Type} [Document α]

/-- The collection of the index that documents of type `α` are kept in. -/
def ofDocument (α : Type) [Document α] (connection : Connection) : Collection :=
  ⟨connection, Document.index α⟩

/-- What is noted of a call whose outcome is settled. -/
def afterwards {operation : Operation} (collection : Collection) (call : Call α operation) :
    Except Error (operation.Result α) → List Log.Entry
  | .ok result => call.completion collection.index result
  | .error _ => []

/-- Makes a call. -/
def perform {operation : Operation} (collection : Collection)
    (respond : Transport → Request → Except Error Outcome) (call : Call α operation) :
    Except Error (operation.Result α) × List Event :=
  let announced := (call.announcement collection.index).map Event.wrote
  match collection.connection.exchange respond (call.request collection.index) with
  | (.error error, sent) => (.error error, announced ++ sent)
  | (.ok outcome, sent) =>
    let (result, notes) := outcome.settle operation
    (result, announced ++ sent ++ (notes ++ collection.afterwards call result).map Event.wrote)

/-- Sends a query of the caller's own. -/
def query (collection : Collection) (respond : Transport → Request → Except Error Outcome)
    (query : RawQuery) : Except Error Outcome × List Event :=
  let request := query.request collection.index
  let (outcome, sent) := collection.connection.exchange respond (.ok request)
  (outcome >>= Outcome.orRefused, sent)

/-- How a collection shows itself. -/
def describe (collection : Collection) : String :=
  "Model \x7b index: " ++ Text.quoted collection.index ++ ", connected: "
    ++ Connection.flagText collection.connection.isConnected ++ " \x7d"

end Collection

end DocSearch
