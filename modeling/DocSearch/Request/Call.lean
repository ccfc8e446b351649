/-
Calls: the operations with what they are given. A call makes one request, if
its body can be made. Queries of the caller's own are sent as they are.
-/
import DocSearch.Error
import DocSearch.Index.Definition
import DocSearch.Log.Source
import DocSearch.Query.Search
import DocSearch.Request.Basic
import DocSearch.Response.Result

namespace DocSearch

/-- An operation with what it is given, on documents of type `α`. -/
inductive Call (α : Type) : Operation → Type where
  /-- Store a document under an id that the engine makes up. -/
  | create (document : α) : Call α .create
  /-- Store a document under an id. -/
  | createWithId (id : String) (document : α) : Call α .create
  | get (id : String) : Call α .get
  | search (wanted : Search) : Call α .search
  /-- Change some fields of a document; the fields may turn out to have no JSON form. -/
  | update (id : String) (fields : Except EncodeError Json) : Call α .update
  | delete (id : String) : Call α .delete
  | truncate : Call α .truncate
  | createIndex (definition : IndexDefinition) : Call α .createIndex
  | dropIndex : Call α .dropIndex

namespace Call

variable {α : Type} {operation : Operation}

/-- How the request is made. -/
def method : Call α operation → Method
  | create _ => .post
  | createWithId _ _ => .post
  | get _ => .get
  | search _ => .get
  | update _ _ => .post
  | delete _ => .delete
  | truncate => .post
  | createIndex _ => .put
  | dropIndex => .delete

/-- Where the request goes. -/
def path (index : String) : Call α operation → String
  | create _ => Path.endpoint index "_doc"
  | createWithId id _ => Path.document index "_doc" id
  | get id => Path.document index "_doc" id
  | search _ => Path.endpoint index "_search"
  | update id _ => Path.document index "_update" id
  | delete id => Path.document index "_doc" id
  | truncate => Path.endpoint index "_delete_by_query"
  | createIndex _ => Path.index index
  | dropIndex => Path.index index

/-- A body that has to be made, as part of a request. -/
def encoded (body : Except EncodeError Json) : Except Error (Option Json) :=
  match body with
  | .ok json => .ok (some json)
  | .error cause => .error (.serialization (.writing cause))

/-- What the request carries. -/
def body [Document α] : Call α operation → Except Error (Option Json)
  | create document => encoded (Document.toJson document)
  | createWithId _ document => encoded (Document.toJson document)
  | get _ => .ok none
  | search wanted => (some <$> wanted.toJson).mapError .unsupportedFilter
  | update _ fields => encoded (Json.single "doc" <$> fields)
  | delete _ => .ok none
  | truncate => .ok (some (.single "query" Query.matchAll.toJson))
  | createIndex definition => .ok (some definition.toJson)
  | dropIndex => .ok none

/-- The request of a call on an index. -/
def request [Document α] (call : Call α operation) (index : String) : Except Error Request := do
  let body ← call.body
  .ok ⟨call.method, call.path index, body⟩

/-- What is noted before the request is made. -/
def announcement (index : String) : Call α operation → List Log.Entry
  | createIndex _ => [Log.Source.request.entry .info ("Creating index: " ++ index) []]
  | dropIndex => [Log.Source.request.entry .info ("Deleting index: " ++ index) []]
  | _ => []

/-- What is noted of the result. -/
def completion (index : String) : Call α operation → operation.Result α → List Log.Entry
  | truncate, truncation =>
    [Log.Source.request.entry .debug "truncated index"
      [("index", index), ("count", Text.ofNat (Truncation.count truncation).toNat)]]
  | _, _ => []

end Call

/-- A query of the caller's own. -/
structure RawQuery where
  method : Method
  /-- Where it goes, from the index on. -/
  path : String
  body : Option Json
  deriving DecidableEq

/-- The request of a query on an index. -/
def RawQuery.request (query : RawQuery) (index : String) : Request :=
  ⟨query.method, Path.raw index query.path, query.body⟩

end DocSearch
