/-
Requests: what is sent to the engine. Indexes, endpoints and ids are segments
of a path, so a text with slashes or other marks in it stays in its place.
-/
import DocSearch.Json.Basic
import DocSearch.Text.Percent

namespace DocSearch

/-- How a request is made. -/
inductive Method where
  | get
  | post
  | put
  | delete
  deriving DecidableEq

/-- The name of a method. -/
def Method.name : Method → String
  | get => "GET"
  | post => "POST"
  | put => "PUT"
  | delete => "DELETE"

/-- What is sent. -/
structure Request where
  method : Method
  path : String
  body : Option Json
  deriving DecidableEq

namespace Path

/-- The path of an index. -/
def index (index : String) : String := "/" ++ Text.Percent.segment index

/-- The path of something that an index offers. -/
def endpoint (index endpoint : String) : String := Path.index index ++ "/" ++ endpoint

/-- The path of a document. -/
def document (index endpoint id : String) : String :=
  Path.endpoint index endpoint ++ "/" ++ Text.Percent.segment id

/-- The path of an index, followed by a path that starts there. -/
def raw (index path : String) : String :=
  match path.toList.dropWhile (· = '/') with
  | [] => Path.index index
  | rest => Path.endpoint index (String.ofList rest)

end Path

end DocSearch
