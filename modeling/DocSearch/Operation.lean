/-
The operations on an index and its documents.
-/

namespace DocSearch

/-- What is asked of the engine. -/
inductive Operation where
  | create
  | get
  | search
  | update
  | delete
  | truncate
  | createIndex
  | dropIndex
  deriving DecidableEq

namespace Operation

/-- The name of an operation. -/
def name : Operation → String
  | create => "create"
  | get => "get"
  | search => "search"
  | update => "update"
  | delete => "delete"
  | truncate => "truncate"
  | createIndex => "create_index"
  | dropIndex => "drop_index"

end Operation

end DocSearch
