/-
Searches: a where-clause and the page of the hits that is wanted. The body of
a search has the page first and the query last.
-/
import DocSearch.Query.Clauses

namespace DocSearch

/-- What a search asks for. -/
structure Search where
  /-- The where-clause; empty, it asks for every document. -/
  filters : Where := .empty
  /-- How many hits are wanted at most. -/
  limit : Option UInt64 := none
  /-- How many hits are skipped. -/
  offset : Option UInt64 := none

namespace Search

/-- Adds a filter, in place of an earlier one on the same field. -/
def filter (search : Search) (field : String) (filter : Filter) : Search :=
  { search with filters := search.filters.insert field filter }

/-- The body of the search, if every filter can be sent. -/
def toJson (search : Search) : Except Unsupported Json := do
  search.filters.validate
  .ok (.object (Json.optional "from" (search.offset.map Json.ofUInt64)
    ++ Json.optional "size" (search.limit.map Json.ofUInt64)
    ++ [("query", search.filters.toQuery.orMatchAll.toJson)]))

end Search

end DocSearch
