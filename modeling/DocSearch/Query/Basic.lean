/-
Queries: the tree of conditions that the engine is asked to match, and its
JSON form. A range condition gives the bounds of each of some fields. The
`must` list of a bool condition is always written, its other lists only when
there is something in them.
-/
import DocSearch.Filter.Options

namespace DocSearch

/-- A condition on documents. -/
inductive Query where
  | matchAll
  /-- The field has the value, analysed the way the field is. -/
  | term (field : String) (value : Json)
  | fuzzy (field : String) (options : FuzzyOptions)
  | regexp (field : String) (options : RegexOptions)
  | wildcard (field : String) (options : WildcardOptions)
  /-- Each field lies between its bounds. -/
  | range (fields : Fields RangeOptions)
  | present (field : String)
  /-- All of `must` and `filter`, some of `should`, none of `mustNot`. -/
  | bool (must should mustNot filter : List Query)

namespace Query

instance : Inhabited Query := ⟨.matchAll⟩

/-- A clause list as a member, left out when empty. -/
def clauseMember (name : String) (clauses : List Json) : List (String × Json) :=
  if clauses.isEmpty then [] else [(name, .array clauses)]

mutual

/-- The JSON form of a query. -/
def toJson : Query → Json
  | .matchAll => .single "match_all" (.object [])
  | .term field value => .single "match" (.single field value)
  | .fuzzy field options => .single "fuzzy" (.single field options.toJson)
  | .regexp field options => .single "regexp" (.single field options.toJson)
  | .wildcard field options => .single "wildcard" (.single field options.toJson)
  | .range fields =>
    .single "range" (.object (fields.entries.map fun entry => (entry.1, entry.2.toJson)))
  | .present field => .single "exists" (.single "field" (.string field))
  | .bool must should mustNot filter =>
    .single "bool" (.object (("must", .array (listToJson must))
      :: (clauseMember "should" (listToJson should)
      ++ clauseMember "must_not" (listToJson mustNot)
      ++ clauseMember "filter" (listToJson filter))))

/-- The JSON forms of queries. -/
def listToJson : List Query → List Json
  | [] => []
  | query :: queries => query.toJson :: listToJson queries

end

theorem listToJson_eq_map (queries : List Query) : listToJson queries = queries.map toJson := by
  induction queries with
  | nil => simp [listToJson]
  | cons query queries ih => simp [listToJson, ih]

/-- Whether the query asks nothing: a bool condition without clauses, or a range condition
without fields. -/
def isEmpty : Query → Bool
  | .bool must should mustNot filter =>
    must.isEmpty && should.isEmpty && mustNot.isEmpty && filter.isEmpty
  | .range fields => fields.isEmpty
  | _ => false

/-- Every document, in place of a bool condition without clauses. -/
def orMatchAll : Query → Query
  | .bool [] [] [] [] => .matchAll
  | query => query

end Query

end DocSearch
