/-
The query of a where-clause. Each field gives one clause of a bool condition,
in order; the ranges are gathered on the way into one clause that stands at
the end, and a range without bounds gives nothing. Texts are compared as a
whole, in the field's keyword form.
-/
import DocSearch.Query.Basic
import DocSearch.Where

namespace DocSearch

/-- What a where-clause has given so far. -/
structure Clauses where
  /-- The clauses, ranges apart. -/
  must : List Query := []
  /-- The fields with bounds. -/
  ranges : Fields RangeOptions := .empty

namespace Clauses

/-- The keyword form of a field, which holds its text as a whole. -/
def keyword (field : String) : String := field ++ ".keyword"

/-- Adds a clause. -/
def push (clauses : Clauses) (query : Query) : Clauses :=
  { clauses with must := clauses.must ++ [query] }

/-- Adds what the filter of a field gives. -/
def add (clauses : Clauses) (field : String) : Filter → Clauses
  | .literal (.text value) => clauses.push (.term (keyword field) (.string value))
  | .literal number => clauses.push (.term field number.toJson)
  | .exact value => clauses.push (.term (keyword field) (.string value))
  | .fuzzy options => clauses.push (.fuzzy field options.withAuto)
  | .regex options => clauses.push (.regexp (keyword field) options)
  | .wildcard options => clauses.push (.wildcard (keyword field) options)
  | .range options =>
    if options.hasBounds then { clauses with ranges := clauses.ranges.insert field options }
    else clauses
  | .present => clauses.push (.present field)

/-- The clauses, with the ranges at the end if there are any. -/
def all (clauses : Clauses) : List Query :=
  if clauses.ranges.isEmpty then clauses.must else clauses.must ++ [.range clauses.ranges]

end Clauses

namespace Where

/-- The clauses that the filters give. -/
def clauses (clause : Where) : Clauses :=
  clause.toList.foldl (fun acc entry => acc.add entry.1 entry.2) {}

/-- The query of a where-clause. -/
def toQuery (clause : Where) : Query := .bool clause.clauses.all [] [] []

/-- The query of a where-clause in JSON. -/
def readQuery (value : Json) : Except Unsupported Query := toQuery <$> ofJson value

end Where

end DocSearch
