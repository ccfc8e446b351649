/-
Filters: what a where-clause asks of one field. Texts and numbers in JSON are
literals; an object names its kind under `type` and holds the options of that
kind beside it. Everything else is refused, with the field it was meant for.
-/
import DocSearch.Filter.Literal
import DocSearch.Filter.Options
import DocSearch.Json.Printer

namespace DocSearch

open Json (Decoded DecodeError)

/-- What is asked of a field. -/
inductive Filter where
  /-- It equals a literal. -/
  | literal (value : Literal)
  /-- It equals a text as a whole. -/
  | exact (value : String)
  /-- It is close to a term. -/
  | fuzzy (options : FuzzyOptions)
  /-- It matches a regular expression as a whole. -/
  | regex (options : RegexOptions)
  /-- It matches a pattern as a whole. -/
  | wildcard (options : WildcardOptions)
  /-- It lies between bounds. -/
  | range (options : RangeOptions)
  /-- It has a value. -/
  | present
  deriving DecidableEq

/-- Why a filter is refused. -/
inductive FilterError where
  | boolean
  | null
  | array
  /-- The object does not name its kind. -/
  | untyped
  /-- The kind is unknown, or its options cannot be read. -/
  | options (cause : DecodeError)
  /-- A where-clause as a whole is no object. -/
  | notAnObject (value : Json)
  /-- The literal is infinite or NaN. -/
  | notFinite (literal : Literal)
  deriving DecidableEq

namespace FilterError

/-- How a double that is not finite is named. -/
def nonFiniteName (x : Double) : String :=
  if x.isNaN then "NaN" else if x.isNegative then "-inf" else "inf"

/-- How a literal without JSON form is named. -/
def literalName : Literal → String
  | .float x => "Float(" ++ nonFiniteName x ++ ")"
  | literal => literal.toJson.render

/-- How the reason is reported. -/
def message : FilterError → String
  | boolean => "boolean values are not a filter"
  | null => "null is not a filter"
  | array => "arrays are not a filter"
  | untyped => "object filter needs a string `type`"
  | options cause => cause.message
  | notAnObject value => "where-clause must be an object, got " ++ value.render
  | notFinite literal => literalName literal ++ " is not a finite number"

end FilterError

/-- A filter refused, with the field it was meant for. -/
structure Unsupported where
  /-- The field; empty when the where-clause as a whole is refused. -/
  field : String
  reason : FilterError
  deriving DecidableEq

namespace Filter

/-- The kinds of filters that objects name. -/
inductive Kind where
  | exact
  | fuzzy
  | regex
  | wildcard
  | range
  | present
  deriving DecidableEq

namespace Kind

/-- The kinds by name; a regular expression has two. -/
def table : List (String × Kind) :=
  [("exact", .exact), ("fuzzy", .fuzzy), ("regex", .regex), ("regexp", .regex),
   ("wildcard", .wildcard), ("range", .range), ("exists", .present)]

/-- The fields of an exact filter. -/
def exactShape : Json.Shape String :=
  Json.Shape.of "Exact" id |>.required "value" Json.readString

/-- Reads the filter of a kind from the members of its object. -/
def readMembers (members : List (String × Json)) : Kind → Decoded Filter
  | exact => Filter.exact <$> exactShape.readMembers members
  | fuzzy => Filter.fuzzy <$> FuzzyOptions.shape.readMembers members
  | regex => Filter.regex <$> RegexOptions.shape.readMembers members
  | wildcard => Filter.wildcard <$> WildcardOptions.shape.readMembers members
  | range => Filter.range <$> (RangeOptions.shape Json.isNullOrEmpty).readMembers members
  | present => .ok Filter.present

end Kind

/-- The name of a filter's kind. -/
def kindName : Filter → String
  | literal (.integer _) => "integer"
  | literal (.unsigned _) => "unsigned"
  | literal (.float _) => "float"
  | literal (.text _) => "text"
  | exact _ => "exact"
  | fuzzy _ => "fuzzy"
  | regex _ => "regex"
  | wildcard _ => "wildcard"
  | range _ => "range"
  | present => "exists"

/-- Reads a filter from the members of an object. -/
def readMembers (members : List (String × Json)) : Except FilterError Filter :=
  match members.lookup "type" with
  | some (.string name) =>
    match Json.choose Kind.table name >>= Kind.readMembers members with
    | .ok filter => .ok filter
    | .error cause => .error (.options cause)
  | _ => .error .untyped

/-- Reads a filter. -/
def read : Json → Except FilterError Filter
  | .string text => .ok (.literal (.text text))
  | .number n => .ok (.literal (.ofNumber n))
  | .object members => readMembers members
  | .bool _ => .error .boolean
  | .null => .error .null
  | .array _ => .error .array

/-- Reads the filter of a field. -/
def ofJson (field : String) (value : Json) : Except Unsupported Filter :=
  (read value).mapError fun reason => ⟨field, reason⟩

/-- Whether the filter can be sent: a literal has to have a JSON form. -/
def check : Filter → Except FilterError Unit
  | literal value => if value.IsFinite then .ok () else .error (.notFinite value)
  | _ => .ok ()

/-- Equality of filters, doubles compared as numbers. -/
def equals : Filter → Filter → Bool
  | literal a, literal b => a.equals b
  | wildcard a, wildcard b => a.equals b
  | range a, range b => a.equals b
  | a, b => a = b

end Filter

end DocSearch
