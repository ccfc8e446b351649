/-
The types that the fields of an index may have.
-/
import DocSearch.Json.Decode

namespace DocSearch

/-- What a field of an index holds. -/
inductive FieldType where
  /-- Text, analysed into terms. -/
  | text
  /-- Text as a whole. -/
  | keyword
  | long
  | integer
  | short
  | double
  | float
  | boolean
  | date
  | ip
  | geoPoint
  /-- Objects, each kept apart. -/
  | nested
  /-- Objects, their fields mixed. -/
  | object
  deriving DecidableEq

namespace FieldType

/-- The types by name. -/
def table : List (String × FieldType) :=
  [("text", .text), ("keyword", .keyword), ("long", .long), ("integer", .integer),
   ("short", .short), ("double", .double), ("float", .float), ("boolean", .boolean),
   ("date", .date), ("ip", .ip), ("geo_point", .geoPoint), ("nested", .nested),
   ("object", .object)]

/-- The name of a type. -/
def name : FieldType → String
  | text => "text"
  | keyword => "keyword"
  | long => "long"
  | integer => "integer"
  | short => "short"
  | double => "double"
  | float => "float"
  | boolean => "boolean"
  | date => "date"
  | ip => "ip"
  | geoPoint => "geo_point"
  | nested => "nested"
  | object => "object"

theorem lookup_name (type : FieldType) : table.lookup type.name = some type := by
  cases type <;> decide +kernel

/-- Reads a type from its name. -/
def ofJson : Json → Json.Decoded FieldType := Json.readChoice table Json.isNull

end FieldType

end DocSearch
