/-
Mappings: which fields the documents of an index have, and how each is
treated. A field may be kept in several forms, its sub-fields, and may have
fields of its own. Where a name stands twice among sub-fields or properties,
what is written has it once, with the later definition in the earlier place.
-/
import DocSearch.Index.FieldType

namespace DocSearch

/-- How a field is treated. -/
inductive FieldMapping where
  /-- A field of a type, with its analyzer, the format of its dates, whether it is indexed, its
  sub-fields and its properties. -/
  | mk (type : FieldType) (analyzer : Option String) (format : Option String)
    (indexed : Option Bool) (fields properties : List (String × FieldMapping))

namespace FieldMapping

instance : Inhabited FieldMapping := ⟨.mk .object none none none [] []⟩

/-- A field of a type, with nothing else said. -/
def ofType (type : FieldType) : FieldMapping := .mk type none none none [] []

/-- Names the analyzer. -/
def withAnalyzer : FieldMapping → String → FieldMapping
  | .mk type _ format indexed fields properties, analyzer =>
    .mk type (some analyzer) format indexed fields properties

/-- Gives the format of dates. -/
def withFormat : FieldMapping → String → FieldMapping
  | .mk type analyzer _ indexed fields properties, format =>
    .mk type analyzer (some format) indexed fields properties

/-- Says whether the field is indexed. -/
def withIndexed : FieldMapping → Bool → FieldMapping
  | .mk type analyzer format _ fields properties, indexed =>
    .mk type analyzer format (some indexed) fields properties

/-- Adds a form in which the field is kept. -/
def addSubField : FieldMapping → String → FieldMapping → FieldMapping
  | .mk type analyzer format indexed fields properties, name, field =>
    .mk type analyzer format indexed (fields ++ [(name, field)]) properties

/-- Adds a field that the field has of its own. -/
def addProperty : FieldMapping → String → FieldMapping → FieldMapping
  | .mk type analyzer format indexed fields properties, name, field =>
    .mk type analyzer format indexed fields (properties ++ [(name, field)])

/-- A text that is also kept as a whole, the form in which whole texts are compared. -/
def textWithKeyword : FieldMapping := (ofType .text).addSubField "keyword" (ofType .keyword)

/-- Fields as a member, left out when there are none; a later definition of a name takes the
place of an earlier one. -/
def fieldsMember (name : String) (fields : List (String × Json)) : List (String × Json) :=
  if fields.isEmpty then [] else [(name, .object (Entries.setAll [] fields))]

mutual

/-- The JSON form of a field. -/
def toJson : FieldMapping → Json
  | .mk type analyzer format indexed fields properties =>
    .object (("type", .string type.name)
      :: (Json.optional "analyzer" (analyzer.map Json.string)
      ++ Json.optional "format" (format.map Json.string)
      ++ Json.optional "index" (indexed.map Json.bool)
      ++ fieldsMember "fields" (listToJson fields)
      ++ fieldsMember "properties" (listToJson properties)))

/-- The JSON forms of fields, by name. -/
def listToJson : List (String × FieldMapping) → List (String × Json)
  | [] => []
  | (name, field) :: rest => (name, field.toJson) :: listToJson rest

end

theorem listToJson_eq_map (fields : List (String × FieldMapping)) :
    listToJson fields = fields.map fun field => (field.1, field.2.toJson) := by
  induction fields with
  | nil => simp [listToJson]
  | cons field fields ih => simp [listToJson, ih]

end FieldMapping

/-- The fields of an index. -/
structure Mapping where
  /-- The fields by name. -/
  properties : List (String × FieldMapping) := []
  /-- What happens to fields that are not named here. -/
  dynamic : Option String := none

namespace Mapping

/-- Adds a field, in place of an earlier one of that name. -/
def insert (mapping : Mapping) (name : String) (field : FieldMapping) : Mapping :=
  { mapping with properties := Entries.set name field mapping.properties }

/-- The JSON form of a mapping. -/
def toJson (mapping : Mapping) : Json :=
  .object (Json.optional "dynamic" (mapping.dynamic.map Json.string)
    ++ [("properties", .object (Entries.setAll [] (FieldMapping.listToJson mapping.properties)))])

end Mapping

end DocSearch
