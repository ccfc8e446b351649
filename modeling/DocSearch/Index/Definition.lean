/-
What an index is created with: settings, the mapping of its fields and its
aliases. What is not given is left out, and the engine's defaults apply.
-/
import DocSearch.Index.Mapping

namespace DocSearch

/-- How an index is stored. -/
structure IndexSettings where
  /-- How many primary shards it has. -/
  shards : Option UInt32 := none
  /-- How many copies of each shard there are. -/
  replicas : Option UInt32 := none
  /-- How often new documents become visible. -/
  refreshInterval : Option String := none
  /-- How far a page of hits may reach. -/
  maxResultWindow : Option UInt64 := none
  /-- How text is analysed. -/
  analysis : Option Json := none

namespace IndexSettings

/-- The JSON members of the settings. -/
def members (settings : IndexSettings) : List (String × Json) :=
  Json.optional "number_of_shards" (settings.shards.map Json.ofUInt32)
    ++ Json.optional "number_of_replicas" (settings.replicas.map Json.ofUInt32)
    ++ Json.optional "refresh_interval" (settings.refreshInterval.map Json.string)
    ++ Json.optional "max_result_window" (settings.maxResultWindow.map Json.ofUInt64)
    ++ Json.optional "analysis" settings.analysis

end IndexSettings

/-- What an index is created with. -/
structure IndexDefinition where
  /-- How it is stored. -/
  settings : IndexSettings := {}
  mappings : Option Mapping := none
  /-- Other names for it. -/
  aliases : List String := []

namespace IndexDefinition

/-- Members of an object, as a member that is left out when there are none. -/
def block (name : String) (members : List (String × Json)) : List (String × Json) :=
  if members.isEmpty then [] else [(name, .object members)]

/-- The JSON form of a definition. -/
def toJson (definition : IndexDefinition) : Json :=
  .object (block "settings" definition.settings.members
    ++ Json.optional "mappings" (definition.mappings.map Mapping.toJson)
    ++ block "aliases"
      (Entries.setAll [] (definition.aliases.map fun name => (name, .object []))))

end IndexDefinition

end DocSearch
