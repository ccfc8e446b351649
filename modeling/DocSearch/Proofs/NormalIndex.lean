/-
Which definitions of an index are written alike. Sub-fields and properties are added at the end,
whatever names stand there, and only the writing merges them; so the normal form keeps each name
once, at every depth (`FieldMapping.normal`). What is written for a field is stated in rows, and two
fields are written alike just when their rows agree (`FieldMapping.toJson_eq_iff_rows`). Both sides
then speak of the same merged lists, and the rest is one induction on the tree of fields.

A field is built by edits. An edit that adds at the end and one that replaces in place keep two
fields in step (`FieldMapping.merged_edit`), and so do any edits one after the other.
-/
import DocSearch.Index.Definition
import DocSearch.Proofs.InsertionOrder
import DocSearch.Proofs.LatestEntries
import DocSearch.Proofs.QueryFacts

namespace DocSearch

open Entries (latest latest_map mem_of_mem_latest)
open Json (present present_injective)

/-! ## Values -/

namespace Json

/-- Members as one value, which lacks when there are none. -/
def objectValue? (members : List (String × Json)) : Option Json :=
  if members.isEmpty then none else some (.object members)

theorem objectValue?_inj {as bs : List (String × Json)} :
    objectValue? as = objectValue? bs ↔ as = bs := by
  cases as <;> cases bs <;> simp [objectValue?]

theorem string_injective : Function.Injective Json.string := fun _ _ => Json.string.inj

theorem bool_injective : Function.Injective Json.bool := fun _ _ => Json.bool.inj

theorem ofUInt32_injective : Function.Injective ofUInt32 := by
  intro m n h
  have hread : readUInt32 (ofUInt32 m) = readUInt32 (ofUInt32 n) := congrArg readUInt32 h
  simpa [readUInt32_ofUInt32] using hread

theorem ofUInt64_injective : Function.Injective ofUInt64 := by
  intro m n h
  have hnat : (m.toNat : Int) = n.toNat := by simpa [ofUInt64, Number.ofUInt64] using h
  exact UInt64.toNat_inj.mp (Int.ofNat.inj hnat)

end Json

theorem FieldType.name_inj {type other : FieldType} : type.name = other.name ↔ type = other := by
  refine ⟨fun h => ?_, fun h => h ▸ rfl⟩
  have hlookup := type.lookup_name
  rw [h, other.lookup_name] at hlookup
  exact (Option.some.inj hlookup).symm

/-! ## Fields -/

namespace FieldMapping

mutual

/-- A property of every field follows from that of its sub-fields and properties. -/
theorem byParts {motive : FieldMapping → Prop}
    (mk : ∀ type analyzer format indexed fields properties,
      (∀ entry ∈ fields, motive entry.2) → (∀ entry ∈ properties, motive entry.2) →
      motive (.mk type analyzer format indexed fields properties)) :
    ∀ field, motive field
  | .mk type analyzer format indexed fields properties =>
    mk type analyzer format indexed fields properties (allByParts mk fields)
      (allByParts mk properties)

theorem allByParts {motive : FieldMapping → Prop}
    (mk : ∀ type analyzer format indexed fields properties,
      (∀ entry ∈ fields, motive entry.2) → (∀ entry ∈ properties, motive entry.2) →
      motive (.mk type analyzer format indexed fields properties)) :
    ∀ fields : List (String × FieldMapping), ∀ entry ∈ fields, motive entry.2
  | [] => by simp
  | (_, field) :: fields =>
    List.forall_mem_cons.mpr ⟨byParts mk field, allByParts mk fields⟩

end

mutual

/-- The field with each name once among its sub-fields and once among its properties, in its first
place with its last definition, and so at every depth. -/
def normal : FieldMapping → FieldMapping
  | .mk type analyzer format indexed fields properties =>
    .mk type analyzer format indexed (latest (normalList fields)) (latest (normalList properties))

/-- Each of the fields in its normal form, by name. -/
def normalList : List (String × FieldMapping) → List (String × FieldMapping)
  | [] => []
  | (name, field) :: rest => (name, field.normal) :: normalList rest

end

theorem normalList_eq_map (fields : List (String × FieldMapping)) :
    normalList fields = fields.map fun field => (field.1, field.2.normal) := by
  induction fields with
  | nil => simp [normalList]
  | cons field fields ih => simp [normalList, ih]

/-- What is written for a field, row by row. -/
def rows : FieldMapping → List (String × Option Json)
  | .mk type analyzer format indexed fields properties =>
    [("type", some (.string type.name)), ("analyzer", analyzer.map Json.string),
     ("format", format.map Json.string), ("index", indexed.map Json.bool),
     ("fields", Json.objectValue? (latest (listToJson fields))),
     ("properties", Json.objectValue? (latest (listToJson properties)))]

theorem fieldsMember_eq (name : String) (fields : List (String × Json)) :
    fieldsMember name fields = Json.optional name (Json.objectValue? (latest fields)) := by
  by_cases h : fields = []
  · simp [fieldsMember, Json.objectValue?, Json.optional, h, Entries.latest]
  · have hlatest : latest fields ≠ [] := mt Entries.latest_eq_nil_iff.mp h
    simp [fieldsMember, Json.objectValue?, Json.optional, h, hlatest, Entries.setAll_eq_latest]

theorem toJson_eq (field : FieldMapping) : field.toJson = .object (present field.rows) := by
  cases field
  simp [toJson, rows, present, fieldsMember_eq, Json.optional]

theorem toJson_eq_iff_rows {a b : FieldMapping} : a.toJson = b.toJson ↔ a.rows = b.rows := by
  rw [toJson_eq, toJson_eq, Json.object.injEq]
  refine ⟨fun h => present_injective ?_ ?_ h, fun h => h ▸ rfl⟩
  · cases a
    cases b
    rfl
  · cases a
    simp [rows]

/-- Two fields are written alike just when they are normally alike. -/
theorem toJson_eq_iff_normal {a b : FieldMapping} : a.toJson = b.toJson ↔ a.normal = b.normal := by
  induction a using byParts generalizing b with
  | mk type analyzer format indexed fields properties ihfields ihproperties =>
    cases b with
    | mk type' analyzer' format' indexed' fields' properties' =>
      have hmerged (as bs : List (String × FieldMapping))
          (ih : ∀ entry ∈ as, ∀ {b : FieldMapping},
            entry.2.toJson = b.toJson ↔ entry.2.normal = b.normal) :
          latest (listToJson as) = latest (listToJson bs)
            ↔ latest (normalList as) = latest (normalList bs) := by
        simp only [listToJson_eq_map, normalList_eq_map, latest_map]
        refine map_eq_map_iff_of fun a ha b _ => ?_
        simp [ih a (mem_of_mem_latest ha)]
      rw [toJson_eq_iff_rows]
      simp [rows, normal, FieldType.name_inj, Json.objectValue?_inj,
        (Option.map_injective Json.string_injective).eq_iff,
        (Option.map_injective Json.bool_injective).eq_iff,
        hmerged fields fields' ihfields, hmerged properties properties' ihproperties]

/-- It makes no difference whether a later definition of a name is added behind the others or takes
the place of the earlier one. -/
theorem toJson_setAll (type : FieldType) (analyzer format : Option String) (indexed : Option Bool)
    (fields properties : List (String × FieldMapping)) :
    (mk type analyzer format indexed (Entries.setAll [] fields)
        (Entries.setAll [] properties)).toJson
      = (mk type analyzer format indexed fields properties).toJson := by
  rw [toJson_eq_iff_rows]
  simp [rows, listToJson_eq_map, latest_map, Entries.setAll_eq_latest, Entries.latest_latest]

/-! ## Edits -/

/-- Something that is said of a field. -/
inductive Edit where
  | analyzer (name : String)
  | format (text : String)
  | indexed (flag : Bool)
  | subField (name : String) (field : FieldMapping)
  | property (name : String) (field : FieldMapping)

/-- The field with what an edit says of it; a sub-field or a property is added behind the others. -/
def edit (field : FieldMapping) : Edit → FieldMapping
  | .analyzer name => field.withAnalyzer name
  | .format text => field.withFormat text
  | .indexed flag => field.withIndexed flag
  | .subField name part => field.addSubField name part
  | .property name part => field.addProperty name part

/-- The field with what an edit says of it; a sub-field or a property takes the place of an earlier
one of its name, as a field of a mapping does. -/
def replace : FieldMapping → Edit → FieldMapping
  | .mk type analyzer format indexed fields properties, .subField name part =>
    .mk type analyzer format indexed (Mapping.insert { properties := fields } name part).properties
      properties
  | .mk type analyzer format indexed fields properties, .property name part =>
    .mk type analyzer format indexed fields
      (Mapping.insert { properties } name part).properties
  | field, said => field.edit said

/-- The field with each name once among its sub-fields and once among its properties, in its first
place with its last definition. -/
def merged : FieldMapping → FieldMapping
  | .mk type analyzer format indexed fields properties =>
    .mk type analyzer format indexed (Entries.setAll [] fields) (Entries.setAll [] properties)

theorem toJson_merged (field : FieldMapping) : field.merged.toJson = field.toJson := by
  cases field
  exact toJson_setAll _ _ _ _ _ _

/-- An edit that adds and one that replaces come to the same but for what is yet to be merged. -/
theorem merged_edit (field : FieldMapping) (said : Edit) :
    (field.edit said).merged = field.merged.replace said := by
  cases field
  cases said <;> simp [edit, replace, merged, withAnalyzer, withFormat, withIndexed, addSubField,
    addProperty, Mapping.insert, Entries.setAll_append]

theorem merged_foldl_edit (field : FieldMapping) (edits : List Edit) :
    (edits.foldl edit field).merged = edits.foldl replace field.merged := by
  induction edits generalizing field with
  | nil => rfl
  | cons said edits ih => rw [List.foldl_cons, List.foldl_cons, ih, merged_edit]

/-- A field that edits add to is written like the one in which they replace. -/
theorem toJson_foldl_edit (field : FieldMapping) (edits : List Edit) :
    (edits.foldl edit field).toJson = (edits.foldl replace field.merged).toJson := by
  rw [← toJson_merged, merged_foldl_edit]

/-! ## Chains -/

theorem foldl_addSubField (type : FieldType) (fields added : List (String × FieldMapping)) :
    added.foldl (fun field entry => field.addSubField entry.1 entry.2)
        (mk type none none none fields [])
      = mk type none none none (fields ++ added) [] := by
  induction added generalizing fields with
  | nil => rw [List.foldl_nil, List.append_nil]
  | cons entry added ih =>
    rw [List.foldl_cons, addSubField, ih, List.append_assoc, List.singleton_append]

theorem foldl_addProperty (type : FieldType) (properties added : List (String × FieldMapping)) :
    added.foldl (fun field entry => field.addProperty entry.1 entry.2)
        (mk type none none none [] properties)
      = mk type none none none [] (properties ++ added) := by
  induction added generalizing properties with
  | nil => rw [List.foldl_nil, List.append_nil]
  | cons entry added ih =>
    rw [List.foldl_cons, addProperty, ih, List.append_assoc, List.singleton_append]

theorem fieldsMember_listToJson (name : String) (fields : List (String × FieldMapping)) :
    fieldsMember name (listToJson fields)
      = if fields = [] then [] else [(name, .object (latest (listToJson fields)))] := by
  cases fields with
  | nil => rw [listToJson, fieldsMember, if_pos List.isEmpty_nil, if_pos rfl]
  | cons entry fields =>
    rw [listToJson, fieldsMember, Entries.setAll_eq_latest, if_neg (List.cons_ne_nil _ _)]
    rfl

/-- Sub-fields that are added to a field of a type are all that is written of it but the type. -/
theorem toJson_foldl_addSubField (type : FieldType) (added : List (String × FieldMapping)) :
    (added.foldl (fun field entry => field.addSubField entry.1 entry.2) (ofType type)).toJson
      = .object (("type", .string type.name)
          :: if added = [] then [] else [("fields", .object (latest (listToJson added)))]) := by
  have hnone : fieldsMember "properties" (listToJson []) = [] := by
    rw [fieldsMember_listToJson, if_pos rfl]
  rw [ofType, foldl_addSubField, List.nil_append, toJson, hnone, ← fieldsMember_listToJson]
  simp [Json.optional]

/-- So are properties. -/
theorem toJson_foldl_addProperty (type : FieldType) (added : List (String × FieldMapping)) :
    (added.foldl (fun field entry => field.addProperty entry.1 entry.2) (ofType type)).toJson
      = .object (("type", .string type.name)
          :: if added = [] then [] else [("properties", .object (latest (listToJson added)))]) := by
  have hnone : fieldsMember "fields" (listToJson []) = [] := by
    rw [fieldsMember_listToJson, if_pos rfl]
  rw [ofType, foldl_addProperty, List.nil_append, toJson, hnone, ← fieldsMember_listToJson]
  simp [Json.optional]

end FieldMapping

/-! ## Mappings -/

namespace Mapping

/-- The mapping with each name once, in its first place with its last definition, and so at every
depth. -/
def normal (mapping : Mapping) : Mapping :=
  { mapping with properties := latest (FieldMapping.normalList mapping.properties) }

/-- What is written for a mapping, row by row. -/
def rows (mapping : Mapping) : List (String × Option Json) :=
  [("dynamic", mapping.dynamic.map Json.string),
   ("properties", some (.object (latest (FieldMapping.listToJson mapping.properties))))]

theorem toJson_eq (mapping : Mapping) : mapping.toJson = .object (present mapping.rows) := by
  simp [toJson, rows, present, Json.optional, Entries.setAll_eq_latest]

theorem toJson_eq_iff_normal {a b : Mapping} : a.toJson = b.toJson ↔ a.normal = b.normal := by
  have hrows : a.toJson = b.toJson ↔ a.rows = b.rows := by
    rw [toJson_eq, toJson_eq, Json.object.injEq]
    exact ⟨present_injective rfl (by simp [rows]), fun h => h ▸ rfl⟩
  have hmerged : latest (FieldMapping.listToJson a.properties)
        = latest (FieldMapping.listToJson b.properties)
      ↔ latest (FieldMapping.normalList a.properties)
        = latest (FieldMapping.normalList b.properties) := by
    simp only [FieldMapping.listToJson_eq_map, FieldMapping.normalList_eq_map, latest_map]
    refine map_eq_map_iff_of fun a _ b _ => ?_
    simp [FieldMapping.toJson_eq_iff_normal]
  rw [hrows]
  simp [rows, normal, (Option.map_injective Json.string_injective).eq_iff, hmerged, and_comm]

/-- Fields that are inserted into a mapping that says nothing are all that is written of it. -/
theorem toJson_foldl_insert (added : List (String × FieldMapping)) :
    (added.foldl (fun mapping entry => mapping.insert entry.1 entry.2) ({} : Mapping)).toJson
      = .object [("properties", .object (latest (FieldMapping.listToJson added)))] := by
  have hproperties : (container.insertAll {} added).properties = Entries.setAll [] added :=
    lawful_container.entries_insertAll {} added
  have hdynamic : (container.insertAll {} added).dynamic = none :=
    lawful_container.rest_insertAll {} added
  have hchain : added.foldl (fun mapping entry => mapping.insert entry.1 entry.2) ({} : Mapping)
      = container.insertAll {} added := rfl
  rw [hchain, toJson, hproperties, hdynamic]
  simp [Json.optional, FieldMapping.listToJson_eq_map, latest_map, Entries.setAll_eq_latest,
    Entries.latest_latest]

end Mapping

/-! ## Definitions -/

namespace IndexSettings

/-- What is written for settings, row by row. -/
def rows (settings : IndexSettings) : List (String × Option Json) :=
  [("number_of_shards", settings.shards.map Json.ofUInt32),
   ("number_of_replicas", settings.replicas.map Json.ofUInt32),
   ("refresh_interval", settings.refreshInterval.map Json.string),
   ("max_result_window", settings.maxResultWindow.map Json.ofUInt64),
   ("analysis", settings.analysis)]

theorem members_eq (settings : IndexSettings) : settings.members = present settings.rows := by
  simp [members, rows, present, Json.optional]

/-- What is written for settings tells the settings. -/
theorem members_inj {a b : IndexSettings} : a.members = b.members ↔ a = b := by
  refine ⟨fun h => ?_, fun h => h ▸ rfl⟩
  rw [members_eq, members_eq] at h
  have hrows : a.rows = b.rows := present_injective rfl (by simp [rows]) h
  cases a
  cases b
  simpa [rows, (Option.map_injective Json.ofUInt32_injective).eq_iff,
    (Option.map_injective Json.ofUInt64_injective).eq_iff,
    (Option.map_injective Json.string_injective).eq_iff] using hrows

end IndexSettings

namespace IndexDefinition

/-- The definition with each alias once, where it came first, and its mapping in normal form. -/
def normal (definition : IndexDefinition) : IndexDefinition where
  settings := definition.settings
  mappings := definition.mappings.map Mapping.normal
  aliases := definition.aliases.eraseDups

/-- What is written for a definition, row by row. -/
def rows (definition : IndexDefinition) : List (String × Option Json) :=
  [("settings", Json.objectValue? definition.settings.members),
   ("mappings", definition.mappings.map Mapping.toJson),
   ("aliases", Json.objectValue?
     (definition.aliases.eraseDups.map fun name => (name, .object [])))]

theorem block_eq (name : String) (members : List (String × Json)) :
    block name members = Json.optional name (Json.objectValue? members) := by
  cases members <;> rfl

theorem toJson_eq (definition : IndexDefinition) :
    definition.toJson = .object (present definition.rows) := by
  simp [toJson, rows, present, block_eq, Entries.setAll_eq_latest, Entries.latest_map_const]

/-- **Definitions that are written alike** are those of one normal form. A field into which
definitions are only ever added is written like the one in which each takes the place of an earlier
one of its name: whatever lists of definitions it holds, and whatever edits it is built by.
Sub-fields or properties that are added to a field of a type are written as they are when they are
inserted into a mapping, and left out when there are none. -/
theorem toJson_eq_toJson_iff :
    (∀ a b : IndexDefinition, a.toJson = b.toJson ↔ a.normal = b.normal) ∧
      (∀ (type : FieldType) (analyzer format : Option String) (indexed : Option Bool)
        (fields properties : List (String × FieldMapping)),
        (FieldMapping.mk type analyzer format indexed fields properties).toJson
          = (FieldMapping.mk type analyzer format indexed (Entries.setAll [] fields)
              (Entries.setAll [] properties)).toJson) ∧
      (∀ (field : FieldMapping) (edits : List FieldMapping.Edit),
        (edits.foldl FieldMapping.edit field).toJson
          = (edits.foldl FieldMapping.replace field.merged).toJson) ∧
      ∀ (type : FieldType) (added : List (String × FieldMapping)), ∃ members,
        (added.foldl (fun mapping entry => mapping.insert entry.1 entry.2) ({} : Mapping)).toJson
            = .object [("properties", .object members)] ∧
        (added.foldl (fun field entry => field.addSubField entry.1 entry.2)
            (FieldMapping.ofType type)).toJson
          = .object (("type", .string type.name)
              :: if added = [] then [] else [("fields", .object members)]) ∧
        (added.foldl (fun field entry => field.addProperty entry.1 entry.2)
            (FieldMapping.ofType type)).toJson
          = .object (("type", .string type.name)
              :: if added = [] then [] else [("properties", .object members)]) := by
  refine ⟨?alike, ?replaced, FieldMapping.toJson_foldl_edit, ?chains⟩
  case alike =>
    intro a b
    have hrows : a.toJson = b.toJson ↔ a.rows = b.rows := by
      rw [toJson_eq, toJson_eq, Json.object.injEq]
      exact ⟨present_injective rfl (by simp [rows]), fun h => h ▸ rfl⟩
    have hmappings : a.mappings.map Mapping.toJson = b.mappings.map Mapping.toJson
        ↔ a.mappings.map Mapping.normal = b.mappings.map Mapping.normal := by
      cases a.mappings <;> cases b.mappings <;> simp [Mapping.toJson_eq_iff_normal]
    have haliases (words others : List String) :
        words.map (fun name => (name, Json.object [])) = others.map (fun name => (name, .object []))
          ↔ words = others := by
      refine List.map_inj_right ?_
      intro name other h
      exact congrArg Prod.fst h
    rw [hrows]
    simp [rows, normal, Json.objectValue?_inj, IndexSettings.members_inj, hmappings, haliases]
  case replaced =>
    intro type analyzer format indexed fields properties
    exact (FieldMapping.toJson_setAll type analyzer format indexed fields properties).symm
  case chains =>
    intro type added
    exact ⟨_, Mapping.toJson_foldl_insert added, FieldMapping.toJson_foldl_addSubField type added,
      FieldMapping.toJson_foldl_addProperty type added⟩

example : ((FieldMapping.ofType .text).addSubField "raw" (.ofType .long)
      |>.addSubField "raw" (.ofType .keyword)).toJson = FieldMapping.toJson
        (.mk .text none none none [("raw", .ofType .keyword)] []) := rfl

end IndexDefinition

end DocSearch
