/-
Where-clauses read from objects, member by member. Reading inserts a filter at each member, and
stops at the first member that is refused; what is inserted is what all members read one by one give
(`readMembers_eq_map`), so nothing is left of a clause that is refused. Inserting could drop or move
a member only where two have one name, and the names of an object differ.
-/
import DocSearch.Proofs.FilterForms
import DocSearch.Proofs.NormalWhere

namespace DocSearch

namespace Where

/-- The members of an object in their order, each with the filter that its value is read as. -/
def ListedAs (members : List (String × Json)) (entries : List (String × Filter)) : Prop :=
  List.Forall₂ (fun member entry =>
    entry.1 = member.1 ∧ Filter.ofJson member.1 member.2 = .ok entry.2) members entries

theorem mapM_readMember_eq_ok_iff {members : List (String × Json)}
    {entries : List (String × Filter)} :
    members.mapM readMember = .ok entries ↔ ListedAs members entries := by
  simp only [Json.mapM_eq_ok_iff, readMember_eq_ok_iff, ListedAs]

theorem ListedAs.names_eq {members : List (String × Json)} {entries : List (String × Filter)}
    (h : ListedAs members entries) : Entries.names entries = Entries.names members := by
  induction h with
  | nil => rfl
  | cons hmember _ ih => rw [Entries.names_cons, Entries.names_cons, hmember.1, ih]

theorem ofJson_object (members : List (String × Json)) :
    ofJson (.object members) = ofList <$> members.mapM readMember :=
  readMembers_eq_map empty members

/-- Entries whose names differ are listed as they are. -/
theorem toList_ofList_of_nodup {entries : List (String × Filter)}
    (h : (Entries.names entries).Nodup) : (ofList entries).toList = entries := by
  rw [toList_ofList, Entries.setAll_of_nodup (by simpa using h), List.nil_append]

theorem ofJson_object_eq_ok_iff {members : List (String × Json)}
    (hnodup : (Entries.names members).Nodup) {clause : Where} :
    ofJson (.object members) = .ok clause ↔ ListedAs members clause.toList := by
  rw [ofJson_object, Json.map_eq_ok_iff]
  simp only [mapM_readMember_eq_ok_iff]
  constructor
  · rintro ⟨entries, hlisted, rfl⟩
    rwa [toList_ofList_of_nodup (hlisted.names_eq ▸ hnodup)]
  · intro hlisted
    exact ⟨clause.toList, hlisted, eq_of_toList (toList_ofList_of_nodup clause.fields.nodup)⟩

theorem exists_ofJson_object_iff {members : List (String × Json)} :
    (∃ clause, ofJson (.object members) = .ok clause) ↔
      ∀ member ∈ members, ∃ filter, Filter.ofJson member.1 member.2 = .ok filter := by
  simp only [← exists_readMember_iff, ← Json.exists_mapM_eq_ok_iff]
  simp only [ofJson_object, Json.map_eq_ok_iff]
  constructor
  · rintro ⟨_, entries, hread, -⟩
    exact ⟨entries, hread⟩
  · rintro ⟨entries, hread⟩
    exact ⟨_, entries, hread, rfl⟩

/-- The first member that is refused. -/
def FirstRefused (members : List (String × Json)) (unsupported : Unsupported) : Prop :=
  ∃ before field value after, members = before ++ (field, value) :: after ∧
    (∀ member ∈ before, ∃ filter, Filter.ofJson member.1 member.2 = .ok filter) ∧
    Filter.ofJson field value = .error unsupported

theorem ofJson_object_eq_error_iff {members : List (String × Json)} {unsupported : Unsupported} :
    ofJson (.object members) = .error unsupported ↔ FirstRefused members unsupported := by
  rw [ofJson_object, Json.map_eq_error_iff, Json.mapM_eq_error_iff]
  simp only [exists_readMember_iff, readMember_eq_error_iff]
  simp only [FirstRefused, Prod.exists]

/-- **Which values are where-clauses, and which ones.** Null asks nothing, and what is neither null
nor an object is refused as a whole. An object is read just when each of its members is; then its
members are listed in their order, each with its filter, and otherwise the first member that is
refused is reported, whatever comes behind it. The query of a value is refused when the
where-clause is, and for the same reason. -/
theorem ofJson_members :
    ofJson .null = .ok empty ∧
      (∀ value : Json, value ≠ .null → (∀ members, value ≠ .object members) →
        ofJson value = .error ⟨"", .notAnObject value⟩) ∧
      (∀ members : List (String × Json), (∃ clause, ofJson (.object members) = .ok clause) ↔
        ∀ member ∈ members, ∃ filter, Filter.ofJson member.1 member.2 = .ok filter) ∧
      (∀ members : List (String × Json), (Entries.names members).Nodup → ∀ clause,
        ofJson (.object members) = .ok clause ↔ ListedAs members clause.toList) ∧
      (∀ (members : List (String × Json)) (unsupported : Unsupported),
        ofJson (.object members) = .error unsupported ↔ FirstRefused members unsupported) ∧
      (∀ (value : Json) (query : Query), readQuery value = .ok query ↔
        ∃ clause, ofJson value = .ok clause ∧ clause.toQuery = query) ∧
      ∀ (value : Json) (unsupported : Unsupported),
        readQuery value = .error unsupported ↔ ofJson value = .error unsupported := by
  refine ⟨rfl, ?whole, fun members => exists_ofJson_object_iff,
    fun members hnodup clause => ofJson_object_eq_ok_iff hnodup,
    fun members unsupported => ofJson_object_eq_error_iff,
    fun value query => Json.map_eq_ok_iff,
    fun value unsupported => Json.map_eq_error_iff⟩
  case whole =>
    intro value hnull hobject
    cases value with
    | null => exact absurd rfl hnull
    | object members => exact absurd rfl (hobject members)
    | _ => rfl

/-- A text and a range without bounds; a truth value between a text and a null; and a text alone. -/
theorem ofJson_members_films :
    let range : Json := .object [("type", .string "range")]
    let members : List (String × Json) := [("title", .string "Alien"), ("year", range)]
    let clause := ofList [("title", .literal (.text "Alien")), ("year", .range {})]
    (Entries.names members).Nodup ∧ ofJson (.object members) = .ok clause ∧
      ofJson (.object [("title", .string "Alien"), ("new", .bool true), ("old", .null)])
        = .error ⟨"new", .boolean⟩ ∧
      ofJson (.string "Alien") = .error ⟨"", .notAnObject (.string "Alien")⟩ := by
  intro range members clause
  have hnodup : (Entries.names members).Nodup := by decide +kernel
  have htitle : Filter.ofJson "title" (.string "Alien") = .ok (.literal (.text "Alien")) := rfl
  have hyear : Filter.ofJson "year" range = .ok (.range {}) := by decide +kernel
  have hlisted : ListedAs members clause.toList := .cons ⟨rfl, htitle⟩ (.cons ⟨rfl, hyear⟩ .nil)
  refine ⟨hnodup, (ofJson_members.2.2.2.1 members hnodup clause).mpr hlisted,
    (ofJson_members.2.2.2.2.1 _ _).mpr ?_, ofJson_members.2.1 _ (by simp) (by simp)⟩
  exact ⟨[("title", .string "Alien")], "new", .bool true, [("old", .null)], rfl,
    by simpa using ⟨_, htitle⟩, rfl⟩

end Where

end DocSearch
