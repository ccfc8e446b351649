/-
The query of a where-clause, field by field: what is not a range gives a clause
of its own, in the order of the fields, and the ranges with bounds stand
together in one clause at the end.

That no range takes the place of another one is due to the names: those of a
where-clause differ, so a range that is gathered never has a name that stands
among the gathered ones already (`foldl_add`).
-/
import DocSearch.Proofs.FilterFacts
import DocSearch.Query.Clauses

namespace DocSearch

/-- The clause that the filter of a field gives on its own, ranges apart. A double without JSON form
stands in it as null. -/
def Filter.ownClause? (field : String) : Filter → Option Query
  | .literal (.text value) | .exact value => some (.term (field ++ ".keyword") (.string value))
  | .literal (.integer n) => some (.term field (.ofInt64 n))
  | .literal (.unsigned n) => some (.term field (.ofUInt64 n))
  | .literal (.float x) => some (.term field (.ofDouble x))
  | .fuzzy options =>
    some (.fuzzy field
      { options with fuzziness := options.fuzziness <|> some (.expression "AUTO") })
  | .regex options => some (.regexp (field ++ ".keyword") options)
  | .wildcard options => some (.wildcard (field ++ ".keyword") options)
  | .present => some (.present field)
  | .range _ => none

/-- The filter of a field as a range with bounds. -/
def Filter.bounded? (field : String) : Filter → Option (String × RangeOptions)
  | .range options => if options.isBounded then some (field, options) else none
  | _ => none

/-- A range without bounds, which asks nothing. -/
def Filter.isVoid : Filter → Bool
  | .range options => !options.isBounded
  | _ => false

/-! ## One field -/

/-- A filter gives a clause of its own, or it is a range with bounds, or it asks nothing. -/
theorem Filter.one_part (field : String) (filter : Filter) :
    (∃ query, filter.ownClause? field = some query ∧ filter.bounded? field = none
        ∧ filter.isVoid = false) ∨
      (∃ range, filter.ownClause? field = none ∧ filter.bounded? field = some range
        ∧ filter.isVoid = false) ∨
      (filter.ownClause? field = none ∧ filter.bounded? field = none ∧ filter.isVoid = true) := by
  cases filter with
  | literal value => cases value <;> exact .inl ⟨_, rfl, rfl, rfl⟩
  | range options =>
    cases h : options.isBounded with
    | true => exact .inr (.inl ⟨(field, options), rfl, by simp [bounded?, h], by simp [isVoid, h]⟩)
    | false => exact .inr (.inr ⟨rfl, by simp [bounded?, h], by simp [isVoid, h]⟩)
  | _ => exact .inl ⟨_, rfl, rfl, rfl⟩

namespace Clauses

theorem must_add (clauses : Clauses) (field : String) (filter : Filter) :
    (clauses.add field filter).must = clauses.must ++ (filter.ownClause? field).toList := by
  cases filter with
  | literal value => cases value <;> rfl
  | fuzzy options => cases h : options.fuzziness <;> simp [add, push, Filter.ownClause?,
      FuzzyOptions.withAuto, Fuzziness.auto, h]
  | range options =>
    simp only [add]
    split <;> simp [Filter.ownClause?]
  | _ => rfl

/-- A range with bounds comes behind the others when its field is new among them. -/
theorem ranges_add {clauses : Clauses} {field : String} (filter : Filter)
    (h : field ∉ clauses.ranges.names) :
    (clauses.add field filter).ranges.entries
      = clauses.ranges.entries ++ (filter.bounded? field).toList := by
  cases filter with
  | literal value => cases value <;> simp [add, push, Filter.bounded?]
  | range options =>
    simp only [add, Filter.bounded?, RangeOptions.hasBounds_eq]
    split
    · simp only [Fields.entries_insert, Option.toList_some]
      exact Entries.names_set_of_not_mem options h
    · simp
  | _ => simp [add, push, Filter.bounded?]

theorem names_bounded? {field : String} {filter : Filter} {entry : String × RangeOptions}
    (h : filter.bounded? field = some entry) : entry.1 = field := by
  cases filter with
  | range options =>
    simp only [Filter.bounded?] at h
    split at h
    · cases h; rfl
    · cases h
  | _ => cases h

/-! ## All fields -/

/-- What the fields give behind what was there before, their names being new and different. -/
theorem foldl_add (entries : List (String × Filter)) (clauses : Clauses)
    (hn : (Entries.names entries).Nodup)
    (hd : ∀ name ∈ Entries.names entries, name ∉ clauses.ranges.names) :
    (entries.foldl (fun acc entry => acc.add entry.1 entry.2) clauses).must
        = clauses.must ++ entries.filterMap (fun entry => entry.2.ownClause? entry.1) ∧
      (entries.foldl (fun acc entry => acc.add entry.1 entry.2) clauses).ranges.entries
        = clauses.ranges.entries ++ entries.filterMap (fun entry => entry.2.bounded? entry.1) := by
  induction entries generalizing clauses with
  | nil => simp
  | cons entry entries ih =>
    obtain ⟨field, filter⟩ := entry
    simp only [Entries.names_cons, List.nodup_cons] at hn
    have hnew : field ∉ clauses.ranges.names := hd field (by simp)
    have hranges := ranges_add filter hnew
    -- The names gathered so far grow by this field at most, which none of the others has.
    have hrest : ∀ name ∈ Entries.names entries,
        name ∉ (clauses.add field filter).ranges.names := by
      intro name hname hmem
      simp only [Fields.names, Entries.names, hranges, List.map_append, List.mem_append] at hmem
      rcases hmem with hmem | hmem
      · exact hd name (by simp [hname]) hmem
      · simp only [List.mem_map, Option.mem_toList] at hmem
        obtain ⟨gathered, hg, rfl⟩ := hmem
        exact hn.1 (names_bounded? hg ▸ hname)
    obtain ⟨hmust, hgathered⟩ := ih (clauses.add field filter) hn.2 hrest
    simp only [List.foldl_cons]
    refine ⟨?_, ?_⟩
    · rw [hmust, must_add]
      cases h : filter.ownClause? field <;> simp [h]
    · rw [hgathered, hranges]
      cases h : filter.bounded? field <;> simp [h]

end Clauses

/-! ## Where-clauses -/

namespace Where

/-- The clauses of the fields that are no ranges, in order. -/
def ownClauses (clause : Where) : List Query :=
  clause.toList.filterMap fun entry => entry.2.ownClause? entry.1

/-- The ranges with bounds, in order. -/
def boundedRanges (clause : Where) : List (String × RangeOptions) :=
  clause.toList.filterMap fun entry => entry.2.bounded? entry.1

theorem names_boundedRanges_sublist (entries : List (String × Filter)) :
    (Entries.names (entries.filterMap fun entry => entry.2.bounded? entry.1)).Sublist
      (Entries.names entries) := by
  induction entries with
  | nil => simp
  | cons entry entries ih =>
    rw [List.filterMap_cons]
    split
    · exact ih.cons entry.1
    · next gathered h =>
      rw [Entries.names_cons, Entries.names_cons, Clauses.names_bounded? h]
      exact ih.cons_cons entry.1

/-- The ranges with bounds, whose names differ. -/
def ranges (clause : Where) : Fields RangeOptions where
  entries := clause.boundedRanges
  nodup := (names_boundedRanges_sublist clause.toList).nodup clause.fields.nodup

/-- One clause for all ranges with bounds, if there are any. -/
def rangeClause (clause : Where) : List Query :=
  if clause.boundedRanges = [] then [] else [.range clause.ranges]

theorem must_clauses (clause : Where) : clause.clauses.must = clause.ownClauses := by
  have h := (Clauses.foldl_add clause.toList {} clause.fields.nodup (by simp [Fields.names])).1
  simpa [clauses, ownClauses] using h

theorem ranges_clauses (clause : Where) : clause.clauses.ranges = clause.ranges := by
  have h := (Clauses.foldl_add clause.toList {} clause.fields.nodup (by simp [Fields.names])).2
  exact Fields.ext_entries (by simpa [clauses, ranges, boundedRanges] using h)

/-- The filters of fields are as many as the clauses of their own, the ranges with bounds and the
ranges without bounds together. -/
theorem length_parts (entries : List (String × Filter)) :
    (entries.filterMap fun entry => entry.2.ownClause? entry.1).length
        + (entries.filterMap fun entry => entry.2.bounded? entry.1).length
        + (entries.filter fun entry => entry.2.isVoid).length = entries.length := by
  induction entries with
  | nil => rfl
  | cons entry entries ih =>
    obtain ⟨field, filter⟩ := entry
    rcases filter.one_part field with ⟨query, ho, hb, hv⟩ | ⟨range, ho, hb, hv⟩ | ⟨ho, hb, hv⟩ <;>
      simp only [List.filterMap_cons, List.filter_cons, ho, hb, hv, List.length_cons, ite_true,
        Bool.false_eq_true, ite_false] <;>
      omega

/-- **The query of a where-clause**, however the clause was built: a bool condition whose `must`
holds the clauses of the fields that are no ranges, in order, and at the end one clause with every
range that has bounds, in order, if there is such a range. Nothing is lost on the way and nothing
stands twice: the clauses, the ranges gathered and the ranges without bounds are together as many as
the fields. -/
theorem toQuery_eq (clause : Where) :
    clause.toQuery = .bool (clause.ownClauses ++ clause.rangeClause) [] [] [] ∧
      clause.ownClauses.length + clause.ranges.size
        + (clause.toList.filter fun entry => entry.2.isVoid).length = clause.size := by
  refine ⟨?_, length_parts clause.toList⟩
  rw [toQuery, Clauses.all, must_clauses, ranges_clauses]
  by_cases h : clause.boundedRanges = [] <;> simp [Fields.isEmpty, ranges, rangeClause, h]

end Where

end DocSearch
