/-
What becomes of the doubles of a search that is sent. The double of a filter, which is its literal
or its weight, stands at one place in the body: in the clause that the filter gives, and for a
range in the clause that gathers the ranges. Of the two only literals are checked before anything is
sent, so a weight may be infinite or NaN, and then null stands at its place.

What stands at a place is followed from the body down to the double (`Json.OnlyAt`). An object may
have several members of one name, so at each object on the way the names have to differ.
-/
import DocSearch.Proofs.AcceptedWhere

namespace DocSearch

/-! ## The one value at a place -/

namespace Json

theorem nodup_names_present {rows : List (String × Option Json)}
    (h : (Entries.names rows).Nodup) : (Entries.names (present rows)).Nodup := by
  induction rows with
  | nil => exact h
  | cons row rows ih =>
    obtain ⟨name, value?⟩ := row
    obtain ⟨hnew, hrows⟩ := List.nodup_cons.mp h
    cases value? with
    | none => exact ih hrows
    | some value => exact List.nodup_cons.mpr ⟨mt mem_names_of_mem_present hnew, ih hrows⟩

/-- At the end of the path stands this part, and no other. -/
def OnlyAt (value : Json) (path : List Place) (part : Json) : Prop :=
  ∀ other, value.At path other ↔ other = part

theorem OnlyAt.here (value : Json) : value.OnlyAt [] value := by
  intro other
  constructor
  · rintro ⟨⟩
    rfl
  · rintro rfl
    exact .here other

theorem OnlyAt.item {items : List Json} {i : Nat} {value part : Json} {path : List Place}
    (hitem : items[i]? = some value) (h : value.OnlyAt path part) :
    (Json.array items).OnlyAt (.item i :: path) part := by
  intro other
  rw [← h other]
  constructor
  · intro hat
    cases hat with
    | item hother hpath =>
      obtain rfl := Option.some.inj (hitem.symm.trans hother)
      exact hpath
  · exact .item hitem

theorem OnlyAt.member {members : List (String × Json)} {name : String} {value part : Json}
    {path : List Place} (hnodup : (Entries.names members).Nodup) (hmember : (name, value) ∈ members)
    (h : value.OnlyAt path part) : (Json.object members).OnlyAt (.member name :: path) part := by
  intro other
  rw [← h other]
  constructor
  · intro hat
    cases hat with
    | member hother hpath =>
      have hsame := List.inj_on_of_nodup_map hnodup hmember hother rfl
      cases hsame
      exact hpath
  · exact .member hmember

theorem OnlyAt.single {name : String} {value part : Json} {path : List Place}
    (h : value.OnlyAt path part) : (Json.single name value).OnlyAt (.member name :: path) part :=
  .member (by simp [Entries.names]) (by simp) h

theorem OnlyAt.present {rows : List (String × Option Json)} {name : String} {value part : Json}
    {path : List Place} (hnodup : (Entries.names rows).Nodup) (hrow : (name, some value) ∈ rows)
    (h : value.OnlyAt path part) :
    (Json.object (present rows)).OnlyAt (.member name :: path) part :=
  .member (nodup_names_present hnodup) (mem_present_iff.mpr hrow) h

end Json

open Json (Place OnlyAt)

/-! ## The double of a filter -/

namespace Filter

/-- The double of a filter: its literal or its weight. -/
def double? : Filter → Option Double
  | .literal (.float x) => some x
  | .wildcard options => options.boost
  | .range options => options.boost
  | _ => none

/-- The way from the clause of a filter to its double. -/
def doublePath (field : String) : Filter → List Place
  | .wildcard _ => [.member "wildcard", .member (field ++ ".keyword"), .member "boost"]
  | .range _ => [.member "range", .member field, .member "boost"]
  | _ => [.member "match", .member field]

end Filter

theorem WildcardOptions.onlyAt_boost {options : WildcardOptions} {x : Double}
    (h : options.boost = some x) :
    options.toJson.OnlyAt [.member "boost"] (.ofDouble x) := by
  rw [toJson, members_eq]
  exact .present (by simp [rows]) (by simp [rows, h]) (.here _)

theorem RangeOptions.onlyAt_boost {options : RangeOptions} {x : Double}
    (h : options.boost = some x) :
    options.toJson.OnlyAt [.member "boost"] (.ofDouble x) := by
  rw [toJson, members_eq]
  exact .present (by simp [rows]) (by simp [rows, h]) (.here _)

namespace Where

/-- A range with bounds stands under its field in the clause that gathers the ranges. -/
theorem onlyAt_ranges {clause : Where} {field : String} {options : RangeOptions}
    (h : (field, options) ∈ clause.boundedRanges) {path : List Place} {part : Json}
    (hpart : options.toJson.OnlyAt path part) :
    (Query.range clause.ranges).toJson.OnlyAt (.member "range" :: .member field :: path) part := by
  have hnodup : (Entries.names (clause.ranges.entries.map fun entry =>
      (entry.1, entry.2.toJson))).Nodup := by
    simpa [Entries.names, Function.comp_def] using clause.ranges.nodup
  rw [Query.toJson]
  exact .single (.member hnodup (List.mem_map_of_mem h) hpart)

/-- Some clause holds the double of a filter, unless the filter asks nothing. -/
theorem exists_clause_of_double? {clause : Where} {field : String} {filter : Filter}
    (hfilter : (field, filter) ∈ clause.toList) (hvoid : filter.isVoid = false) {x : Double}
    (hx : filter.double? = some x) :
    ∃ query ∈ clause.clauses.all, query.toJson.OnlyAt (filter.doublePath field) (.ofDouble x) := by
  have hown {query : Query} (h : filter.ownClause? field = some query) :
      query ∈ clause.clauses.all := by
    rw [all_clauses, List.mem_append]
    exact .inl (List.mem_filterMap.mpr ⟨(field, filter), hfilter, h⟩)
  cases filter with
  | literal value =>
    cases value with
    | float y =>
      cases hx
      exact ⟨_, hown rfl, .single (.single (.here _))⟩
    | _ => cases hx
  | wildcard options =>
    exact ⟨_, hown rfl, .single (.single (WildcardOptions.onlyAt_boost hx))⟩
  | range options =>
    have hbounds : (Filter.range options).bounded? field = some (field, options) := by
      simpa [Filter.isVoid, Filter.bounded?] using hvoid
    have hrange : (field, options) ∈ clause.boundedRanges :=
      List.mem_filterMap.mpr ⟨(field, .range options), hfilter, hbounds⟩
    refine ⟨.range clause.ranges, ?_, onlyAt_ranges hrange (RangeOptions.onlyAt_boost hx)⟩
    rw [all_clauses, rangeClause, if_neg (List.ne_nil_of_mem hrange)]
    simp
  | _ => cases hx

end Where

namespace Search

/-- The way from the body of a search to one of its clauses. -/
def clausePath (clause : Nat) : List Place :=
  [.member "query", .member "bool", .member "must", .item clause]

/-- Where a clause stands in the body of a search. -/
theorem onlyAt_clause {wanted : Search} {query : Query}
    (hquery : query ∈ wanted.filters.clauses.all) :
    ∃ i, ∀ {path : List Place} {part : Json}, query.toJson.OnlyAt path part →
      (Call.searchBody wanted).OnlyAt (clausePath i ++ path) part := by
  have hasked : wanted.filters.toQuery.orMatchAll = wanted.filters.toQuery :=
    Where.orMatchAll_toQuery (List.ne_nil_of_mem hquery)
  have hbody : Call.searchBody wanted = .object (Json.present
      [("from", wanted.offset.map Json.ofUInt64), ("size", wanted.limit.map Json.ofUInt64),
        ("query", some wanted.filters.toQuery.toJson)]) := by
    simp [Call.searchBody, hasked, Json.present, Json.optional]
  obtain ⟨i, hi⟩ := List.mem_iff_getElem?.mp hquery
  refine ⟨i, fun {path part} hpart => ?_⟩
  have hitem : (wanted.filters.clauses.all.map Query.toJson)[i]? = some query.toJson := by
    rw [List.getElem?_map, hi]
    rfl
  have hclauses : wanted.filters.toQuery.toJson.OnlyAt
      (.member "bool" :: .member "must" :: .item i :: path) part := by
    rw [Where.toJson_toQuery]
    exact .single (.single (.item hitem hpart))
  rw [hbody]
  exact .present (by simp) (by simp) hclauses

theorem eq_searchBody {wanted : Search} {body : Json} (h : wanted.toJson = .ok body) :
    wanted.filters.Sendable ∧ body = Call.searchBody wanted := by
  obtain ⟨_, hvalid, hbody⟩ := Json.bind_eq_ok_iff.mp h
  exact ⟨Where.sendable_of_validate hvalid, (Except.ok.inj hbody).symm⟩

/-- **What becomes of the doubles of a search** that is sent. The literal or the weight of each filter
that asks something stands at one place in the body, as a number if it is finite and else as null.
A literal is finite, so null stands for weights only. -/
theorem onlyAt_double {wanted : Search} {body : Json} (h : wanted.toJson = .ok body)
    {field : String} {filter : Filter} (hfilter : (field, filter) ∈ wanted.filters.toList)
    (hvoid : filter.isVoid = false) {x : Double} (hx : filter.double? = some x) :
    ∃ i, (∀ finite : x.IsFinite, body.OnlyAt (clausePath i ++ filter.doublePath field)
        (.number (.float ⟨x, finite⟩))) ∧
      (¬ x.IsFinite → body.OnlyAt (clausePath i ++ filter.doublePath field) .null ∧
        ∀ value, filter ≠ .literal value) := by
  obtain ⟨hsendable, rfl⟩ := eq_searchBody h
  obtain ⟨query, hquery, hdouble⟩ := Where.exists_clause_of_double? hfilter hvoid hx
  obtain ⟨i, hclause⟩ := onlyAt_clause hquery
  have hplace := hclause hdouble
  refine ⟨i, fun hfinite => ?_, fun hnot => ⟨?_, ?_⟩⟩
  · rwa [Json.ofDouble, dif_pos hfinite] at hplace
  · rwa [Json.ofDouble, dif_neg hnot] at hplace
  · rintro value rfl
    cases value with
    | float y =>
      cases hx
      exact hnot (hsendable _ hfilter x rfl)
    | _ => cases hx

/-- A search for a finite literal, a pattern whose weight is NaN and a range with a finite weight. -/
theorem onlyAt_double_films :
    let wanted : Search :=
      { filters := Where.ofList
          [("score", .literal (.float (.ofInt 2))),
            ("year", .range { gte := some (.ofUInt8 90), boost := some (.ofInt 3) }),
            ("title", .wildcard { value := "a*", boost := some .nan })],
        limit := some 10 }
    ∃ body, wanted.toJson = .ok body ∧
      (∃ i finite, body.OnlyAt (clausePath i ++ [.member "match", .member "score"])
        (.number (.float ⟨.ofInt 2, finite⟩))) ∧
      (∃ i finite, body.OnlyAt
        (clausePath i ++ [.member "range", .member "year", .member "boost"])
        (.number (.float ⟨.ofInt 3, finite⟩))) ∧
      ∃ i, body.OnlyAt
        (clausePath i ++ [.member "wildcard", .member "title.keyword", .member "boost"])
        .null := by
  intro wanted
  have hvalid : wanted.filters.validate = .ok () := by decide +kernel
  have hbody : wanted.toJson = .ok (Call.searchBody wanted) := by
    rw [toJson, hvalid]
    rfl
  have hscore : ("score", .literal (.float (.ofInt 2))) ∈ wanted.filters.toList := by
    decide +kernel
  have hyear : ("year", .range { gte := some (.ofUInt8 90), boost := some (.ofInt 3) })
      ∈ wanted.filters.toList := by
    decide +kernel
  have htitle : ("title", .wildcard { value := "a*", boost := some .nan })
      ∈ wanted.filters.toList := by
    decide +kernel
  have htwo : (Double.ofInt 2).IsFinite := by decide +kernel
  have hthree : (Double.ofInt 3).IsFinite := by decide +kernel
  have hnan : ¬ Double.nan.IsFinite := by decide +kernel
  obtain ⟨i, hliteral, -⟩ := onlyAt_double hbody hscore rfl rfl
  obtain ⟨j, hrange, -⟩ := onlyAt_double hbody hyear rfl rfl
  obtain ⟨k, -, hwildcard⟩ := onlyAt_double hbody htitle rfl rfl
  exact ⟨_, hbody, ⟨i, htwo, hliteral htwo⟩, ⟨j, hthree, hrange hthree⟩, k, (hwildcard hnan).1⟩

/-- A pattern whose weight is NaN is sent, with null for the weight. -/
theorem toJson_nan_boost :
    let wanted : Search :=
      { filters := Where.ofList [("w", .wildcard { value := "x", boost := some .nan })] }
    wanted.toJson = .ok (.single "query" (.single "bool" (.single "must" (.array
      [.single "wildcard" (.single "w.keyword"
        (.object [("value", .string "x"), ("boost", .null)]))])))) := by
  decide +kernel

end Search

end DocSearch
