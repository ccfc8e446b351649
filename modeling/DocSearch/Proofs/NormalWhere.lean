/-
Which where-clauses ask the same. Each has a normal form (`Where.normal`): ranges without bounds are
dropped and those with bounds stand behind all else, a text is compared as a literal, a fuzziness is
given, and integers are signed where that holds them. The query is the same for the normal form
(`toQuery_normal`), and what a query asks can be read off its clauses (`asks`), which gives the
normal form back (`asks_toQuery`). So queries are the same just when normal forms are, whatever the
names of fields.
-/
import DocSearch.Proofs.CallFacts
import DocSearch.Proofs.CompiledWhere
import DocSearch.Proofs.QueryFacts
import Mathlib.Data.List.Nodup

namespace DocSearch

/-! ## Normal forms -/

namespace Filter

/-- Whether the filter is a range, with or without bounds. -/
def isRange : Filter → Bool
  | .range _ => true
  | _ => false

/-- Whether the filter is a range with bounds. -/
def isBounded : Filter → Bool
  | .range options => options.isBounded
  | _ => false

theorem isRange_of_isBounded {filter : Filter} (h : filter.isBounded = true) :
    filter.isRange = true := by
  cases filter with
  | range options => rfl
  | _ => cases h

theorem isBounded_of_isRange {filter : Filter} (h : filter.isRange = false) :
    filter.isBounded = false := by
  cases filter with
  | range options => cases h
  | _ => rfl

/-- The form that stands for all filters of one meaning. -/
def normal : Filter → Filter
  | .literal value => .literal value.normal
  | .exact value => .literal (.text value)
  | .fuzzy options => .fuzzy options.withAuto
  | filter => filter

end Filter

namespace Where

/-- The filters that ask something in their normal form, ranges behind all others. -/
def normalEntries (entries : List (String × Filter)) : List (String × Filter) :=
  ((entries.filter fun entry => !entry.2.isRange)
    ++ entries.filter fun entry => entry.2.isBounded).map fun entry => (entry.1, entry.2.normal)

theorem nodup_normalEntries {entries : List (String × Filter)}
    (h : (Entries.names entries).Nodup) : (Entries.names (normalEntries entries)).Nodup := by
  have hnames : Entries.names (normalEntries entries)
      = Entries.names (entries.filter fun entry => !entry.2.isRange)
        ++ Entries.names (entries.filter fun entry => entry.2.isBounded) := by
    rw [normalEntries, List.map_append, Entries.names, List.map_append, List.map_map, List.map_map]
    rfl
  rw [hnames, List.nodup_append]
  refine ⟨?others, ?ranges, ?disjoint⟩
  case others => exact h.sublist (List.filter_sublist.map Prod.fst)
  case ranges => exact h.sublist (List.filter_sublist.map Prod.fst)
  intro name hother other hrange heq
  obtain ⟨a, ha, rfl⟩ := List.mem_map.mp hother
  obtain ⟨b, hb, rfl⟩ := List.mem_map.mp hrange
  obtain ⟨hamem, ha⟩ := List.mem_filter.mp ha
  obtain ⟨hbmem, hb⟩ := List.mem_filter.mp hb
  -- The two are one entry, which is a range and is none.
  have hab : a = b := List.inj_on_of_nodup_map h hamem hbmem heq
  rw [hab, Filter.isRange_of_isBounded hb] at ha
  cases ha

/-- The where-clause that stands for all of one meaning. -/
def normal (clause : Where) : Where where
  fields := ⟨normalEntries clause.toList, nodup_normalEntries clause.fields.nodup⟩

@[simp] theorem toList_normal (clause : Where) :
    clause.normal.toList = normalEntries clause.toList := rfl

theorem eq_of_toList {a b : Where} (h : a.toList = b.toList) : a = b := by
  have hfields : a.fields = b.fields := Fields.ext_entries h
  cases a
  cases b
  rw [Where.mk.injEq]
  exact hfields

end Where

/-! ## The query of the normal form -/

namespace Literal

theorem normal_normal (literal : Literal) : literal.normal.normal = literal.normal := by
  cases literal with
  | unsigned n =>
    by_cases hsigned : n.toNat < 9223372036854775808
    · rw [normal, if_pos hsigned, normal]
      rintro _ ⟨⟩
    · rw [normal, if_neg hsigned, normal, if_neg hsigned]
  | _ => rfl

/-- The field on which a literal is looked for: texts are compared as a whole. -/
def home (field : String) : Literal → String
  | .text _ => field ++ ".keyword"
  | _ => field

theorem home_normal (field : String) (literal : Literal) :
    literal.normal.home field = literal.home field := by
  cases literal with
  | unsigned n =>
    rw [normal]
    split <;> rfl
  | _ => rfl

end Literal

namespace Filter

theorem isRange_normal (filter : Filter) : filter.normal.isRange = filter.isRange := by
  cases filter <;> rfl

theorem isBounded_normal (filter : Filter) : filter.normal.isBounded = filter.isBounded := by
  cases filter <;> rfl

theorem normal_normal (filter : Filter) : filter.normal.normal = filter.normal := by
  cases filter with
  | literal value => rw [normal, normal, value.normal_normal]
  | _ => rfl

theorem ownClause?_literal (field : String) (value : Literal) :
    ownClause? field (.literal value) = some (.term (value.home field) value.toJson) := by
  cases value <;> rfl

theorem ownClause?_normal (field : String) (filter : Filter) :
    filter.normal.ownClause? field = filter.ownClause? field := by
  cases filter with
  | literal value =>
    rw [normal, ownClause?_literal, ownClause?_literal, value.home_normal, value.toJson_normal]
  | fuzzy options =>
    cases hfuzziness : options.fuzziness <;>
      simp [normal, ownClause?, FuzzyOptions.withAuto, Fuzziness.auto, hfuzziness]
  | _ => rfl

theorem bounded?_normal (field : String) (filter : Filter) :
    filter.normal.bounded? field = filter.bounded? field := by
  cases filter <;> rfl

/-- Only what is no range gives a clause of its own. -/
theorem ownClause?_of_isRange {filter : Filter} (h : filter.isRange = true) (field : String) :
    filter.ownClause? field = none := by
  cases filter with
  | range options => rfl
  | _ => cases h

/-- Only a range with bounds is gathered. -/
theorem bounded?_of_isBounded {filter : Filter} (h : filter.isBounded = false) (field : String) :
    filter.bounded? field = none := by
  cases filter with
  | range options =>
    have hoptions : options.isBounded = false := h
    rw [bounded?, hoptions, if_neg Bool.false_ne_true]
  | _ => rfl

end Filter

namespace Where

/-- What gives nothing may be left out before. -/
theorem filterMap_filter_of {α β : Type} {keep : α → Bool} {f : α → Option β}
    (h : ∀ a, keep a = false → f a = none) (as : List α) :
    (as.filter keep).filterMap f = as.filterMap f := by
  induction as with
  | nil => rfl
  | cons a as ih =>
    rw [List.filter_cons]
    cases hkeep : keep a with
    | true => rw [if_pos rfl, List.filterMap_cons, List.filterMap_cons, ih]
    | false =>
      rw [if_neg Bool.false_ne_true, ih, List.filterMap_cons_none (h a hkeep)]

/-- What does not depend on the form is gathered from the others first and from the ranges then. -/
theorem filterMap_normalEntries {β : Type} {f : String × Filter → Option β}
    (h : ∀ entry : String × Filter, f (entry.1, entry.2.normal) = f entry)
    (entries : List (String × Filter)) :
    (normalEntries entries).filterMap f
      = (entries.filter fun entry => !entry.2.isRange).filterMap f
        ++ (entries.filter fun entry => entry.2.isBounded).filterMap f := by
  have hnormal : (f ∘ fun entry => (entry.1, entry.2.normal)) = f := funext h
  rw [normalEntries, List.filterMap_map, hnormal, List.filterMap_append]

theorem ownClauses_normal (clause : Where) : clause.normal.ownClauses = clause.ownClauses := by
  have hothers : ((clause.toList.filter fun entry => !entry.2.isRange).filterMap
      fun entry => entry.2.ownClause? entry.1) = clause.ownClauses := by
    refine filterMap_filter_of ?_ clause.toList
    intro entry hentry
    exact Filter.ownClause?_of_isRange (by simpa using hentry) entry.1
  have hranges : ((clause.toList.filter fun entry => entry.2.isBounded).filterMap
      fun entry => entry.2.ownClause? entry.1) = [] := by
    rw [List.filterMap_eq_nil_iff]
    intro entry hentry
    have hbounds : entry.2.isBounded = true := (List.mem_filter.mp hentry).2
    exact Filter.ownClause?_of_isRange (Filter.isRange_of_isBounded hbounds) entry.1
  rw [ownClauses, toList_normal,
    filterMap_normalEntries fun entry => entry.2.ownClause?_normal entry.1, hothers, hranges,
    List.append_nil]

theorem boundedRanges_normal (clause : Where) :
    clause.normal.boundedRanges = clause.boundedRanges := by
  have hothers : ((clause.toList.filter fun entry => !entry.2.isRange).filterMap
      fun entry => entry.2.bounded? entry.1) = [] := by
    rw [List.filterMap_eq_nil_iff]
    intro entry hentry
    have hother : entry.2.isRange = false := by simpa using (List.mem_filter.mp hentry).2
    exact Filter.bounded?_of_isBounded (Filter.isBounded_of_isRange hother) entry.1
  have hranges : ((clause.toList.filter fun entry => entry.2.isBounded).filterMap
      fun entry => entry.2.bounded? entry.1) = clause.boundedRanges := by
    refine filterMap_filter_of ?_ clause.toList
    intro entry hentry
    exact Filter.bounded?_of_isBounded hentry entry.1
  rw [boundedRanges, toList_normal,
    filterMap_normalEntries fun entry => entry.2.bounded?_normal entry.1, hothers, hranges,
    List.nil_append]

/-- A normal form is its own normal form. -/
theorem normal_normal (clause : Where) : clause.normal.normal = clause.normal := by
  have hnone : ∀ filter : Filter, (!filter.isRange && filter.isBounded) = false := by
    intro filter
    cases hrange : filter.isRange with
    | true => rfl
    | false => rw [Filter.isBounded_of_isRange hrange]; rfl
  refine eq_of_toList ?_
  simp only [toList_normal, normalEntries, List.filter_map, List.filter_append, List.filter_filter,
    List.map_append, List.map_map, Function.comp_def, Filter.isRange_normal,
    Filter.isBounded_normal, Filter.normal_normal, Bool.and_self, hnone,
    Bool.and_comm (Filter.isBounded _), List.filter_false, List.map_nil, List.append_nil,
    List.nil_append]

theorem all_clauses (clause : Where) :
    clause.clauses.all = clause.ownClauses ++ clause.rangeClause := by
  rw [Clauses.all, must_clauses, ranges_clauses, rangeClause]
  by_cases h : clause.boundedRanges = [] <;> simp [Fields.isEmpty, ranges, h]

/-- The normal form has the same query. -/
theorem toQuery_normal (clause : Where) : clause.normal.toQuery = clause.toQuery := by
  have hranges : clause.normal.ranges = clause.ranges :=
    Fields.ext_entries clause.boundedRanges_normal
  rw [toQuery, toQuery, all_clauses, all_clauses, rangeClause, rangeClause, ownClauses_normal,
    boundedRanges_normal, hranges]

end Where

/-! ## What a query asks -/

/-- The field of which this is the keyword form. -/
def bareField (field : String) : String :=
  String.ofList (field.toList.take (field.toList.length - ".keyword".toList.length))

theorem bareField_keyword (field : String) : bareField (field ++ ".keyword") = field := by
  rw [bareField, String.toList_append, List.length_append, Nat.add_sub_cancel, List.take_left,
    String.ofList_toList]

/-- What a clause of a query asks of which field. -/
def Query.asks : Query → List (String × Filter)
  | .term field (.string text) => [(bareField field, .literal (.text text))]
  | .term field (.number n) => [(field, .literal (.ofNumber n))]
  | .fuzzy field options => [(field, .fuzzy options)]
  | .regexp field options => [(bareField field, .regex options)]
  | .wildcard field options => [(bareField field, .wildcard options)]
  | .range fields => fields.entries.map fun entry => (entry.1, .range entry.2)
  | .present field => [(field, .present)]
  | _ => []

namespace Literal

theorem asks_term {literal : Literal} (h : literal.IsFinite) (field : String) :
    (Query.term (literal.home field) literal.toJson).asks = [(field, .literal literal.normal)] := by
  have hread : Filter.read literal.toJson = .ok (.literal literal.normal) := read_toJson h
  cases literal with
  | text value =>
    rw [home, toJson, Query.asks, bareField_keyword]
    rfl
  | float x =>
    have hx : x.IsFinite := h
    rw [home, toJson, Json.ofDouble, dif_pos hx]
    · rfl
    · rintro _ ⟨⟩
  | integer n =>
    have hnormal : ofNumber (.ofInt64 n) = (integer n).normal :=
      Filter.literal.inj (Except.ok.inj hread)
    rw [← hnormal]
    rfl
  | unsigned n =>
    have hnormal : ofNumber (.ofUInt64 n) = (unsigned n).normal :=
      Filter.literal.inj (Except.ok.inj hread)
    rw [← hnormal]
    rfl

end Literal

namespace Filter

/-- What the clause of a filter asks is the filter in its normal form. -/
theorem asks_ownClause? {filter : Filter} (h : filter.Sendable) (field : String) :
    (filter.ownClause? field).toList.flatMap Query.asks
      = if filter.isRange then [] else [(field, filter.normal)] := by
  cases filter with
  | literal value =>
    rw [ownClause?_literal, Option.toList_some, List.flatMap_singleton,
      Literal.asks_term (isFinite_of_sendable h)]
    rfl
  | exact value =>
    rw [ownClause?, Option.toList_some, List.flatMap_singleton, Query.asks, bareField_keyword]
    rfl
  | fuzzy options => cases hfuzziness : options.fuzziness <;>
      simp [ownClause?, Query.asks, normal, isRange, FuzzyOptions.withAuto, Fuzziness.auto,
        hfuzziness]
  | regex options =>
    rw [ownClause?, Option.toList_some, List.flatMap_singleton, Query.asks, bareField_keyword]
    rfl
  | wildcard options =>
    rw [ownClause?, Option.toList_some, List.flatMap_singleton, Query.asks, bareField_keyword]
    rfl
  | range options => rfl
  | present => rfl

/-- A range that is gathered is in its normal form. -/
theorem map_bounded? (field : String) (filter : Filter) :
    (filter.bounded? field).map (fun entry => (entry.1, Filter.range entry.2))
      = if filter.isBounded then some (field, filter.normal) else none := by
  cases filter with
  | range options =>
    cases hbounds : options.isBounded <;> simp [bounded?, isBounded, normal, hbounds]
  | _ => rfl

end Filter

namespace Where

/-- The clauses ask, in order, the filters that are no ranges. -/
theorem asks_ownClauses {entries : List (String × Filter)}
    (h : ∀ entry ∈ entries, entry.2.Sendable) :
    (entries.filterMap fun entry => entry.2.ownClause? entry.1).flatMap Query.asks
      = (entries.filter fun entry => !entry.2.isRange).map
          fun entry => (entry.1, entry.2.normal) := by
  induction entries with
  | nil => rfl
  | cons entry entries ih =>
    obtain ⟨field, filter⟩ := entry
    obtain ⟨hfilter, hentries⟩ := List.forall_mem_cons.mp h
    have hfirst : (filter.ownClause? field).toList.flatMap Query.asks
        = if filter.isRange then [] else [(field, filter.normal)] :=
      Filter.asks_ownClause? hfilter field
    have hcons : ((field, filter) :: entries).filterMap (fun entry => entry.2.ownClause? entry.1)
        = (filter.ownClause? field).toList
          ++ entries.filterMap fun entry => entry.2.ownClause? entry.1 := by
      rw [List.filterMap_cons]
      cases filter.ownClause? field <;> rfl
    rw [hcons, List.flatMap_append, hfirst, ih hentries, List.filter_cons]
    cases filter.isRange <;> simp

/-- The gathered ranges are, in order, the filters with bounds. -/
theorem asks_boundedRanges (entries : List (String × Filter)) :
    (entries.filterMap fun entry => entry.2.bounded? entry.1).map
        (fun entry => (entry.1, Filter.range entry.2))
      = (entries.filter fun entry => entry.2.isBounded).map
          fun entry => (entry.1, entry.2.normal) := by
  rw [List.map_filterMap, ← List.filterMap_eq_map, List.filterMap_filter]
  refine List.filterMap_congr ?_
  intro entry _
  exact Filter.map_bounded? entry.1 entry.2

theorem asks_rangeClause (clause : Where) :
    clause.rangeClause.flatMap Query.asks
      = clause.boundedRanges.map fun entry => (entry.1, Filter.range entry.2) := by
  rw [rangeClause]
  by_cases h : clause.boundedRanges = []
  · rw [if_pos h, h]
    rfl
  · rw [if_neg h, List.flatMap_singleton]
    rfl

/-- What the clauses of a query ask is the where-clause in its normal form. -/
theorem asks_toQuery {clause : Where} (h : clause.Sendable) :
    clause.clauses.all.flatMap Query.asks = clause.normal.toList := by
  rw [all_clauses, List.flatMap_append, asks_rangeClause, ownClauses, boundedRanges,
    asks_ownClauses h, asks_boundedRanges, toList_normal, normalEntries, List.map_append]

/-! ## What is sent -/

/-- Every weight has a JSON form. -/
def FiniteBoosts (clause : Where) : Prop := ∀ entry ∈ clause.toList, entry.2.FiniteBoost

instance (clause : Where) : Decidable clause.FiniteBoosts :=
  inferInstanceAs (Decidable (∀ entry ∈ clause.toList, entry.2.FiniteBoost))

theorem leaf_ownClause? {filter : Filter} (h : filter.FiniteBoost) {field : String} {query : Query}
    (hquery : filter.ownClause? field = some query) : query.Leaf := by
  cases filter with
  | literal value =>
    rw [Filter.ownClause?_literal] at hquery
    cases hquery
    exact .term _ _
  | range options => cases hquery
  | exact value => cases hquery; exact .term _ _
  | fuzzy options => cases hquery; exact .fuzzy _ _
  | regex options => cases hquery; exact .regexp _ _
  | wildcard options => cases hquery; exact .wildcard _ h
  | present => cases hquery; exact .present _

theorem finiteBoost_bounded? {filter : Filter} (h : filter.FiniteBoost) {field : String}
    {range : String × RangeOptions} (hrange : filter.bounded? field = some range) :
    FiniteBoost range.2.boost := by
  cases filter with
  | range options =>
    rw [Filter.bounded?] at hrange
    split at hrange
    · cases hrange
      exact h
    · cases hrange
  | _ => cases hrange

/-- The clauses of a query hold no others. -/
theorem leaf_of_mem_all {clause : Where} (h : clause.FiniteBoosts) :
    ∀ query ∈ clause.clauses.all, query.Leaf := by
  intro query hquery
  rw [all_clauses, List.mem_append] at hquery
  rcases hquery with hown | hrange
  · obtain ⟨entry, hentry, hsome⟩ := List.mem_filterMap.mp hown
    exact leaf_ownClause? (h entry hentry) hsome
  · have hquery : query = .range clause.ranges := by
      rw [rangeClause] at hrange
      split at hrange
      · cases hrange
      · exact List.mem_singleton.mp hrange
    rw [hquery]
    refine .range ?_
    intro range hmem
    obtain ⟨entry, hentry, hsome⟩ := List.mem_filterMap.mp hmem
    exact finiteBoost_bounded? (h entry hentry) hsome

/-- A where-clause with clauses is asked for as it is. -/
theorem orMatchAll_toQuery {clause : Where} (h : clause.clauses.all ≠ []) :
    clause.toQuery.orMatchAll = clause.toQuery := by
  rw [toQuery]
  cases hall : clause.clauses.all with
  | nil => exact absurd hall h
  | cons first rest => rfl

theorem toJson_toQuery (clause : Where) :
    clause.toQuery.toJson
      = .single "bool" (.single "must" (.array (clause.clauses.all.map Query.toJson))) := by
  rw [toQuery, Query.toJson, Query.listToJson_eq_map]
  rfl

/-- What is written for a query tells its clauses. -/
theorem all_eq_of_toJson {a b : Where} (ha : a.FiniteBoosts) (hb : b.FiniteBoosts)
    (h : a.toQuery.toJson = b.toQuery.toJson) : a.clauses.all = b.clauses.all := by
  rw [toJson_toQuery, toJson_toQuery] at h
  have hmap : a.clauses.all.map Query.toJson = b.clauses.all.map Query.toJson := by
    simpa [Json.single] using h
  refine eq_of_map_eq ?_ hmap
  intro p hp q hq
  exact (leaf_of_mem_all ha p hp).eq_of_toJson (leaf_of_mem_all hb q hq)

/-- **Where-clauses that ask the same.** Of two where-clauses that can be sent, with finite weights,
the same is sent just when they have the same normal form. -/
theorem toJson_toQuery_eq_iff {a b : Where} (ha : a.validate = .ok ()) (hb : b.validate = .ok ())
    (hboosta : a.FiniteBoosts) (hboostb : b.FiniteBoosts) :
    a.toQuery.toJson = b.toQuery.toJson ↔ a.normal = b.normal := by
  constructor
  · intro h
    have hall : a.clauses.all = b.clauses.all := all_eq_of_toJson hboosta hboostb h
    refine eq_of_toList ?_
    rw [← asks_toQuery (sendable_of_validate ha), ← asks_toQuery (sendable_of_validate hb), hall]
  · intro h
    rw [← toQuery_normal a, ← toQuery_normal b, h]

/-- The same is sent for two where-clauses that differ in form only, and not for two of which one
asks for a text and the other, of the field where that text stands as a whole, for a number. -/
theorem toJson_toQuery_eq_iff_films :
    let first := ofList
      [("year", .range { gte := some (.ofUInt8 90) }), ("title", .exact "first"),
        ("rank", .literal (.unsigned 3)), ("genre", .fuzzy { value := "drama" }),
        ("note", .range {})]
    let second := ofList
      [("title", .literal (.text "first")), ("rank", .literal (.integer 3)),
        ("genre", .fuzzy { value := "drama", fuzziness := some .auto }),
        ("year", .range { gte := some (.ofUInt8 90) })]
    let text := ofList [("rank", .literal (.text "3"))]
    let number := ofList [("rank.keyword", .literal (.integer 3))]
    first.toQuery.toJson = second.toQuery.toJson ∧ text.toQuery.toJson ≠ number.toQuery.toJson := by
  refine ⟨?_, ?_⟩
  · refine (toJson_toQuery_eq_iff (by decide +kernel) (by decide +kernel) (by decide +kernel)
      (by decide +kernel)).mpr ?_
    decide +kernel
  · intro h
    have hnormal := (toJson_toQuery_eq_iff (by decide +kernel) (by decide +kernel)
      (by decide +kernel) (by decide +kernel)).mp h
    revert hnormal
    decide +kernel

end Where

end DocSearch
