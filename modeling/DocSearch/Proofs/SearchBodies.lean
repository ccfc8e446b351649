/-
The body of a search, said by what was asked of the fields one after the other. Of a field counts
what was asked of it last, and the fields stand in the order in which they were first asked about
(`Entries.current_iff_mem_latest`, `Entries.pairwise_idxOf_latest`).

Two facts on the where-clause carry the rest. The filter that is refused is the first of those that
count and cannot be sent, and it is found by its place in that order (`firstUnsendable_iff`). And a
where-clause gives no clause at all just when each of its filters is a range without bounds
(`all_eq_nil_iff`), which is the only case in which every document is asked for.
-/
import DocSearch.Proofs.LatestEntries
import DocSearch.Proofs.SentDoubles

namespace DocSearch

/-! ## What came last, and what came first -/

namespace Entries

variable {α : Type}

/-- The value came last under the name. -/
def Current (entries : List (String × α)) (name : String) (value : α) : Prop :=
  ∃ before after, entries = before ++ (name, value) :: after ∧ name ∉ names after

theorem current_iff_mem_latest {entries : List (String × α)} {name : String} {value : α} :
    Current entries name value ↔ (name, value) ∈ latest entries := by
  rw [mem_latest_iff, List.lookup_eq_some_iff]
  constructor
  · rintro ⟨before, after, rfl, hnew⟩
    refine ⟨after.reverse, before.reverse, by simp, fun entry hentry => ?_⟩
    have hne := name_ne_of_mem hnew (List.mem_reverse.mp hentry)
    simpa using hne.symm
  · rintro ⟨after, before, hsplit, hnew⟩
    refine ⟨before.reverse, after.reverse, ?_, ?_⟩
    · have hback := congrArg List.reverse hsplit
      simpa using hback
    · intro hmem
      obtain ⟨entry, hentry, rfl⟩ := List.mem_map.mp hmem
      simpa using hnew entry (List.mem_reverse.mp hentry)

/-- The last entry counts, and of the others those under another name. -/
theorem current_concat_iff {entries : List (String × α)} {last name : String} {latter value : α} :
    Current (entries ++ [(last, latter)]) name value ↔
      name = last ∧ value = latter ∨ name ≠ last ∧ Current entries name value := by
  rw [current_iff_mem_latest, current_iff_mem_latest, mem_latest_iff, mem_latest_iff,
    List.reverse_append, List.reverse_singleton, List.singleton_append, List.lookup_cons]
  by_cases hname : name = last
  · simp [hname, eq_comm]
  · simp [hname, beq_eq_false_iff_ne.mpr hname]

/-- Words without their repeats stand in the order in which they first came. -/
theorem pairwise_idxOf_eraseDups (words : List String) :
    words.eraseDups.Pairwise fun a b => words.idxOf a < words.idxOf b := by
  induction words using List.reverseRecOn with
  | nil => simp
  | append_singleton words word ih =>
    have hold : ∀ a ∈ words.eraseDups, (words ++ [word]).idxOf a = words.idxOf a := by
      intro a ha
      exact List.idxOf_append_of_mem (List.mem_eraseDups.mp ha)
    have hkept : words.eraseDups.Pairwise fun a b =>
        (words ++ [word]).idxOf a < (words ++ [word]).idxOf b :=
      ih.imp_of_mem fun ha hb hlt => by rwa [hold _ ha, hold _ hb]
    rw [List.eraseDups_append, List.pairwise_append]
    refine ⟨hkept, ?_, fun a ha b hb => ?_⟩
    · by_cases h : word ∈ words <;> simp [List.removeAll, h, List.eraseDups_cons]
    · -- The last word is new among the others, or it would have been dropped.
      have hb : b = word ∧ word ∉ words := by
        by_cases h : word ∈ words
        · simp [List.removeAll, h] at hb
        · simpa [List.removeAll, h, List.eraseDups_cons] using hb
      obtain ⟨rfl, hnew⟩ := hb
      have hlt : words.idxOf a < words.length :=
        List.idxOf_lt_length_of_mem (List.mem_eraseDups.mp ha)
      rw [hold a ha, List.idxOf_append_of_notMem hnew]
      omega

theorem pairwise_idxOf_latest (entries : List (String × α)) :
    (latest entries).Pairwise fun a b =>
      (names entries).idxOf a.1 < (names entries).idxOf b.1 := by
  have h : ((latest entries).map Prod.fst).Pairwise fun a b =>
      (names entries).idxOf a < (names entries).idxOf b := by
    rw [← names, names_latest]
    exact pairwise_idxOf_eraseDups (names entries)
  rwa [List.pairwise_map] at h

end Entries

/-! ## Where-clauses -/

namespace Filter

/-- A range none of whose bounds is given. -/
def Unbounded (filter : Filter) : Prop :=
  ∃ options, filter = .range options ∧ ∀ bound ∈ options.bounds, bound = none

theorem isVoid_iff {filter : Filter} : filter.isVoid = true ↔ filter.Unbounded := by
  cases filter with
  | range options =>
    simp [isVoid, RangeOptions.isBounded, Unbounded, RangeOptions.bounds]
  | _ => simp [isVoid, Unbounded]

end Filter

namespace Where

/-- In the end a number without JSON form is asked of a field. -/
def NonFinite (asked : List (String × Filter)) (field : String) (x : Double) : Prop :=
  Entries.Current asked field (.literal (.float x)) ∧ ¬ x.IsFinite

theorem firstUnsendable_iff {clause : Where} {asked : List (String × Filter)}
    (hasked : clause.toList = Entries.latest asked) {field : String} {x : Double} :
    clause.FirstUnsendable field x ↔ NonFinite asked field x ∧ ∀ other y, NonFinite asked other y →
      (Entries.names asked).idxOf field ≤ (Entries.names asked).idxOf other := by
  have horder := Entries.pairwise_idxOf_latest asked
  simp only [FirstUnsendable, NonFinite, Entries.current_iff_mem_latest, hasked]
  constructor
  · rintro ⟨before, after, hlist, hbefore, hx⟩
    rw [hlist] at horder ⊢
    refine ⟨⟨by simp, hx⟩, fun other y ⟨hother, hy⟩ => ?_⟩
    rcases List.mem_append.mp hother with hmem | hmem
    · exact absurd (hbefore _ hmem y rfl) hy
    · rcases List.mem_cons.mp hmem with hsame | hmem
      · rw [(Prod.mk.inj hsame).1]
      · have hlater := (List.pairwise_cons.mp (List.pairwise_append.mp horder).2.1).1 _ hmem
        exact Nat.le_of_lt hlater
  · rintro ⟨⟨hmem, hx⟩, hfirst⟩
    obtain ⟨before, after, hlist⟩ := List.append_of_mem hmem
    refine ⟨before, after, hlist, fun entry hentry y hy => ?_, hx⟩
    by_contra hfinite
    have hcurrent : (entry.1, .literal (.float y)) ∈ Entries.latest asked := by
      rw [hlist, ← hy]
      exact List.mem_append_left _ hentry
    have hle := hfirst entry.1 y ⟨hcurrent, hfinite⟩
    rw [hlist] at horder
    have hlt := (List.pairwise_append.mp horder).2.2 entry hentry _ List.mem_cons_self
    exact absurd hle (Nat.not_le.mpr hlt)

/-- Nothing is to be matched just when every filter is a range without bounds. -/
theorem all_eq_nil_iff {clause : Where} :
    clause.clauses.all = [] ↔ ∀ entry ∈ clause.toList, entry.2.Unbounded := by
  have hcount := (toQuery_eq clause).2
  have hparts : clause.clauses.all = [] ↔
      clause.ownClauses.length = 0 ∧ clause.ranges.size = 0 := by
    rw [all_clauses, List.append_eq_nil_iff, List.length_eq_zero_iff, Fields.size, ranges,
      List.length_eq_zero_iff, rangeClause]
    by_cases h : clause.boundedRanges = [] <;> simp [h]
  have hvoid : (∀ entry ∈ clause.toList, entry.2.Unbounded) ↔
      (clause.toList.filter fun entry => entry.2.isVoid).length = clause.size := by
    simp only [← Filter.isVoid_iff]
    exact List.length_filter_eq_length_iff.symm
  rw [hparts, hvoid]
  omega

end Where

/-! ## Searches -/

namespace Search

/-- Adds filters one after the other. -/
def filterAll (wanted : Search) (added : List (String × Filter)) : Search :=
  added.foldl (fun acc entry => acc.filter entry.1 entry.2) wanted

/-- Filters that are added count as if they had been given behind the others. -/
theorem filterAll_ofList (given added : List (String × Filter)) (limit offset : Option UInt64) :
    filterAll { filters := .ofList given, limit, offset } added
      = { filters := .ofList (given ++ added), limit, offset } := by
  induction added generalizing given with
  | nil => rw [List.append_nil]; rfl
  | cons entry added ih =>
    have hfilter : filter { filters := .ofList given, limit, offset } entry.1 entry.2
        = { filters := .ofList (given ++ [entry]), limit, offset } := by
      simp [filter, Where.insert, Where.ofList, Fields.ofList]
    rw [filterAll, List.foldl_cons, hfilter]
    exact (ih (given ++ [entry])).trans (by rw [List.append_assoc, List.singleton_append])

theorem toJson_eq_error_iff {wanted : Search} {unsupported : Unsupported} :
    wanted.toJson = .error unsupported ↔ ∃ field x, wanted.filters.FirstUnsendable field x ∧
      unsupported = ⟨field, .notFinite (.float x)⟩ := by
  rw [toJson]
  constructor
  · intro h
    rcases wanted.filters.sendable_or_firstUnsendable with hall | ⟨field, x, hfirst⟩
    · rw [Where.validate_of_sendable hall] at h
      cases h
    · rw [Where.validate_of_firstUnsendable hfirst] at h
      cases h
      exact ⟨field, x, hfirst, rfl⟩
  · rintro ⟨field, x, hfirst, rfl⟩
    rw [Where.validate_of_firstUnsendable hfirst]
    rfl

theorem searchBody_eq (wanted : Search) :
    Call.searchBody wanted = .object ((wanted.offset.toList.map fun n => ("from", Json.ofUInt64 n))
      ++ (wanted.limit.toList.map fun n => ("size", Json.ofUInt64 n))
      ++ [("query", wanted.filters.toQuery.orMatchAll.toJson)]) := by
  obtain ⟨filters, limit, offset⟩ := wanted
  cases limit <;> cases offset <;> rfl

/-- **The body of a search**, whatever was asked of the fields, in a where-clause that was given or
added to it. There is none just when a number that counts in the end has no JSON form, and the
first field with such a number is refused. Otherwise the page stands first, as far as it is
asked for, and then the query: every document just when each filter that counts is a range
without bounds, and else the clauses of the where-clause, of which there are some. -/
theorem toJson_filterAll (given added : List (String × Filter)) (limit offset : Option UInt64) :
    let asked := given ++ added
    let wanted := filterAll { filters := .ofList given, limit, offset } added
    ((∃ unsupported, wanted.toJson = .error unsupported) ↔
      ∃ field x, Where.NonFinite asked field x) ∧
      (∀ unsupported, wanted.toJson = .error unsupported →
        ∃ x, Where.NonFinite asked unsupported.field x ∧
          unsupported.reason = .notFinite (.float x) ∧
          ∀ other y, Where.NonFinite asked other y →
            (Entries.names asked).idxOf unsupported.field ≤ (Entries.names asked).idxOf other) ∧
      ∀ body, wanted.toJson = .ok body → ∃ query,
        body = .object ((offset.toList.map fun n => ("from", Json.ofUInt64 n))
          ++ (limit.toList.map fun n => ("size", Json.ofUInt64 n)) ++ [("query", query)]) ∧
        (query = .single "match_all" (.object []) ↔
          ∀ field filter, Entries.Current asked field filter → filter.Unbounded) ∧
        (query ≠ .single "match_all" (.object []) → ∃ clauses, clauses ≠ [] ∧
          (Where.ofList asked).toQuery = .bool clauses [] [] [] ∧
          query = .single "bool" (.single "must" (.array (clauses.map Query.toJson)))) := by
  intro asked wanted
  have hwanted : wanted = { filters := .ofList asked, limit, offset } :=
    filterAll_ofList given added limit offset
  have hlatest : wanted.filters.toList = Entries.latest asked := by
    rw [hwanted, Where.toList_ofList, Entries.setAll_eq_latest]
  refine ⟨⟨?_, ?_⟩, ?named, ?written⟩
  · rintro ⟨unsupported, h⟩
    obtain ⟨field, x, hfirst, -⟩ := toJson_eq_error_iff.mp h
    exact ⟨field, x, ((Where.firstUnsendable_iff hlatest).mp hfirst).1⟩
  · rintro ⟨field, x, hmem, hx⟩
    rcases wanted.filters.sendable_or_firstUnsendable with hall | ⟨other, y, hfirst⟩
    · rw [Entries.current_iff_mem_latest, ← hlatest] at hmem
      exact absurd (hall _ hmem x rfl) hx
    · exact ⟨_, toJson_eq_error_iff.mpr ⟨other, y, hfirst, rfl⟩⟩
  case named =>
    intro unsupported h
    obtain ⟨field, x, hfirst, rfl⟩ := toJson_eq_error_iff.mp h
    obtain ⟨hcounts, hbefore⟩ := (Where.firstUnsendable_iff hlatest).mp hfirst
    exact ⟨x, hcounts, rfl, hbefore⟩
  case written =>
    intro body h
    obtain ⟨-, rfl⟩ := eq_searchBody h
    have hall : wanted.filters.clauses.all = [] ↔
        ∀ field filter, Entries.Current asked field filter → filter.Unbounded := by
      simp only [Where.all_eq_nil_iff, hlatest, Entries.current_iff_mem_latest, Prod.forall]
    have hquery : (Where.ofList asked).toQuery = .bool wanted.filters.clauses.all [] [] [] := by
      rw [hwanted]
      rfl
    rw [searchBody_eq, ← hall, hquery]
    refine ⟨wanted.filters.toQuery.orMatchAll.toJson, by rw [hwanted], ?_⟩
    cases hclauses : wanted.filters.clauses.all with
    | nil =>
      rw [Where.toQuery, hclauses]
      simp [Query.orMatchAll, Query.toJson]
    | cons first rest =>
      have hne : wanted.filters.clauses.all ≠ [] := by simp [hclauses]
      rw [Where.orMatchAll_toQuery hne, Where.toJson_toQuery, hclauses]
      refine ⟨by simp [Json.single], fun _ => ⟨_, List.cons_ne_nil first rest, rfl, rfl⟩⟩

/-- A number without JSON form that is replaced does not count; one that replaces another does. -/
theorem toJson_filterAll_replaced :
    let nan : Filter := .literal (.float .nan)
    let given : List (String × Filter) := [("score", nan), ("year", .literal (.integer 1979))]
    let added : List (String × Filter) := [("score", .literal (.integer 7)), ("year", nan)]
    (filterAll { filters := .ofList given } added).toJson
        = .error ⟨"year", .notFinite (.float .nan)⟩ ∧
      ∃ x, Where.NonFinite (given ++ added) "year" x := by
  intro nan given added
  have herror : (filterAll { filters := .ofList given } added).toJson
      = .error ⟨"year", .notFinite (.float .nan)⟩ := by decide +kernel
  obtain ⟨-, hnamed, -⟩ := toJson_filterAll given added none none
  obtain ⟨x, hcounts, -⟩ := hnamed _ herror
  exact ⟨herror, x, hcounts⟩

end Search

end DocSearch
