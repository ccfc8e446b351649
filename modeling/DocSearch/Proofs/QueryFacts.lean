/-
What is written for a condition tells the condition: each kind has a member name of its own, and the
options of one kind are told apart by what is written for them (`eq_of_members`). Weights have to be
finite, since the others are all written alike.

A bool condition is written as rows of which some may lack (`clauseRows`), so its lists are told
apart however many of them are empty. From there the whole tree follows by induction on the one of
two conditions, whatever the other one is.
-/
import DocSearch.Proofs.FilterFacts
import DocSearch.Query.Basic

namespace DocSearch

/-! ## Lists -/

/-- Two images tell lists apart alike if they tell their elements apart alike. -/
theorem map_eq_map_iff_of {α β γ : Type} {f : α → β} {g : α → γ} {as bs : List α}
    (h : ∀ a ∈ as, ∀ b ∈ bs, f a = f b ↔ g a = g b) : as.map f = bs.map f ↔ as.map g = bs.map g := by
  induction as generalizing bs with
  | nil => simp [@eq_comm _ []]
  | cons a as ih =>
    cases bs with
    | nil => simp
    | cons b bs =>
      have hfirst : f a = f b ↔ g a = g b := h a List.mem_cons_self b List.mem_cons_self
      have hrest : as.map f = bs.map f ↔ as.map g = bs.map g := by
        refine ih ?_
        intro c hc d hd
        exact h c (List.mem_cons_of_mem a hc) d (List.mem_cons_of_mem b hd)
      simp [hfirst, hrest]

/-- Lists are told apart by their images if their elements are. -/
theorem eq_of_map_eq {α β : Type} {f : α → β} {as bs : List α}
    (hinj : ∀ a ∈ as, ∀ b ∈ bs, f a = f b → a = b) (h : as.map f = bs.map f) : as = bs := by
  have hsame : as.map f = bs.map f ↔ as.map id = bs.map id := by
    refine map_eq_map_iff_of fun a ha b hb => ⟨hinj a ha b hb, fun hab => ?_⟩
    rw [show a = b from hab]
  simpa using hsame.mp h

namespace Query

/-! ## Conditions without others inside -/

/-- A condition that holds no others and in which every weight is finite. -/
inductive Leaf : Query → Prop
  | matchAll : Leaf .matchAll
  | term (field : String) (value : Json) : Leaf (.term field value)
  | fuzzy (field : String) (options : FuzzyOptions) : Leaf (.fuzzy field options)
  | regexp (field : String) (options : RegexOptions) : Leaf (.regexp field options)
  | wildcard (field : String) {options : WildcardOptions} : FiniteBoost options.boost →
      Leaf (.wildcard field options)
  | range {fields : Fields RangeOptions} : (∀ entry ∈ fields.entries, FiniteBoost entry.2.boost) →
      Leaf (.range fields)
  | present (field : String) : Leaf (.present field)

/-- What is written for ranges tells their fields and their bounds. -/
theorem eq_of_ranges {as bs : Fields RangeOptions}
    (ha : ∀ entry ∈ as.entries, FiniteBoost entry.2.boost)
    (hb : ∀ entry ∈ bs.entries, FiniteBoost entry.2.boost)
    (h : as.entries.map (fun entry => (entry.1, entry.2.toJson))
      = bs.entries.map fun entry => (entry.1, entry.2.toJson)) : as = bs := by
  have hentries : as.entries = bs.entries := by
    refine eq_of_map_eq ?_ h
    intro a hmem b hmem' heq
    obtain ⟨hfield, hjson⟩ := Prod.mk.inj heq
    have hoptions : a.2 = b.2 :=
      RangeOptions.eq_of_members (ha a hmem) (hb b hmem') (Json.object.inj hjson)
    exact Prod.ext hfield hoptions
  exact Fields.ext_entries hentries

/-- What is written for a condition without others inside tells the condition. -/
theorem Leaf.eq_of_toJson {p q : Query} (hp : p.Leaf) (hq : q.Leaf) (h : p.toJson = q.toJson) :
    p = q := by
  -- Conditions of two kinds differ in the name of their one member.
  cases hp <;> cases hq <;>
    simp only [toJson, Json.single, RegexOptions.toJson, FuzzyOptions.toJson,
      WildcardOptions.toJson, Json.object.injEq, Json.string.injEq, List.cons.injEq, Prod.mk.injEq,
      and_true, true_and, false_and, String.reduceEq] at h
  case matchAll.matchAll => rfl
  case term.term => rw [h.1, h.2]
  case fuzzy.fuzzy => rw [h.1, FuzzyOptions.eq_of_members h.2]
  case regexp.regexp => rw [h.1, RegexOptions.eq_of_members h.2]
  case wildcard.wildcard hboost _ _ hboost' =>
    rw [h.1, WildcardOptions.eq_of_members hboost hboost' h.2]
  case range.range hboosts _ hboosts' => rw [eq_of_ranges hboosts hboosts' h]
  case present.present => rw [h]

/-! ## Conditions with others inside -/

/-- A condition in which every weight is finite, however deep it stands. -/
inductive FiniteBoosts : Query → Prop
  | leaf {query : Query} : query.Leaf → FiniteBoosts query
  | bool {must should mustNot filter : List Query} :
      (∀ query ∈ must, FiniteBoosts query) → (∀ query ∈ should, FiniteBoosts query) →
      (∀ query ∈ mustNot, FiniteBoosts query) → (∀ query ∈ filter, FiniteBoosts query) →
      FiniteBoosts (.bool must should mustNot filter)

/-- A list of clauses as a value, which lacks when the list is empty. -/
def clauseValue? (clauses : List Json) : Option Json :=
  if clauses.isEmpty then none else some (.array clauses)

/-- The lists of a bool condition, row by row. -/
def clauseRows (must should mustNot filter : List Json) : List (String × Option Json) :=
  [("must", some (.array must)), ("should", clauseValue? should),
   ("must_not", clauseValue? mustNot), ("filter", clauseValue? filter)]

theorem nodup_clauseRows (must should mustNot filter : List Json) :
    (Entries.names (clauseRows must should mustNot filter)).Nodup := by
  simp [clauseRows]

theorem clauseMember_eq (name : String) (clauses : List Json) :
    clauseMember name clauses = Json.optional name (clauseValue? clauses) := by
  rw [clauseMember, clauseValue?]
  split <;> rfl

theorem clauseValue?_injective {as bs : List Json} (h : clauseValue? as = clauseValue? bs) :
    as = bs := by
  cases as <;> cases bs <;> simp_all [clauseValue?]

theorem toJson_bool (must should mustNot filter : List Query) :
    (bool must should mustNot filter).toJson = .single "bool" (.object (Json.present (clauseRows
      (must.map toJson) (should.map toJson) (mustNot.map toJson) (filter.map toJson)))) := by
  simp only [toJson, listToJson_eq_map, clauseMember_eq, clauseRows, Json.present, List.append_nil,
    List.append_assoc]
  rfl

/-- What is written for a bool condition tells what is written in each of its lists. -/
theorem clauses_eq_of_toJson {must should mustNot filter : List Query}
    {must' should' mustNot' filter' : List Query}
    (h : (bool must should mustNot filter).toJson = (bool must' should' mustNot' filter').toJson) :
    must.map toJson = must'.map toJson ∧ should.map toJson = should'.map toJson ∧
      mustNot.map toJson = mustNot'.map toJson ∧ filter.map toJson = filter'.map toJson := by
  rw [toJson_bool, toJson_bool] at h
  simp only [Json.single, Json.object.injEq, List.cons.injEq, Prod.mk.injEq, and_true,
    true_and] at h
  have hrows := Json.present_injective (by rfl) (nodup_clauseRows _ _ _ _) h
  simp only [clauseRows, List.cons.injEq, Prod.mk.injEq, true_and, and_true, Option.some.injEq,
    Json.array.injEq] at hrows
  obtain ⟨hmust, hshould, hmustNot, hfilter⟩ := hrows
  exact ⟨hmust, clauseValue?_injective hshould, clauseValue?_injective hmustNot,
    clauseValue?_injective hfilter⟩

/-- A condition that holds no others is not written like one that may hold some. -/
theorem Leaf.toJson_ne_bool {query : Query} (h : query.Leaf)
    (must should mustNot filter : List Query) :
    query.toJson ≠ (bool must should mustNot filter).toJson := by
  cases h <;> simp [toJson, Json.single]

/-- **What is written for a condition tells the condition**, however deep it goes: of two conditions
with finite weights, the same is written just when they are the same. -/
theorem toJson_eq_iff {p q : Query} (hp : p.FiniteBoosts) (hq : q.FiniteBoosts) :
    p.toJson = q.toJson ↔ p = q := by
  refine ⟨fun h => ?_, fun h => h ▸ rfl⟩
  induction hp generalizing q with
  | leaf hp =>
    cases hq with
    | leaf hq => exact hp.eq_of_toJson hq h
    | bool => exact absurd h (hp.toJson_ne_bool _ _ _ _)
  | bool _ _ _ _ ihmust ihshould ihmustNot ihfilter =>
    cases hq with
    | leaf hq => exact absurd h.symm (hq.toJson_ne_bool _ _ _ _)
    | bool hmust hshould hmustNot hfilter =>
      -- The lists are written alike, and each clause of the one is told by what is written for it.
      obtain ⟨hm, hs, hn, hf⟩ := clauses_eq_of_toJson h
      rw [eq_of_map_eq (fun a ha b hb => ihmust a ha (hmust b hb)) hm,
        eq_of_map_eq (fun a ha b hb => ihshould a ha (hshould b hb)) hs,
        eq_of_map_eq (fun a ha b hb => ihmustNot a ha (hmustNot b hb)) hn,
        eq_of_map_eq (fun a ha b hb => ihfilter a ha (hfilter b hb)) hf]

/-- A clause that is moved to another list of an inner condition is written otherwise, and so is a
condition without clauses in place of one that asks nothing. -/
theorem toJson_eq_iff_moved :
    let weighed : Query := .wildcard "title" { value := "al*", boost := some ⟨0⟩ }
    let inner : Query := .bool [] [weighed] [] []
    let moved : Query := .bool [] [] [] [weighed]
    (Query.bool [.present "year"] [] [inner] []).toJson
        ≠ (Query.bool [.present "year"] [] [moved] []).toJson ∧
      (Query.bool [] [] [] []).toJson ≠ Query.matchAll.toJson := by
  intro weighed inner moved
  have hweighed : weighed.FiniteBoosts := .leaf (.wildcard "title" (by decide +kernel))
  have hinner : inner.FiniteBoosts := .bool (by simp) (by simpa using hweighed) (by simp) (by simp)
  have hmoved : moved.FiniteBoosts := .bool (by simp) (by simp) (by simp) (by simpa using hweighed)
  have hyear : (Query.present "year").FiniteBoosts := .leaf (.present "year")
  refine ⟨?_, ?_⟩
  · rw [Ne, toJson_eq_iff (.bool (by simpa using hyear) (by simp) (by simpa using hinner) (by simp))
      (.bool (by simpa using hyear) (by simp) (by simpa using hmoved) (by simp))]
    simp [inner, moved]
  · rw [Ne, toJson_eq_iff (.bool (by simp) (by simp) (by simp) (by simp)) (.leaf .matchAll)]
    nofun

end Query

end DocSearch
