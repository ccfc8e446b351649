/-
The JSON forms of a filter (`Filter.Form`): a literal has one, any other filter has an object with
its type and the members of its options, which may stand in any order, each name in either spelling.
All of them are read alike, as the filter itself but for what has no trace in JSON (`Filter.kept`).
So a where-clause that is written in JSON has the query of the one that is built from filters.
-/
import DocSearch.Proofs.CallFacts
import DocSearch.Proofs.FilterFacts

namespace DocSearch

open Json (Respells)

/-! ## Forms -/

namespace Filter

/-- The names that may stand for the kind of the filter; a literal is not named. -/
def typeNames : Filter → List String
  | .literal _ => []
  | .exact _ => ["exact"]
  | .fuzzy _ => ["fuzzy"]
  | .regex _ => ["regex", "regexp"]
  | .wildcard _ => ["wildcard"]
  | .range _ => ["range"]
  | .present => ["exists"]

/-- The members of the options under the names under which they are written. -/
def optionMembers : Filter → List (String × Json)
  | .literal _ => []
  | .exact value => [("value", .string value)]
  | .fuzzy options => options.members
  | .regex options => options.members
  | .wildcard options => options.members
  | .range options => options.members
  | .present => []

/-- The JSON forms of a filter. -/
inductive Form : Filter → Json → Prop
  | literal (value : Literal) : Form (.literal value) value.toJson
  | object {filter : Filter} {name : String} {written members : List (String × Json)} :
      name ∈ filter.typeNames → List.Forall₂ Respells written filter.optionMembers →
      members.Perm (("type", .string name) :: written) → Form filter (.object members)

/-- A filter as it comes back: a literal in its normal form, a range without bounds that are null,
and a weight only if it is finite. -/
def kept : Filter → Filter
  | .literal value => .literal value.normal
  | .wildcard options => .wildcard options.kept
  | .range options => .range options.kept
  | filter => filter

/-- No bound is null. -/
def NoNullBound : Filter → Prop
  | .range options => ∀ bound ∈ options.bounds, bound ≠ some .null
  | _ => True

/-- The filter is all in its JSON forms. -/
structure Lossless (filter : Filter) : Prop where
  sendable : filter.Sendable
  finiteBoost : filter.FiniteBoost
  noNullBound : filter.NoNullBound

end Filter

/-! ## Reading a form -/

/-- What an exact filter is written as, row by row. -/
def Filter.Kind.exactRows (value : String) : List (String × Option Json) :=
  [("value", some (.string value))]

theorem Filter.Kind.reads_exactShape (value : String) : exactShape.Reads (exactRows value) value :=
  Json.Shape.Reads.of "Exact" id |>.required (by simp) (Json.readString_string value)

/-! The shapes know the rows that are written: the fields answer to both spellings of each name, and
none to `type`. -/

theorem Filter.Kind.knows_exactRows (value : String) :
    exactShape.Knows "type" (Entries.names (exactRows value)) := by
  have h : exactShape.Knows "type" ["value"] := by decide +kernel
  exact h

theorem FuzzyOptions.knows_rows (options : FuzzyOptions) :
    shape.Knows "type" (Entries.names options.rows) := by
  have h : shape.Knows "type" ["value", "fuzziness", "max_expansions", "prefix_length", "rewrite",
    "transpositions"] := by decide +kernel
  exact h

theorem RegexOptions.knows_rows (options : RegexOptions) :
    shape.Knows "type" (Entries.names options.rows) := by
  have h : shape.Knows "type" ["value", "case_insensitive", "flags", "max_determinized_states",
    "rewrite"] := by decide +kernel
  exact h

theorem WildcardOptions.knows_rows (options : WildcardOptions) :
    shape.Knows "type" (Entries.names options.rows) := by
  have h : shape.Knows "type" ["value", "case_insensitive", "boost", "rewrite"] := by decide +kernel
  exact h

theorem RangeOptions.knows_rows (options : RangeOptions) :
    (shape Json.isNullOrEmpty).Knows "type" (Entries.names options.rows) := by
  have h : (shape Json.isNullOrEmpty).Knows "type" ["gt", "gte", "lt", "lte", "format", "relation",
    "boost", "time_zone"] := by decide +kernel
  exact h

namespace Filter

/-- An object is read as its type says. -/
theorem read_object {members : List (String × Json)} {name : String} {kind : Kind} {filter : Filter}
    (htype : members.lookup "type" = some (.string name))
    (hkind : Kind.table.lookup name = some kind)
    (hread : kind.readMembers members = .ok filter) : read (.object members) = .ok filter := by
  have hchoose : Json.choose Kind.table name = .ok kind := Json.choose_eq_ok_iff.mpr hkind
  rw [read, readMembers, htype]
  simp only [hchoose, bind, Except.bind, hread]

/-- A filter whose options are read from rows is read from the respelled members of the rows beside
its type, wherever each stands. -/
theorem read_of_reads {α : Type} {shape : Json.Shape α} {rows : List (String × Option Json)} {r : α}
    (h : shape.Reads rows r) (hknows : shape.Knows "type" (Entries.names rows))
    {written members : List (String × Json)}
    (hwritten : List.Forall₂ Respells written (Json.present rows))
    {name : String} (hperm : members.Perm (("type", .string name) :: written)) {kind : Kind}
    (hkind : Kind.table.lookup name = some kind) {make : α → Filter}
    (hmake : kind.readMembers members = make <$> shape.readMembers members) :
    read (.object members) = .ok (make r) := by
  have hnames : ∀ name ∈ Entries.names (Json.present rows),
      name ≠ "type" ∧ Json.camelCase name ≠ "type" := by
    intro name hname
    exact hknows.2 name (Json.mem_names_of_mem_present hname)
  refine read_object (Json.lookup_of_perm hwritten hnames hperm) hkind ?_
  rw [hmake, h.readMembers_of_perm hknows hwritten hperm]
  rfl

/-- Every form of a filter is read as the filter that is kept. -/
theorem read_of_form {filter : Filter} {json : Json} (hsendable : filter.Sendable)
    (h : filter.Form json) : read json = .ok filter.kept := by
  cases h with
  | literal value => exact Literal.read_toJson (isFinite_of_sendable hsendable)
  | @object _ name written members hname hwritten hperm =>
    cases filter with
    | literal value => cases hname
    | exact value =>
      obtain rfl : name = "exact" := List.mem_singleton.mp hname
      exact read_of_reads (Kind.reads_exactShape value) (Kind.knows_exactRows value) hwritten hperm
        rfl rfl
    | fuzzy options =>
      obtain rfl : name = "fuzzy" := List.mem_singleton.mp hname
      rw [optionMembers, options.members_eq] at hwritten
      exact read_of_reads options.reads_shape options.knows_rows hwritten hperm rfl rfl
    | regex options =>
      rw [optionMembers, options.members_eq] at hwritten
      have hkind : Kind.table.lookup name = some .regex := by
        simp only [typeNames, List.mem_cons, List.not_mem_nil, or_false] at hname
        obtain rfl | rfl := hname <;> rfl
      exact read_of_reads options.reads_shape options.knows_rows hwritten hperm hkind rfl
    | wildcard options =>
      obtain rfl : name = "wildcard" := List.mem_singleton.mp hname
      rw [optionMembers, options.members_eq] at hwritten
      exact read_of_reads options.reads_shape options.knows_rows hwritten hperm rfl rfl
    | range options =>
      obtain rfl : name = "range" := List.mem_singleton.mp hname
      rw [optionMembers, options.members_eq] at hwritten
      exact read_of_reads (options.reads_shape Json.isNullOrEmpty) options.knows_rows hwritten hperm
        rfl rfl
    | present =>
      obtain rfl : name = "exists" := List.mem_singleton.mp hname
      cases hwritten
      rw [List.perm_singleton.mp hperm]
      rfl

theorem ofJson_of_read {json : Json} {filter : Filter} (h : read json = .ok filter)
    (field : String) : ofJson field json = .ok filter := by
  rw [ofJson, h]
  rfl

/-- An integer is read as a literal of its value. -/
theorem read_integer (n : Int) (h : Json.InRange n) :
    ∃ literal, read (.number (.integer n h)) = .ok (.literal literal) ∧
      literal.integer? = some n :=
  ⟨.ofNumber (.integer n h), rfl, Literal.integer?_ofNumber n h⟩

/-- A filter of which nothing is lost is kept but for the form of a literal. -/
theorem Lossless.kept_eq {filter : Filter} (h : filter.Lossless) :
    filter.kept = filter ∨ ∃ value : Literal, filter = .literal value := by
  cases filter with
  | literal value => exact .inr ⟨value, rfl⟩
  | wildcard options =>
    left
    rw [kept, options.kept_eq_self h.finiteBoost]
  | range options =>
    left
    rw [kept, options.kept_eq_self h.noNullBound h.finiteBoost]
  | _ => exact .inl rfl

end Filter

/-! ## Where-clauses -/

/-- What the kept filter gives is what the filter gives. -/
theorem Clauses.add_kept (clauses : Clauses) (field : String) {filter : Filter}
    (h : filter.Lossless) : clauses.add field filter.kept = clauses.add field filter := by
  rcases h.kept_eq with hkept | ⟨value, rfl⟩
  · rw [hkept]
  · have hjson : value.normal.toJson = value.toJson := value.toJson_normal
    cases value with
    | unsigned n =>
      rw [Filter.kept, Literal.normal]
      rw [Literal.normal] at hjson
      split
      · next hsigned =>
        rw [if_pos hsigned] at hjson
        rw [add, add, hjson]
        · rintro _ ⟨⟩
        · rintro _ ⟨⟩
      · rfl
    | _ => rfl

namespace Where

/-- A JSON form of a where-clause: the object of its fields, each with a form of its filter. -/
def Form (clause : Where) (members : List (String × Json)) : Prop :=
  List.Forall₂ (fun member entry => member.1 = entry.1 ∧ entry.2.Form member.2) members
    clause.toList

/-- The filter of a member, with the field it is for. -/
def readMember (member : String × Json) : Except Unsupported (String × Filter) :=
  (fun filter => (member.1, filter)) <$> Filter.ofJson member.1 member.2

theorem readMember_eq_ok_iff {member : String × Json} {entry : String × Filter} :
    readMember member = .ok entry ↔
      entry.1 = member.1 ∧ Filter.ofJson member.1 member.2 = .ok entry.2 := by
  obtain ⟨field, filter⟩ := entry
  rw [readMember, Json.map_eq_ok_iff]
  constructor
  · rintro ⟨read, hread, hentry⟩
    cases hentry
    exact ⟨rfl, hread⟩
  · rintro ⟨rfl, hread⟩
    exact ⟨filter, hread, rfl⟩

theorem readMember_eq_error_iff {member : String × Json} {unsupported : Unsupported} :
    readMember member = .error unsupported ↔
      Filter.ofJson member.1 member.2 = .error unsupported := by
  rw [readMember, Json.map_eq_error_iff]

theorem exists_readMember_iff {member : String × Json} :
    (∃ entry, readMember member = .ok entry) ↔
      ∃ filter, Filter.ofJson member.1 member.2 = .ok filter := by
  simp only [readMember_eq_ok_iff]
  exact ⟨fun ⟨entry, _, hread⟩ => ⟨entry.2, hread⟩, fun ⟨filter, hread⟩ => ⟨(_, filter), rfl, hread⟩⟩

/-- Each member is read in its turn, and then all that was read is inserted. -/
theorem readMembers_eq_map (clause : Where) (members : List (String × Json)) :
    clause.readMembers members = (fun entries => (⟨entries.foldl
      (fun acc entry => acc.insert entry.1 entry.2) clause.fields⟩ : Where))
        <$> members.mapM readMember := by
  induction members generalizing clause with
  | nil => rfl
  | cons member members ih =>
    obtain ⟨field, value⟩ := member
    rw [readMembers, List.mapM_cons, readMember]
    cases Filter.ofJson field value with
    | error unsupported => rfl
    | ok filter =>
      simp only [bind, Except.bind, Functor.map, Except.map, ih]
      cases members.mapM readMember <;> rfl

/-- The members of an object that are read become filters, one after the other. -/
theorem readMembers_eq {members : List (String × Json)} {entries : List (String × Filter)}
    (h : List.Forall₂ (fun member entry =>
      member.1 = entry.1 ∧ Filter.read member.2 = .ok entry.2) members entries) (clause : Where) :
    clause.readMembers members
      = .ok ⟨entries.foldl (fun acc entry => acc.insert entry.1 entry.2) clause.fields⟩ := by
  have hread : members.mapM readMember = .ok entries := by
    refine (Json.mapM_eq_ok_iff _ _ _).mpr (h.imp fun member entry hmember => ?_)
    exact readMember_eq_ok_iff.mpr ⟨hmember.1.symm, Filter.ofJson_of_read hmember.2 member.1⟩
  rw [readMembers_eq_map, hread]
  rfl

/-- The filters as they come back. -/
def keptEntries (entries : List (String × Filter)) : List (String × Filter) :=
  entries.map fun entry => (entry.1, entry.2.kept)

theorem names_keptEntries (entries : List (String × Filter)) :
    Entries.names (keptEntries entries) = Entries.names entries := by
  rw [keptEntries, Entries.names, List.map_map]
  rfl

/-- Each form is read as the filter that is kept. -/
theorem forall₂_read_of_form {members : List (String × Json)} {entries : List (String × Filter)}
    (h : List.Forall₂ (fun member entry => member.1 = entry.1 ∧ entry.2.Form member.2)
      members entries) (hsendable : ∀ entry ∈ entries, entry.2.Sendable) :
    List.Forall₂ (fun member entry => member.1 = entry.1 ∧ Filter.read member.2 = .ok entry.2)
      members (keptEntries entries) := by
  induction h with
  | nil => exact .nil
  | cons hmember _ ih =>
    obtain ⟨hfield, hform⟩ := hmember
    obtain ⟨hfirst, hrest⟩ := List.forall_mem_cons.mp hsendable
    exact .cons ⟨hfield, Filter.read_of_form hfirst hform⟩ (ih hrest)

/-- The filters as they come back have the same query. -/
theorem toQuery_ofList_keptEntries {clause : Where}
    (h : ∀ entry ∈ clause.toList, entry.2.Lossless) :
    (ofList (keptEntries clause.toList)).toQuery = clause.toQuery := by
  have hnodup : (Entries.names ([] ++ keptEntries clause.toList)).Nodup := by
    rw [List.nil_append, names_keptEntries]
    exact clause.fields.nodup
  have hlist : (ofList (keptEntries clause.toList)).toList = keptEntries clause.toList := by
    rw [toList_ofList, Entries.setAll_of_nodup hnodup, List.nil_append]
  have hclauses : (ofList (keptEntries clause.toList)).clauses = clause.clauses := by
    rw [clauses, hlist, keptEntries, List.foldl_map]
    refine List.foldl_ext _ _ _ ?_
    intro acc entry hentry
    exact acc.add_kept entry.1 (h entry hentry)
  rw [toQuery, toQuery, hclauses]

theorem readQuery_of_form {clause : Where} (h : ∀ entry ∈ clause.toList, entry.2.Lossless)
    {members : List (String × Json)} (hform : clause.Form members) :
    readQuery (.object members) = .ok clause.toQuery := by
  have hread := forall₂_read_of_form hform fun entry hentry => (h entry hentry).sendable
  have hwhere : ofJson (.object members) = .ok (ofList (keptEntries clause.toList)) :=
    readMembers_eq hread empty
  rw [readQuery, hwhere, ← toQuery_ofList_keptEntries h]
  rfl

end Where

/-- **The two ways to write a filter.** Whatever the field, each JSON form of a filter that can be
sent is read as that filter, but for bounds that are null and weights that are not finite, which are
unset, and for integers, which are signed where that holds them; every integer keeps its value. So a
where-clause of which nothing is lost has one query, written in JSON or not. -/
theorem ofJson_forms :
    (∀ (field : String) {filter : Filter} {json : Json}, filter.Sendable → filter.Form json →
        Filter.ofJson field json = .ok filter.kept) ∧
      (∀ (field : String) (n : Int) (h : Json.InRange n), ∃ literal,
        Filter.ofJson field (.number (.integer n h)) = .ok (.literal literal) ∧
          literal.integer? = some n) ∧
      ∀ {clause : Where} {members : List (String × Json)},
        (∀ entry ∈ clause.toList, entry.2.Lossless) → clause.Form members →
          Where.readQuery (.object members) = .ok clause.toQuery := by
  refine ⟨?filters, ?integers, ?clauses⟩
  case filters =>
    intro field filter json hsendable hform
    exact Filter.ofJson_of_read (Filter.read_of_form hsendable hform) field
  case integers =>
    intro field n h
    obtain ⟨literal, hread, hvalue⟩ := Filter.read_integer n h
    exact ⟨literal, Filter.ofJson_of_read hread field, hvalue⟩
  case clauses =>
    intro clause members hlossless hform
    exact Where.readQuery_of_form hlossless hform

/-- A regular expression with its type between its options, one of them in one word, and a text. -/
theorem ofJson_forms_films :
    let pattern : Filter := .regex { value := "al.*", maxDeterminizedStates := some 5 }
    let json : Json := .object [("maxDeterminizedStates", .ofUInt32 5), ("type", .string "regexp"),
      ("value", .string "al.*")]
    Filter.ofJson "title" json = .ok pattern ∧
      Where.readQuery (.object [("title", json), ("genre", .string "drama")])
        = .ok (Where.ofList [("title", pattern), ("genre", .literal (.text "drama"))]).toQuery := by
  intro pattern json
  have hwritten : List.Forall₂ Respells
      [("value", .string "al.*"), ("maxDeterminizedStates", .ofUInt32 5)] pattern.optionMembers :=
    .cons ⟨rfl, .inl rfl⟩ (.cons ⟨rfl, .inr (by decide +kernel)⟩ .nil)
  have hname : "regexp" ∈ pattern.typeNames := by decide
  have hform : pattern.Form json := .object hname hwritten (by decide +kernel)
  have hsendable : pattern.Sendable := by simp [Filter.Sendable, pattern]
  have hlossless : ∀ entry ∈ (Where.ofList
      [("title", pattern), ("genre", .literal (.text "drama"))]).toList, entry.2.Lossless := by
    have hlist : (Where.ofList [("title", pattern), ("genre", .literal (.text "drama"))]).toList
        = [("title", pattern), ("genre", .literal (.text "drama"))] := rfl
    rw [hlist, List.forall_mem_cons, List.forall_mem_singleton]
    exact ⟨⟨hsendable, trivial, trivial⟩, ⟨by rintro _ ⟨⟩, trivial, trivial⟩⟩
  exact ⟨ofJson_forms.1 "title" hsendable hform,
    ofJson_forms.2.2 hlossless (.cons ⟨rfl, hform⟩ (.cons ⟨rfl, .literal (.text "drama")⟩ .nil))⟩

end DocSearch
