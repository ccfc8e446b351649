/-
Where-clauses that are read from JSON can be sent. What is read holds nothing that JSON has no form
for: a number becomes a finite literal, a weight a finite double, and null stands for an option that
is not set (`Filter.lossless_of_read`). So the search is never refused, and null stands in its body
only where the caller put it, inside a bound that is an array or an object.

Where null stands is said by paths (`Json.At`). A value is taken apart together with the paths that
are allowed to end in null (`Json.NullOnly`), from the body down to the bounds of a range, where the
path is known and something is left of it.
-/
import DocSearch.Proofs.DoubleFacts
import DocSearch.Proofs.FilterForms
import DocSearch.Proofs.NormalWhere

namespace DocSearch

/-! ## Places in a value -/

namespace Json

/-- The way from a value to one of its parts. -/
inductive Place where
  | item (i : Nat)
  | member (name : String)
  deriving DecidableEq

/-- What stands in a value at the end of a path. -/
inductive At : Json → List Place → Json → Prop
  | here (value : Json) : At value [] value
  | item {items : List Json} {i : Nat} {part value : Json} {path : List Place} :
      items[i]? = some part → At part path value → At (.array items) (.item i :: path) value
  | member {members : List (String × Json)} {name : String} {part value : Json}
      {path : List Place} :
      (name, part) ∈ members → At part path value → At (.object members) (.member name :: path) value

/-- An array or an object. -/
def IsCompound : Json → Prop
  | .array _ => True
  | .object _ => True
  | _ => False

theorem At.isCompound {value part : Json} {path : List Place} (h : value.At path part)
    (hpath : path ≠ []) : value.IsCompound := by
  cases h with
  | here => exact absurd rfl hpath
  | item => exact trivial
  | member => exact trivial

theorem At.split {value part : Json} {path rest : List Place} (h : value.At (path ++ rest) part) :
    ∃ middle, value.At path middle ∧ middle.At rest part := by
  induction path generalizing value with
  | nil => exact ⟨value, .here value, h⟩
  | cons place path ih =>
    cases h with
    | item hitem h =>
      obtain ⟨middle, hmiddle, hrest⟩ := ih h
      exact ⟨middle, .item hitem hmiddle, hrest⟩
    | member hmember h =>
      obtain ⟨middle, hmiddle, hrest⟩ := ih h
      exact ⟨middle, .member hmember hmiddle, hrest⟩

/-! ## Where null stands -/

/-- Null stands in a value at the end of such paths only. -/
def NullOnly (allowed : List Place → Prop) (value : Json) : Prop :=
  ∀ path, value.At path .null → allowed path

/-- Null stands nowhere in a value. -/
def NullFree (value : Json) : Prop := NullOnly (fun _ => False) value

theorem NullFree.nullOnly {value : Json} (h : value.NullFree) (allowed : List Place → Prop) :
    value.NullOnly allowed :=
  fun path hpath => (h path hpath).elim

theorem NullOnly.array {allowed : List Place → Prop} {items : List Json}
    (h : ∀ (i : Nat) (part : Json), items[i]? = some part →
      part.NullOnly fun path => allowed (.item i :: path)) : (Json.array items).NullOnly allowed := by
  intro path hpath
  cases hpath with
  | item hitem hpart => exact h _ _ hitem _ hpart

theorem NullOnly.object {allowed : List Place → Prop} {members : List (String × Json)}
    (h : ∀ member ∈ members, member.2.NullOnly fun path => allowed (.member member.1 :: path)) :
    (Json.object members).NullOnly allowed := by
  intro path hpath
  cases hpath with
  | member hmember hpart => exact h _ hmember _ hpart

theorem NullOnly.single {allowed : List Place → Prop} {name : String} {value : Json}
    (h : value.NullOnly fun path => allowed (.member name :: path)) :
    (Json.single name value).NullOnly allowed :=
  .object (by simpa using h)

/-- A value that is not null has null inside itself only. -/
theorem nullOnly_of_ne {value : Json} (h : value ≠ .null) : value.NullOnly (· ≠ []) := by
  rintro path hpath rfl
  cases hpath
  exact h rfl

theorem nullFree_bool (b : Bool) : (Json.bool b).NullFree := by
  rintro path ⟨⟩

theorem nullFree_number (n : Number) : (Json.number n).NullFree := by
  rintro path ⟨⟩

theorem nullFree_string (text : String) : (Json.string text).NullFree := by
  rintro path ⟨⟩

theorem nullFree_ofDouble {x : Double} (h : x.IsFinite) : (ofDouble x).NullFree := by
  rw [ofDouble, dif_pos h]
  exact nullFree_number _

theorem nullFree_map {α : Type} {write : α → Json} (h : ∀ a, (write a).NullFree) (a? : Option α) :
    ∀ value ∈ a?.map write, value.NullFree := by
  intro value hvalue
  obtain ⟨a, -, rfl⟩ := Option.map_eq_some_iff.mp hvalue
  exact h a

/-- In the object of rows null stands where it stands in the values of the rows. -/
theorem NullOnly.present {allowed : List Place → Prop} {rows : List (String × Option Json)}
    (h : ∀ row ∈ rows, ∀ value ∈ row.2, value.NullOnly fun path => allowed (.member row.1 :: path)) :
    (Json.object (present rows)).NullOnly allowed := by
  refine .object fun member hmember => ?_
  exact h (member.1, some member.2) (mem_present_iff.mp hmember) member.2 rfl

end Json

/-! ## What is read -/

namespace Json.Shape

variable {α β : Type}

/-- Every record that the shape builds has a property. -/
def Builds (shape : Shape α) (P : α → Prop) : Prop := ∀ values r, shape.build values = .ok r → P r

theorem Builds.of {title : String} {make : α} {P : α → Prop} (h : P make) :
    (Shape.of title make).Builds P := by
  rintro values r ⟨⟩
  exact h

theorem Builds.required {shape : Shape (β → α)} {name : String} {read : Json → Decoded β}
    {P : α → Prop} (h : shape.Builds fun make => ∀ b, P (make b)) :
    (shape.required name read).Builds P := by
  intro values r hr
  obtain ⟨make, hmake, value, b, -, -, rfl⟩ := build_required_eq_ok_iff.mp hr
  exact h values make hmake b

/-- What is set is read from a value that is not null. -/
theorem Builds.setting {shape : Shape (Option β → α)} {name : String} {aliases : List String}
    {read : Json → Decoded β} {P : α → Prop}
    (h : shape.Builds fun make => ∀ b?,
      (∀ b ∈ b?, ∃ value, value ≠ .null ∧ read value = .ok b) → P (make b?)) :
    (shape.setting name aliases read).Builds P := by
  intro values r hr
  obtain ⟨make, hmake, b?, hb, rfl⟩ := build_add_eq_ok_iff.mp hr
  refine h values make hmake b? ?_
  rintro b rfl
  -- Of a member that lacks or is null nothing is read, so the value was there.
  have hgiven := optionally_iff.mp hb
  generalize values name = value? at hgiven
  cases hgiven with
  | given hvalue hread => exact ⟨_, hvalue, hread⟩

theorem Builds.of_readMembers {shape : Shape α} {P : α → Prop} (h : shape.Builds P)
    {members : List (String × Json)} {r : α} (hr : shape.readMembers members = .ok r) : P r := by
  obtain ⟨values, -, hbuild⟩ := bind_eq_ok_iff.mp hr
  exact h _ r hbuild

end Json.Shape

open Json (Decoded)
open Json.Shape (Builds)

theorem isFinite_of_readDouble {value : Json} {x : Double} (h : Json.readDouble value = .ok x) :
    x.IsFinite := by
  cases value with
  | number n =>
    cases h
    exact n.isFinite_toDouble
  | _ => cases h

theorem finiteBoost_of_readDouble {boost : Option Double}
    (h : ∀ x ∈ boost, ∃ value, value ≠ .null ∧ Json.readDouble value = .ok x) :
    FiniteBoost boost := by
  intro x hx
  obtain ⟨value, -, hread⟩ := h x hx
  exact isFinite_of_readDouble hread

theorem ne_null_of_read {bound : Option Json}
    (h : ∀ json ∈ bound, ∃ value, value ≠ .null ∧ (.ok value : Decoded Json) = .ok json) :
    bound ≠ some .null := by
  rintro rfl
  obtain ⟨value, hvalue, hread⟩ := h .null rfl
  cases hread
  exact hvalue rfl

theorem WildcardOptions.builds_shape : shape.Builds fun options => FiniteBoost options.boost := by
  refine .setting <| .setting <| .setting <| .required <| .of ?_
  intro value caseInsensitive _ boost hboost termMethod _
  exact finiteBoost_of_readDouble hboost

theorem RangeOptions.builds_shape (isUnit : Json → Bool) : (shape isUnit).Builds fun options =>
    FiniteBoost options.boost ∧ ∀ bound ∈ options.bounds, bound ≠ some .null := by
  refine .setting <| .setting <| .setting <| .setting <| .setting <| .setting <| .setting <|
    .setting <| .of ?_
  intro gt hgt gte hgte lt hlt lte hlte format _ relation _ boost hboost timeZone _
  refine ⟨finiteBoost_of_readDouble hboost, ?_⟩
  simp only [bounds, List.forall_mem_cons, List.not_mem_nil, false_implies, implies_true, and_true]
  exact ⟨ne_null_of_read hgt, ne_null_of_read hgte, ne_null_of_read hlt, ne_null_of_read hlte⟩

namespace Filter

theorem sendable_ofNumber (n : Json.Number) : (literal (.ofNumber n)).Sendable := by
  intro x hx
  cases n with
  | integer n h =>
    simp only [Literal.ofNumber] at hx
    split at hx <;> cases hx
  | float y =>
    cases hx
    exact y.property

theorem lossless_of_readMembers {members : List (String × Json)} {kind : Kind} {filter : Filter}
    (h : kind.readMembers members = .ok filter) : filter.Lossless := by
  cases kind with
  | exact =>
    obtain ⟨value, -, rfl⟩ := Json.map_eq_ok_iff.mp h
    exact ⟨nofun, trivial, trivial⟩
  | fuzzy =>
    obtain ⟨options, -, rfl⟩ := Json.map_eq_ok_iff.mp h
    exact ⟨nofun, trivial, trivial⟩
  | regex =>
    obtain ⟨options, -, rfl⟩ := Json.map_eq_ok_iff.mp h
    exact ⟨nofun, trivial, trivial⟩
  | wildcard =>
    obtain ⟨options, hread, rfl⟩ := Json.map_eq_ok_iff.mp h
    exact ⟨nofun, WildcardOptions.builds_shape.of_readMembers hread, trivial⟩
  | range =>
    obtain ⟨options, hread, rfl⟩ := Json.map_eq_ok_iff.mp h
    obtain ⟨hboost, hbounds⟩ := (RangeOptions.builds_shape _).of_readMembers hread
    exact ⟨nofun, hboost, hbounds⟩
  | present =>
    cases h
    exact ⟨nofun, trivial, trivial⟩

/-- A filter that is read holds nothing that JSON has no form for. -/
theorem lossless_of_read {value : Json} {filter : Filter} (h : read value = .ok filter) :
    filter.Lossless := by
  cases value with
  | string text =>
    cases h
    exact ⟨nofun, trivial, trivial⟩
  | number n =>
    cases h
    exact ⟨sendable_ofNumber n, trivial, trivial⟩
  | object members =>
    rw [read, readMembers] at h
    split at h
    · next name _ =>
      split at h
      · next other hread =>
        cases h
        obtain ⟨kind, -, hkind⟩ := Json.bind_eq_ok_iff.mp hread
        exact lossless_of_readMembers hkind
      · cases h
    · cases h
  | _ => cases h

theorem lossless_of_ofJson {field : String} {value : Json} {filter : Filter}
    (h : ofJson field value = .ok filter) : filter.Lossless := by
  rw [ofJson] at h
  cases hread : read value with
  | error reason =>
    rw [hread] at h
    cases h
  | ok other =>
    rw [hread] at h
    cases h
    exact lossless_of_read hread

end Filter

namespace Where

theorem lossless_of_readMembers {members : List (String × Json)} {clause next : Where}
    (h : clause.readMembers members = .ok next) (hclause : ∀ entry ∈ clause.toList, entry.2.Lossless) :
    ∀ entry ∈ next.toList, entry.2.Lossless := by
  induction members generalizing clause with
  | nil =>
    cases h
    exact hclause
  | cons member members ih =>
    obtain ⟨field, value⟩ := member
    rw [readMembers] at h
    obtain ⟨filter, hfilter, hrest⟩ := Json.bind_eq_ok_iff.mp h
    refine ih hrest fun entry hentry => ?_
    rcases Entries.mem_of_mem_set hentry with rfl | hold
    · exact Filter.lossless_of_ofJson hfilter
    · exact hclause entry hold

/-- A where-clause that is read holds nothing that JSON has no form for. -/
theorem lossless_of_ofJson {value : Json} {clause : Where} (h : ofJson value = .ok clause) :
    ∀ entry ∈ clause.toList, entry.2.Lossless := by
  cases value with
  | object members => exact lossless_of_readMembers h (by simp)
  | null =>
    cases h
    simp
  | _ => cases h

end Where

/-! ## What is written -/

open Json (NullFree NullOnly Place)

theorem Literal.nullFree_toJson {literal : Literal} (h : literal.IsFinite) :
    literal.toJson.NullFree := by
  cases literal with
  | integer n => exact Json.nullFree_number _
  | unsigned n => exact Json.nullFree_number _
  | float x => exact Json.nullFree_ofDouble h
  | text value => exact Json.nullFree_string value

theorem Fuzziness.nullFree_toJson (fuzziness : Fuzziness) : fuzziness.toJson.NullFree := by
  cases fuzziness with
  | edits count => exact Json.nullFree_number _
  | expression text => exact Json.nullFree_string text

theorem nullFree_boost {boost : Option Double} (h : FiniteBoost boost) :
    ∀ value ∈ boost.map Json.ofDouble, value.NullFree := by
  intro value hvalue
  obtain ⟨x, hx, rfl⟩ := Option.map_eq_some_iff.mp hvalue
  exact Json.nullFree_ofDouble (h x hx)

theorem nullFree_some_string (text : String) : ∀ value ∈ some (Json.string text), value.NullFree := by
  rintro _ ⟨⟩
  exact Json.nullFree_string text

theorem nullFree_texts (text? : Option String) : ∀ value ∈ text?.map Json.string, value.NullFree :=
  Json.nullFree_map Json.nullFree_string text?

theorem nullFree_flags (flag? : Option Bool) : ∀ value ∈ flag?.map Json.bool, value.NullFree :=
  Json.nullFree_map Json.nullFree_bool flag?

theorem nullFree_counts (count? : Option UInt32) :
    ∀ value ∈ count?.map Json.ofUInt32, value.NullFree :=
  Json.nullFree_map (fun _ => Json.nullFree_number _) count?

theorem FuzzyOptions.nullFree_toJson (options : FuzzyOptions) : options.toJson.NullFree := by
  rw [toJson, members_eq]
  refine .present ?_
  simp only [rows, List.forall_mem_cons, List.not_mem_nil, false_implies, implies_true, and_true]
  exact ⟨nullFree_some_string _, Json.nullFree_map Fuzziness.nullFree_toJson _, nullFree_counts _,
    nullFree_counts _, nullFree_texts _, nullFree_flags _⟩

theorem RegexOptions.nullFree_toJson (options : RegexOptions) : options.toJson.NullFree := by
  rw [toJson, members_eq]
  refine .present ?_
  simp only [rows, List.forall_mem_cons, List.not_mem_nil, false_implies, implies_true, and_true]
  exact ⟨nullFree_some_string _, nullFree_flags _, nullFree_texts _, nullFree_counts _,
    nullFree_texts _⟩

theorem WildcardOptions.nullFree_toJson {options : WildcardOptions}
    (h : FiniteBoost options.boost) : options.toJson.NullFree := by
  rw [toJson, members_eq]
  refine .present ?_
  simp only [rows, List.forall_mem_cons, List.not_mem_nil, false_implies, implies_true, and_true]
  exact ⟨nullFree_some_string _, nullFree_flags _, nullFree_boost h, nullFree_texts _⟩

/-- The names of the bounds. -/
def RangeOptions.boundNames : List String := ["gt", "gte", "lt", "lte"]

/-- Something inside the bound of that name. -/
def RangeOptions.InsideBound (path : List Place) : Prop :=
  ∃ bound ∈ boundNames, ∃ inner, inner ≠ [] ∧ path = .member bound :: inner

theorem RangeOptions.nullOnly_bound {bound : Option Json} (h : bound ≠ some .null) {name : String}
    (hname : name ∈ boundNames) :
    ∀ value ∈ bound, value.NullOnly fun path => InsideBound (.member name :: path) := by
  rintro value rfl path hpath
  have hvalue : value ≠ .null := fun hnull => h (congrArg some hnull)
  exact ⟨name, hname, path, Json.nullOnly_of_ne hvalue path hpath, rfl⟩

/-- In what is written for a range, null stands inside of bounds. -/
theorem RangeOptions.nullOnly_toJson {options : RangeOptions} (hboost : FiniteBoost options.boost)
    (hbounds : ∀ bound ∈ options.bounds, bound ≠ some .null) :
    options.toJson.NullOnly InsideBound := by
  simp only [bounds, List.forall_mem_cons] at hbounds
  obtain ⟨hgt, hgte, hlt, hlte, -⟩ := hbounds
  have hfree {values : Option Json} (h : ∀ value ∈ values, value.NullFree) (name : String) :
      ∀ value ∈ values, value.NullOnly fun path => InsideBound (.member name :: path) :=
    fun value hvalue => (h value hvalue).nullOnly _
  rw [toJson, members_eq]
  refine .present ?_
  simp only [rows, List.forall_mem_cons, List.not_mem_nil, false_implies, implies_true, and_true]
  exact ⟨nullOnly_bound hgt (by decide), nullOnly_bound hgte (by decide),
    nullOnly_bound hlt (by decide), nullOnly_bound hlte (by decide),
    hfree (nullFree_texts _) _, hfree (Json.nullFree_map (fun _ => Json.nullFree_string _) _) _,
    hfree (nullFree_boost hboost) _, hfree (nullFree_texts _) _⟩

namespace Query

/-- Something inside a bound of a range, behind the way to the clause that gathers the ranges. -/
def InsideRange (path : List Place) : Prop :=
  ∃ field inner, RangeOptions.InsideBound inner ∧
    path = .member "range" :: .member field :: inner

theorem nullFree_ownClause? {filter : Filter} (h : filter.Lossless) {field : String} {query : Query}
    (hquery : filter.ownClause? field = some query) : query.toJson.NullFree := by
  cases filter with
  | literal value =>
    rw [Filter.ownClause?_literal] at hquery
    cases hquery
    exact .single (.single (Literal.nullFree_toJson (Filter.isFinite_of_sendable h.sendable)))
  | exact value =>
    cases hquery
    exact .single (.single (Json.nullFree_string value))
  | fuzzy options =>
    cases hquery
    exact .single (.single (FuzzyOptions.nullFree_toJson _))
  | regex options =>
    cases hquery
    exact .single (.single options.nullFree_toJson)
  | wildcard options =>
    cases hquery
    exact .single (.single (WildcardOptions.nullFree_toJson h.finiteBoost))
  | range options => cases hquery
  | present =>
    cases hquery
    exact .single (.single (Json.nullFree_string field))

theorem lossless_bounded? {filter : Filter} (h : filter.Lossless) {field : String}
    {range : String × RangeOptions} (hrange : filter.bounded? field = some range) :
    (Filter.range range.2).Lossless := by
  cases filter with
  | range options =>
    rw [Filter.bounded?] at hrange
    split at hrange
    · cases hrange
      exact h
    · cases hrange
  | _ => cases hrange

/-- In the clauses of a where-clause, null stands inside of the bounds of ranges. -/
theorem nullOnly_of_mem_all {clause : Where} (h : ∀ entry ∈ clause.toList, entry.2.Lossless)
    {query : Query} (hquery : query ∈ clause.clauses.all) : query.toJson.NullOnly InsideRange := by
  rw [Where.all_clauses, List.mem_append] at hquery
  rcases hquery with hown | hrange
  · obtain ⟨entry, hentry, hsome⟩ := List.mem_filterMap.mp hown
    exact (nullFree_ownClause? (h entry hentry) hsome).nullOnly _
  · have hquery : query = .range clause.ranges := by
      rw [Where.rangeClause] at hrange
      split at hrange
      · cases hrange
      · exact List.mem_singleton.mp hrange
    rw [hquery, toJson]
    refine .single (.object (List.forall_mem_map.mpr fun range hrange => ?_))
    obtain ⟨entry, hentry, hsome⟩ := List.mem_filterMap.mp hrange
    obtain ⟨-, hboost, hbounds⟩ := lossless_bounded? (h entry hentry) hsome
    intro path hpath
    exact ⟨range.1, path, RangeOptions.nullOnly_toJson hboost hbounds path hpath, rfl⟩

end Query

namespace Search

/-- The way from the body of a search to a bound: the clause that gathers the ranges, a field of it
and the bound's name. -/
def boundPath (clause : Nat) (field bound : String) : List Place :=
  [.member "query", .member "bool", .member "must", .item clause, .member "range", .member field,
    .member bound]

/-- Something inside a bound of a search. -/
def InsideBound (path : List Place) : Prop :=
  ∃ clause field bound inner, bound ∈ RangeOptions.boundNames ∧ inner ≠ [] ∧
    path = boundPath clause field bound ++ inner

theorem nullOnly_query {clause : Where} (h : ∀ entry ∈ clause.toList, entry.2.Lossless) :
    clause.toQuery.orMatchAll.toJson.NullOnly fun path => InsideBound (.member "query" :: path) := by
  cases hall : clause.clauses.all with
  | nil =>
    -- Without clauses everything is asked for, and there is no range.
    rw [Where.toQuery, hall]
    exact .single (.object (by simp))
  | cons first rest =>
    rw [Where.orMatchAll_toQuery (by simp [hall]), Where.toJson_toQuery]
    refine .single (.single (.array fun i part hpart path hpath => ?_))
    obtain ⟨query, hquery, rfl⟩ := List.mem_map.mp (List.mem_of_getElem? hpart)
    obtain ⟨field, _, ⟨bound, hbound, inner, hinner, rfl⟩, rfl⟩ :=
      Query.nullOnly_of_mem_all h hquery path hpath
    exact ⟨i, field, bound, inner, hbound, hinner, rfl⟩

theorem nullOnly_searchBody {wanted : Search}
    (h : ∀ entry ∈ wanted.filters.toList, entry.2.Lossless) :
    (Call.searchBody wanted).NullOnly InsideBound := by
  refine .object fun member hmember => ?_
  simp only [List.mem_append, List.mem_singleton] at hmember
  have hcount {n : Option UInt64} {name : String}
      (hmember : member ∈ Json.optional name (n.map Json.ofUInt64)) : member.2.NullFree := by
    cases n with
    | none => cases hmember
    | some n =>
      obtain rfl := List.mem_singleton.mp hmember
      exact Json.nullFree_number _
  obtain (hfrom | hsize) | rfl := hmember
  · exact (hcount hfrom).nullOnly _
  · exact (hcount hsize).nullOnly _
  · exact nullOnly_query h

end Search

/-- **A where-clause that is read can be sent**, whatever the page that is asked for. Null stands in
the body of the search, if at all, inside of a bound that is an array or an object. -/
theorem Where.sendable_of_ofJson {value : Json} {clause : Where} (h : ofJson value = .ok clause)
    (limit offset : Option UInt64) :
    clause.validate = .ok () ∧
      ∃ body, Search.toJson { filters := clause, limit, offset } = .ok body ∧
        ∀ path, body.At path .null → ∃ i field bound inner part,
          bound ∈ ["gt", "gte", "lt", "lte"] ∧ path = Search.boundPath i field bound ++ inner ∧
            body.At (Search.boundPath i field bound) part ∧ part.IsCompound ∧
            inner ≠ [] ∧ part.At inner .null := by
  have hlossless := lossless_of_ofJson h
  have hvalid : clause.validate = .ok () :=
    validate_of_sendable fun entry hentry => (hlossless entry hentry).sendable
  refine ⟨hvalid, Call.searchBody { filters := clause, limit, offset }, ?rendered, ?nulls⟩
  case rendered =>
    rw [Search.toJson, hvalid]
    rfl
  case nulls =>
    intro path hpath
    obtain ⟨i, field, bound, inner, hbound, hinner, rfl⟩ :=
      Search.nullOnly_searchBody hlossless path hpath
    -- Something is left of the path behind the bound, so the bound has parts.
    obtain ⟨part, hpart, hnull⟩ := hpath.split
    exact ⟨i, field, bound, inner, part, hbound, rfl, hpart, hnull.isCompound hinner, hinner, hnull⟩

/-- A range with one end unset and an array for the other, next to a boosted pattern: null stands in
the array, in the second clause, and nowhere outside of bounds. -/
theorem Where.sendable_of_ofJson_open_range :
    let value : Json := .object
      [("year", .object [("type", .string "range"), ("gte", .array [.null]), ("lt", .null)]),
        ("title", .object
          [("type", .string "wildcard"), ("value", .string "a*"), ("boost", .ofUInt8 3)])]
    let clause := ofList
      [("year", .range { gte := some (.array [.null]) }),
        ("title", .wildcard { value := "a*", boost := some (.ofInt 3) })]
    ofJson value = .ok clause ∧ clause.validate = .ok () ∧
      ∃ body, Search.toJson { filters := clause, limit := some 10 } = .ok body ∧
        body.At (Search.boundPath 1 "year" "gte" ++ [.item 0]) .null ∧
        ∀ path, body.At path .null → ∃ i field bound inner,
          bound ∈ ["gt", "gte", "lt", "lte"] ∧ path = Search.boundPath i field bound ++ inner ∧
            inner ≠ [] := by
  intro value clause
  have hread : ofJson value = .ok clause := by decide +kernel
  obtain ⟨hvalid, body, hbody, hnulls⟩ := sendable_of_ofJson hread (some 10) none
  have hwritten : Search.toJson { filters := clause, limit := some 10 }
      = .ok (.object [("size", .ofUInt64 10), ("query", .single "bool" (.single "must" (.array
          [.single "wildcard" (.single "title.keyword"
            (.object [("value", .string "a*"), ("boost", .ofDouble (.ofInt 3))])),
           .single "range" (.single "year" (.single "gte" (.array [.null])))])))]) := by
    decide +kernel
  refine ⟨hread, hvalid, body, hbody, ?_, fun path hpath => ?_⟩
  · obtain rfl := Except.ok.inj (hwritten.symm.trans hbody)
    have hbound : (Json.array [.null]).At [.item 0] .null := .item rfl (.here _)
    have hrange : (Json.single "range" (.single "year" (.single "gte" (.array [.null])))).At
        [.member "range", .member "year", .member "gte", .item 0] .null :=
      .member (.head _) (.member (.head _) (.member (.head _) hbound))
    exact .member (.tail _ (.head _)) (.member (.head _) (.member (.head _) (.item rfl hrange)))
  · obtain ⟨i, field, bound, inner, -, hbound, rfl, -, -, hinner, -⟩ := hnulls path hpath
    exact ⟨i, field, bound, inner, hbound, rfl, hinner⟩

end DocSearch
