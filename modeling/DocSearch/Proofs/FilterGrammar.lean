/-
Which values are read as filters, and as which (`Filter.Accepted`). A text and a number stand for
themselves; an object names its kind, and the options of that kind are what its members give
(`GivenBy`): each under one of its names at most, null or of the option's own type. Other members do
not matter, and neither does the order.

The shapes that read options are followed field by field (`readsWhen_shape`), so each condition of
`GivenBy` is the one that its field contributes.
-/
import DocSearch.Proofs.BodyFacts
import DocSearch.Proofs.FilterForms
import DocSearch.Proofs.GivenFields
import DocSearch.Proofs.LatestEntries
import Mathlib.Tactic.MkIffOfInductiveProp

namespace DocSearch

open Json (Decoded Gives Sets)
open Json.Shape (ReadsWhen)

/-! ## Values of options -/

theorem Fuzziness.ofJson_eq_ok_iff {value : Json} {fuzziness : Fuzziness} :
    ofJson value = .ok fuzziness ↔ value = fuzziness.toJson := by
  refine ⟨fun h => ?_, fun h => h ▸ fuzziness.ofJson_toJson⟩
  unfold ofJson at h
  split at h
  · next count hcount =>
    cases h
    exact Json.readUInt8_eq_ok_iff.mp hcount
  · split at h <;> cases h
    rfl

/-- How a relation stands among the options of a filter. -/
inductive RangeRelation.Stands (relation : RangeRelation) : Json → Prop
  | name : Stands relation (.string relation.name)
  | single {content : Json} : content = .null ∨ content = .object [] →
      Stands relation (.single relation.name content)

theorem Json.isNullOrEmpty_iff {value : Json} :
    isNullOrEmpty value = true ↔ value = .null ∨ value = .object [] := by
  cases value with
  | object members => cases members <;> simp [isNullOrEmpty]
  | _ => simp [isNullOrEmpty]

theorem RangeRelation.ofJson_eq_ok_iff {value : Json} {relation : RangeRelation} :
    ofJson Json.isNullOrEmpty value = .ok relation ↔ relation.Stands value := by
  have hlookup {name : String} : table.lookup name = some relation ↔ name = relation.name :=
    Json.lookup_eq_some_iff_name lookup_name (by simp [table, RangeRelation.name])
  simp only [ofJson, Json.readChoice_eq_ok_iff, hlookup, exists_eq_left, Json.isNullOrEmpty_iff]
  constructor
  · rintro (rfl | ⟨content, hcontent, rfl⟩)
    · exact .name
    · exact .single hcontent
  · rintro (_ | hcontent)
    · exact .inl rfl
    · exact .inr ⟨_, hcontent, rfl⟩

/-! ## Options that members give -/

/-- The members give these options of a fuzzy match. -/
@[mk_iff]
structure FuzzyOptions.GivenBy (members : List (String × Json)) (options : FuzzyOptions) :
    Prop where
  value : Gives members ["value"] (some (.string options.value))
  fuzziness : Sets members ["fuzziness"] (fun value fuzziness => value = fuzziness.toJson)
    options.fuzziness
  maxExpansions : Sets members ["maxExpansions", "max_expansions"] (· = .ofUInt32 ·)
    options.maxExpansions
  prefixLength : Sets members ["prefixLength", "prefix_length"] (· = .ofUInt32 ·)
    options.prefixLength
  termMethod : Sets members ["rewrite"] (· = .string ·) options.termMethod
  transpositions : Sets members ["transpositions"] (· = .bool ·) options.transpositions

theorem FuzzyOptions.readsWhen_shape :
    shape.ReadsWhen fun members options => options.GivenBy members := by
  have hreads : shape.ReadsWhen _ := ReadsWhen.of "FuzzyFilter" FuzzyOptions.mk
    |>.required (by simp) (fun _ _ => Json.readString_eq_ok_iff)
    |>.setting (by simp) (fun _ _ => Fuzziness.ofJson_eq_ok_iff)
    |>.setting (by simp) (fun _ _ => Json.readUInt32_eq_ok_iff)
    |>.setting (by simp) (fun _ _ => Json.readUInt32_eq_ok_iff)
    |>.setting (by simp) (fun _ _ => Json.readString_eq_ok_iff)
    |>.setting (by simp) (fun _ _ => Json.readBool_eq_ok_iff)
  refine hreads.congr fun members options => ?_
  obtain ⟨value, fuzziness, maxExpansions, prefixLength, termMethod, transpositions⟩ := options
  simp [givenBy_iff, and_assoc]

/-- The members give these options of a regular expression. -/
@[mk_iff]
structure RegexOptions.GivenBy (members : List (String × Json)) (options : RegexOptions) :
    Prop where
  value : Gives members ["value"] (some (.string options.value))
  caseInsensitive : Sets members ["caseInsensitive", "case_insensitive"] (· = .bool ·)
    options.caseInsensitive
  flags : Sets members ["flags"] (· = .string ·) options.flags
  maxDeterminizedStates : Sets members ["maxDeterminizedStates", "max_determinized_states"]
    (· = .ofUInt32 ·) options.maxDeterminizedStates
  termMethod : Sets members ["rewrite"] (· = .string ·) options.termMethod

theorem RegexOptions.readsWhen_shape :
    shape.ReadsWhen fun members options => options.GivenBy members := by
  have hreads : shape.ReadsWhen _ := ReadsWhen.of "RegexFilter" RegexOptions.mk
    |>.required (by simp) (fun _ _ => Json.readString_eq_ok_iff)
    |>.setting (by simp) (fun _ _ => Json.readBool_eq_ok_iff)
    |>.setting (by simp) (fun _ _ => Json.readString_eq_ok_iff)
    |>.setting (by simp) (fun _ _ => Json.readUInt32_eq_ok_iff)
    |>.setting (by simp) (fun _ _ => Json.readString_eq_ok_iff)
  refine hreads.congr fun members options => ?_
  obtain ⟨value, caseInsensitive, flags, maxDeterminizedStates, termMethod⟩ := options
  simp [givenBy_iff, and_assoc]

/-- The members give these options of a pattern; its weight may be any number. -/
@[mk_iff]
structure WildcardOptions.GivenBy (members : List (String × Json)) (options : WildcardOptions) :
    Prop where
  value : Gives members ["value"] (some (.string options.value))
  caseInsensitive : Sets members ["caseInsensitive", "case_insensitive"] (· = .bool ·)
    options.caseInsensitive
  boost : Sets members ["boost"] Json.RoundsTo options.boost
  termMethod : Sets members ["rewrite"] (· = .string ·) options.termMethod

theorem WildcardOptions.readsWhen_shape :
    shape.ReadsWhen fun members options => options.GivenBy members := by
  have hreads : shape.ReadsWhen _ := ReadsWhen.of "WildcardFilter" WildcardOptions.mk
    |>.required (by simp) (fun _ _ => Json.readString_eq_ok_iff)
    |>.setting (by simp) (fun _ _ => Json.readBool_eq_ok_iff)
    |>.setting (by simp) (fun _ _ => Json.readDouble_eq_ok_iff)
    |>.setting (by simp) (fun _ _ => Json.readString_eq_ok_iff)
  refine hreads.congr fun members options => ?_
  obtain ⟨value, caseInsensitive, boost, termMethod⟩ := options
  simp [givenBy_iff, and_assoc]

/-- The members give these options of a range. A bound may be any value but null, which leaves it
unset. -/
@[mk_iff]
structure RangeOptions.GivenBy (members : List (String × Json)) (options : RangeOptions) :
    Prop where
  gt : Sets members ["gt"] (· = ·) options.gt
  gte : Sets members ["gte"] (· = ·) options.gte
  lt : Sets members ["lt"] (· = ·) options.lt
  lte : Sets members ["lte"] (· = ·) options.lte
  format : Sets members ["format"] (· = .string ·) options.format
  relation : Sets members ["relation"] (fun value relation => relation.Stands value)
    options.relation
  boost : Sets members ["boost"] Json.RoundsTo options.boost
  timeZone : Sets members ["timeZone", "time_zone", "timezone"] (· = .string ·) options.timeZone

theorem RangeOptions.readsWhen_shape :
    (shape Json.isNullOrEmpty).ReadsWhen fun members options => options.GivenBy members := by
  have hbound : ∀ value bound : Json, (.ok value : Decoded Json) = .ok bound ↔ value = bound := by
    simp
  have hreads : (shape Json.isNullOrEmpty).ReadsWhen _ := ReadsWhen.of "RangeFilter" RangeOptions.mk
    |>.setting (by simp) hbound
    |>.setting (by simp) hbound
    |>.setting (by simp) hbound
    |>.setting (by simp) hbound
    |>.setting (by simp) (fun _ _ => Json.readString_eq_ok_iff)
    |>.setting (by simp) (fun _ _ => RangeRelation.ofJson_eq_ok_iff)
    |>.setting (by simp) (fun _ _ => Json.readDouble_eq_ok_iff)
    |>.setting (by simp) (fun _ _ => Json.readString_eq_ok_iff)
  refine hreads.congr fun members options => ?_
  obtain ⟨gt, gte, lt, lte, format, relation, boost, timeZone⟩ := options
  simp [givenBy_iff, and_assoc]

/-! ## The grammar -/

namespace Filter

namespace Kind

theorem readsWhen_exactShape :
    exactShape.ReadsWhen fun members value => Gives members ["value"] (some (.string value)) := by
  have hreads : exactShape.ReadsWhen _ := ReadsWhen.of "Exact" id
    |>.required (by simp) (fun _ _ => Json.readString_eq_ok_iff)
  refine hreads.congr fun members value => ?_
  simp

/-- The names of a kind. -/
def names : Kind → List String
  | exact => ["exact"]
  | fuzzy => ["fuzzy"]
  | regex => ["regex", "regexp"]
  | wildcard => ["wildcard"]
  | range => ["range"]
  | present => ["exists"]

theorem lookup_table_eq_some_iff {name : String} {kind : Kind} :
    table.lookup name = some kind ↔ name ∈ kind.names := by
  constructor
  · intro h
    obtain ⟨before, after, htable, -⟩ := List.lookup_eq_some_iff.mp h
    have hmem : (name, kind) ∈ table := by simp [htable]
    cases kind <;> simpa [table, names] using hmem
  · intro h
    cases kind with
    | regex =>
      rcases List.mem_pair.mp h with rfl | rfl
      · rfl
      · rfl
    | _ =>
      obtain rfl := List.mem_singleton.mp h
      rfl

/-- The members give this filter of a kind. -/
@[mk_iff]
inductive Tells (members : List (String × Json)) : Kind → Filter → Prop
  | exact {value : String} : Gives members ["value"] (some (.string value)) →
      Tells members .exact (.exact value)
  | fuzzy {options : FuzzyOptions} : options.GivenBy members →
      Tells members .fuzzy (.fuzzy options)
  | regex {options : RegexOptions} : options.GivenBy members →
      Tells members .regex (.regex options)
  | wildcard {options : WildcardOptions} : options.GivenBy members →
      Tells members .wildcard (.wildcard options)
  | range {options : RangeOptions} : options.GivenBy members →
      Tells members .range (.range options)
  | present : Tells members .present .present

theorem readMembers_eq_ok_iff {members : List (String × Json)} {kind : Kind} {filter : Filter} :
    kind.readMembers members = .ok filter ↔ kind.Tells members filter := by
  rw [tells_iff]
  cases kind with
  | exact => simp [readMembers, readsWhen_exactShape.map_eq_ok_iff]
  | fuzzy => simp [readMembers, FuzzyOptions.readsWhen_shape.map_eq_ok_iff]
  | regex => simp [readMembers, RegexOptions.readsWhen_shape.map_eq_ok_iff]
  | wildcard => simp [readMembers, WildcardOptions.readsWhen_shape.map_eq_ok_iff]
  | range => simp [readMembers, RangeOptions.readsWhen_shape.map_eq_ok_iff]
  | present => simp [readMembers, eq_comm]

theorem Tells.of_perm {members others : List (String × Json)} (hperm : members.Perm others)
    {kind : Kind} {filter : Filter} (h : kind.Tells members filter) : kind.Tells others filter := by
  cases h with
  | exact hvalue => exact .exact (readsWhen_exactShape.of_perm hperm hvalue)
  | fuzzy hoptions => exact .fuzzy (FuzzyOptions.readsWhen_shape.of_perm hperm hoptions)
  | regex hoptions => exact .regex (RegexOptions.readsWhen_shape.of_perm hperm hoptions)
  | wildcard hoptions => exact .wildcard (WildcardOptions.readsWhen_shape.of_perm hperm hoptions)
  | range hoptions => exact .range (RangeOptions.readsWhen_shape.of_perm hperm hoptions)
  | present => exact .present

/-- The names of the options of a kind, in all their spellings. -/
def spellings : Kind → List String
  | exact => exactShape.spellings
  | fuzzy => FuzzyOptions.shape.spellings
  | regex => RegexOptions.shape.spellings
  | wildcard => WildcardOptions.shape.spellings
  | range => (RangeOptions.shape Json.isNullOrEmpty).spellings
  | present => []

theorem readMembers_filter (kind : Kind) {keep : String → Bool}
    (h : ∀ name ∈ kind.spellings, keep name = true) (members : List (String × Json)) :
    kind.readMembers (members.filter fun member => keep member.1) = kind.readMembers members := by
  cases kind with
  | present => rfl
  | _ => rw [readMembers, readMembers, Json.Shape.readMembers_filter _ h]

end Kind

/-- The values that are filters, each with the filter it is. -/
inductive Accepted : Json → Filter → Prop
  | text (text : String) : Accepted (.string text) (.literal (.text text))
  /-- An integer that a signed one holds. -/
  | signed (n : Int64) : Accepted (.ofInt64 n) (.literal (.integer n))
  /-- An integer above the largest signed one. -/
  | unsigned (n : UInt64) : 9223372036854775808 ≤ n.toNat →
      Accepted (.ofUInt64 n) (.literal (.unsigned n))
  | real (x : FiniteDouble) : Accepted (.number (.float x)) (.literal (.float x.val))
  /-- An object that names a kind and gives what the kind needs. -/
  | object {members : List (String × Json)} {name : String} {kind : Kind} {filter : Filter} :
      members.lookup "type" = some (.string name) → name ∈ kind.names → kind.Tells members filter →
      Accepted (.object members) filter

theorem accepted_number (n : Json.Number) : Accepted (.number n) (.literal (.ofNumber n)) := by
  cases n with
  | integer m hm =>
    rw [Literal.ofNumber]
    split
    · next hsigned =>
      have hread : Json.readInt64 (.number (.integer m hm)) = .ok (Int64.ofInt m) := if_pos hsigned
      rw [Json.readInt64_eq_ok_iff.mp hread]
      exact .signed _
    · next hsigned =>
      obtain ⟨n, rfl⟩ := Int.eq_ofNat_of_zero_le (show 0 ≤ m by omega)
      have hlt : n < 18446744073709551616 := by
        have := hm.2
        omega
      have hvalue : (UInt64.ofNat n).toNat = n := UInt64.toNat_ofNat_of_lt hlt
      have hjson : Json.number (.integer n hm) = .ofUInt64 (.ofNat n) := by
        simp only [Json.ofUInt64, Json.Number.ofUInt64, hvalue]
      rw [hjson]
      exact .unsigned _ (by omega)
  | float x => exact .real x

/-- The grammar says what is read. -/
theorem read_eq_ok_iff {value : Json} {filter : Filter} :
    read value = .ok filter ↔ Accepted value filter := by
  constructor
  · intro h
    cases value with
    | string text =>
      cases h
      exact .text text
    | number n =>
      cases h
      exact accepted_number n
    | object members =>
      rw [read, readMembers] at h
      split at h
      · next name htype =>
        split at h
        · next hread =>
          cases h
          obtain ⟨kind, hkind, hmembers⟩ := Json.bind_eq_ok_iff.mp hread
          exact .object htype (Kind.lookup_table_eq_some_iff.mp (Json.choose_eq_ok_iff.mp hkind))
            (Kind.readMembers_eq_ok_iff.mp hmembers)
        · cases h
      · cases h
    | bool b => cases h
    | null => cases h
    | array items => cases h
  · intro h
    cases h with
    | text text => rfl
    | signed n =>
      have hfinite : (Literal.integer n).IsFinite := trivial
      exact Literal.read_toJson hfinite
    | unsigned n hn =>
      have hfinite : (Literal.unsigned n).IsFinite := trivial
      have hnormal : (Literal.unsigned n).normal = .unsigned n := if_neg (by omega)
      exact hnormal ▸ Literal.read_toJson hfinite
    | real x => rfl
    | object htype hname hmembers =>
      exact read_object htype (Kind.lookup_table_eq_some_iff.mpr hname)
        (Kind.readMembers_eq_ok_iff.mpr hmembers)

theorem Accepted.of_perm {members others : List (String × Json)} (hperm : members.Perm others)
    (hnodup : (Entries.names members).Nodup) {filter : Filter}
    (h : Accepted (.object members) filter) : Accepted (.object others) filter := by
  cases h with
  | @object _ name _ _ htype hname hmembers =>
    have hothers : (Entries.names others).Nodup := (hperm.map Prod.fst).nodup hnodup
    obtain ⟨before, after, hsplit, -⟩ := List.lookup_eq_some_iff.mp htype
    have hmem : ("type", .string name) ∈ members := by simp [hsplit]
    exact .object (Entries.lookup_of_mem hothers (hperm.mem_iff.mp hmem)) hname
      (hmembers.of_perm hperm)

theorem ofJson_eq_ok_iff {field : String} {value : Json} {filter : Filter} :
    ofJson field value = .ok filter ↔ Accepted value filter := by
  rw [ofJson, Json.mapError_eq_ok_iff, read_eq_ok_iff]

theorem field_of_ofJson_eq_error {field : String} {value : Json} {unsupported : Unsupported}
    (h : ofJson field value = .error unsupported) : unsupported.field = field := by
  obtain ⟨reason, -, rfl⟩ := Json.mapError_eq_error_iff.mp h
  rfl

/-- Only the type and the options of its kind are looked at. -/
theorem readMembers_filter {members : List (String × Json)} {name : String} {kind : Kind}
    (htype : members.lookup "type" = some (.string name)) (hname : name ∈ kind.names) :
    readMembers (members.filter fun member => ("type" :: kind.spellings).contains member.1)
      = readMembers members := by
  have hchoose : Json.choose Kind.table name = .ok kind :=
    Json.choose_eq_ok_iff.mpr (Kind.lookup_table_eq_some_iff.mpr hname)
  have hspellings : ∀ name ∈ kind.spellings, ("type" :: kind.spellings).contains name = true := by
    intro name hmem
    simp [hmem]
  have hmembers := kind.readMembers_filter hspellings members
  rw [readMembers, readMembers, Entries.lookup_filter, if_pos (by simp), htype]
  simp only [hchoose, bind, Except.bind, hmembers]

/-- **What is accepted as a filter, and as which.** A value is read as a filter just when it is one
of the grammar, and as that one; what is refused is refused for the field. The members of an object
may stand in any order, and members that are neither its type nor an option of its kind make no
difference, not even to why it is refused. -/
theorem ofJson_accepts :
    (∀ (field : String) (value : Json) (filter : Filter),
        ofJson field value = .ok filter ↔ Accepted value filter) ∧
      (∀ (field : String) (value : Json) (unsupported : Unsupported),
        ofJson field value = .error unsupported → unsupported.field = field) ∧
      (∀ (field : String) {members others : List (String × Json)}, members.Perm others →
        (Entries.names members).Nodup → ∀ filter : Filter,
          ofJson field (.object members) = .ok filter ↔
            ofJson field (.object others) = .ok filter) ∧
      ∀ (field : String) {members : List (String × Json)} {name : String} {kind : Kind},
        members.lookup "type" = some (.string name) → name ∈ kind.names →
          ofJson field (.object (members.filter fun member =>
              ("type" :: kind.spellings).contains member.1))
            = ofJson field (.object members) := by
  refine ⟨fun field value filter => ofJson_eq_ok_iff,
    fun field value unsupported h => field_of_ofJson_eq_error h, ?order, ?others⟩
  case order =>
    intro field members others hperm hnodup filter
    have hothers : (Entries.names others).Nodup := (hperm.map Prod.fst).nodup hnodup
    rw [ofJson_eq_ok_iff, ofJson_eq_ok_iff]
    exact ⟨.of_perm hperm hnodup, .of_perm hperm.symm hothers⟩
  case others =>
    intro field members name kind htype hname
    rw [ofJson, ofJson, read, read, readMembers_filter htype hname]

/-- A regular expression with an option that is null and a member of no meaning, in two orders; and
a pattern with one option under two spellings, one of them null. -/
theorem ofJson_accepts_films :
    let members : List (String × Json) := [("year", .ofUInt8 90), ("flags", .null),
      ("value", .string "al.*"), ("maxDeterminizedStates", .ofUInt32 5), ("type", .string "regexp")]
    let twice : List (String × Json) := [("type", .string "wildcard"), ("value", .string "al*"),
      ("caseInsensitive", .null), ("case_insensitive", .bool true)]
    let pattern : Filter := .regex { value := "al.*", maxDeterminizedStates := some 5 }
    ofJson "title" (.object members) = .ok pattern ∧
      ofJson "title" (.object members.reverse) = .ok pattern ∧
      ofJson "title" (.object (members.drop 1)) = ofJson "title" (.object members) ∧
      ∃ unsupported, ofJson "title" (.object twice) = .error unsupported ∧
        unsupported.field = "title" := by
  intro members twice pattern
  have htype : members.lookup "type" = some (.string "regexp") := rfl
  have hname : "regexp" ∈ Kind.names .regex := by decide
  have hgiven : RegexOptions.GivenBy members { value := "al.*", maxDeterminizedStates := some 5 } :=
    { value := by decide +kernel
      caseInsensitive := ⟨none, by decide +kernel, .absent⟩
      flags := ⟨some .null, by decide +kernel, .null⟩
      maxDeterminizedStates := ⟨some (.ofUInt32 5), by decide +kernel, .given nofun rfl⟩
      termMethod := ⟨none, by decide +kernel, .absent⟩ }
  have hread : ofJson "title" (.object members) = .ok pattern :=
    (ofJson_accepts.1 "title" _ _).mpr (.object htype hname (.regex hgiven))
  have hrefused : ofJson "title" (.object twice)
      = .error ⟨"title", .options (.repeated "caseInsensitive")⟩ := by decide +kernel
  refine ⟨hread, ?_, ?_, _, hrefused, ofJson_accepts.2.1 "title" _ _ hrefused⟩
  · have hperm : members.Perm members.reverse := members.reverse_perm.symm
    exact (ofJson_accepts.2.2.1 "title" hperm (by decide +kernel) pattern).mp hread
  · have hknown : members.drop 1 = members.filter fun member =>
        ("type" :: Kind.spellings .regex).contains member.1 := by decide +kernel
    rw [hknown, ofJson_accepts.2.2.2 "title" htype hname]

end Filter

end DocSearch
