/-
What is written for a literal and for the options of a filter, and what comes back when it is read.
A literal comes back in its `normal` form, in which an integer is signed where that holds it.
Options come back as they were (`kept`), but for what JSON cannot tell from nothing at all: a bound
that is null, and a weight that is infinite or NaN.

Each record of options is stated in rows once (`rows`), and the shape that reads it is followed
field by field (`reads_shape`). What is read from members, in whatever order they come, and that the
members tell the options (`eq_of_members`), both follow from that.
-/
import DocSearch.Filter.Basic
import DocSearch.Proofs.SpelledMembers

namespace DocSearch

open Json (Decoded present present_injective)
open Json.Shape (Optionally Reads)

/-! ## Values -/

namespace Json

theorem readUnsigned_natCast {bits n : Nat} (h : n < Nat.pow 2 bits) (hrange : InRange n) :
    readUnsigned bits (.number (.integer n hrange)) = .ok ⟨n, h⟩ := by
  have hboth : 0 ≤ (n : Int) ∧ (n : Int).toNat < Nat.pow 2 bits := ⟨Int.natCast_nonneg n, h⟩
  rw [readUnsigned, dif_pos hboth]
  rfl

theorem readString_string (text : String) : readString (.string text) = .ok text := rfl

theorem readBool_bool (value : Bool) : readBool (.bool value) = .ok value := rfl

theorem readUInt8_ofUInt8 (n : UInt8) : readUInt8 (.ofUInt8 n) = .ok n := by
  rw [readUInt8, ofUInt8, Number.ofUInt8, readUnsigned_natCast n.toNat_lt]
  exact congrArg Except.ok (UInt8.toNat_inj.mp UInt8.toNat_ofNatLT)

theorem readUInt32_ofUInt32 (n : UInt32) : readUInt32 (.ofUInt32 n) = .ok n := by
  rw [readUInt32, ofUInt32, Number.ofUInt32, readUnsigned_natCast n.toNat_lt]
  exact congrArg Except.ok (UInt32.toNat_inj.mp UInt32.toNat_ofNatLT)

/-- What is written is given back, whether it is there or not. -/
theorem Shape.Optionally.of_map {α : Type} {read : Json → Decoded α} {write : α → Json}
    (hread : ∀ a, read (write a) = .ok a) (hwrite : ∀ a, write a ≠ .null) (a? : Option α) :
    Optionally (fun value a => read value = .ok a) (a?.map write) a? := by
  cases a? with
  | none => exact .absent
  | some a => exact .given (hwrite a) (hread a)

end Json

theorem Fuzziness.ofJson_toJson (fuzziness : Fuzziness) :
    ofJson fuzziness.toJson = .ok fuzziness := by
  cases fuzziness with
  | edits count => simp only [ofJson, toJson, Json.readUInt8_ofUInt8]
  | expression text => rfl

theorem Fuzziness.toJson_ne_null (fuzziness : Fuzziness) : fuzziness.toJson ≠ .null := by
  cases fuzziness <;> nofun

theorem RangeRelation.ofJson_name (isUnit : Json → Bool) (relation : RangeRelation) :
    ofJson isUnit (.string relation.name) = .ok relation :=
  Json.choose_eq_ok_iff.mpr relation.lookup_name

/-! ## Literals -/

namespace Literal

/-- The form in which a literal comes back: signed where a signed integer holds it. -/
def normal : Literal → Literal
  | .unsigned n =>
    if n.toNat < 9223372036854775808 then .integer (Int64.ofInt n.toNat) else .unsigned n
  | literal => literal

/-- The value of a literal that is an integer. -/
def integer? : Literal → Option Int
  | .integer n => some n.toInt
  | .unsigned n => some n.toNat
  | _ => none

theorem toInt_ofInt_toNat {n : UInt64} (h : n.toNat < 9223372036854775808) :
    (Int64.ofInt n.toNat).toInt = n.toNat :=
  Int64.toInt_ofInt_of_le (by omega) (by omega)

theorem toJson_normal (literal : Literal) : literal.normal.toJson = literal.toJson := by
  cases literal with
  | unsigned n =>
    rw [normal]
    split
    · next h =>
      simp only [toJson, Json.ofInt64, Json.ofUInt64, Json.Number.ofInt64, Json.Number.ofUInt64,
        toInt_ofInt_toNat h]
    · rfl
  | _ => rfl

/-- The literal of the number that is written for an integer has the integer's value. -/
theorem integer?_ofNumber (n : Int) (h : Json.InRange n) :
    (ofNumber (.integer n h)).integer? = some n := by
  have hlow : -9223372036854775808 ≤ n := h.1
  have hhigh : n < 18446744073709551616 := h.2
  rw [ofNumber]
  split
  · rw [integer?, Int64.toInt_ofInt_of_le (by omega) (by omega)]
  · have hnat : n.toNat < UInt64.size := by simp only [UInt64.size]; omega
    rw [integer?, UInt64.toNat_ofNat_of_lt' hnat, Int.toNat_of_nonneg (by omega)]

/-- A literal that can be written comes back in its normal form. -/
theorem read_toJson {literal : Literal} (h : literal.IsFinite) :
    Filter.read literal.toJson = .ok (.literal literal.normal) := by
  cases literal with
  | integer n =>
    have hlt : n.toInt < 9223372036854775808 := n.toInt_lt
    rw [toJson, Json.ofInt64, Json.Number.ofInt64, Filter.read, ofNumber, if_pos hlt,
      Int64.ofInt_toInt]
    rfl
  | unsigned n =>
    rw [toJson, Json.ofUInt64, Json.Number.ofUInt64, Filter.read, ofNumber, normal]
    by_cases hlt : n.toNat < 9223372036854775808
    · rw [if_pos (by omega), if_pos hlt]
    · rw [if_neg (by omega), if_neg hlt, Int.toNat_natCast, UInt64.ofNat_toNat]
  | float x =>
    have hx : x.IsFinite := h
    rw [toJson, Json.ofDouble, dif_pos hx]
    rfl
  | text value => rfl

end Literal

/-! ## Weights -/

/-- The weight, if there is one, has a JSON form. -/
def FiniteBoost (boost : Option Double) : Prop := ∀ x ∈ boost, x.IsFinite

instance (boost : Option Double) : Decidable (FiniteBoost boost) :=
  inferInstanceAs (Decidable (∀ x ∈ boost, x.IsFinite))

/-- A weight as it comes back: one that is not finite is lost. -/
def keptBoost (boost : Option Double) : Option Double := boost.filter fun x => x.IsFinite

theorem keptBoost_of_finite {boost : Option Double} (h : FiniteBoost boost) :
    keptBoost boost = boost := by
  cases boost with
  | none => rfl
  | some x => rw [keptBoost, Option.filter_some, if_pos (by simpa using h x rfl)]

theorem optionally_boost (boost : Option Double) :
    Optionally (fun value x => Json.readDouble value = .ok x) (boost.map Json.ofDouble)
      (keptBoost boost) := by
  cases boost with
  | none => exact .absent
  | some x =>
    rw [Option.map_some, Json.ofDouble, keptBoost, Option.filter_some]
    by_cases hx : x.IsFinite
    · rw [dif_pos hx, if_pos (by simpa using hx)]
      exact .given (by simp) rfl
    · rw [dif_neg hx, if_neg (by simpa using hx)]
      exact .null

/-! ## Bounds -/

/-- A bound as it comes back: one that is null is lost. -/
def keptBound (bound : Option Json) : Option Json := bound.filter fun value => value ≠ .null

theorem keptBound_of_ne {bound : Option Json} (h : bound ≠ some .null) :
    keptBound bound = bound := by
  cases bound with
  | none => rfl
  | some value =>
    have hvalue : value ≠ .null := fun hnull => h (congrArg some hnull)
    rw [keptBound, Option.filter_some, if_pos (by simpa using hvalue)]

theorem optionally_bound (bound : Option Json) :
    Optionally (fun value json => (.ok value : Decoded Json) = .ok json) bound
      (keptBound bound) := by
  cases bound with
  | none => exact .absent
  | some value =>
    by_cases hvalue : value = .null
    · subst hvalue
      exact .null
    · rw [keptBound_of_ne (by simpa using hvalue)]
      exact .given hvalue rfl

/-! ## Options -/

namespace FuzzyOptions

/-- What the options are written as, row by row. -/
def rows (options : FuzzyOptions) : List (String × Option Json) :=
  [("value", some (.string options.value)),
   ("fuzziness", options.fuzziness.map Fuzziness.toJson),
   ("max_expansions", options.maxExpansions.map Json.ofUInt32),
   ("prefix_length", options.prefixLength.map Json.ofUInt32),
   ("rewrite", options.termMethod.map Json.string),
   ("transpositions", options.transpositions.map Json.bool)]

theorem members_eq (options : FuzzyOptions) : options.members = present options.rows := by
  simp [members, rows, present, Json.optional]

theorem reads_shape (options : FuzzyOptions) : shape.Reads options.rows options :=
  Reads.of "FuzzyFilter" FuzzyOptions.mk
    |>.required (by simp) (Json.readString_string options.value)
    |>.setting (by simp) (by simp)
      (.of_map Fuzziness.ofJson_toJson Fuzziness.toJson_ne_null options.fuzziness)
    |>.setting (by simp) (by simp)
      (.of_map Json.readUInt32_ofUInt32 (by nofun) options.maxExpansions)
    |>.setting (by simp) (by simp)
      (.of_map Json.readUInt32_ofUInt32 (by nofun) options.prefixLength)
    |>.setting (by simp) (by simp) (.of_map Json.readString_string (by nofun) options.termMethod)
    |>.setting (by simp) (by simp) (.of_map Json.readBool_bool (by nofun) options.transpositions)

theorem eq_of_members {a b : FuzzyOptions} (h : a.members = b.members) : a = b := by
  rw [members_eq, members_eq] at h
  exact a.reads_shape.eq_of_present b.reads_shape h

end FuzzyOptions

namespace RegexOptions

/-- What the options are written as, row by row. -/
def rows (options : RegexOptions) : List (String × Option Json) :=
  [("value", some (.string options.value)),
   ("case_insensitive", options.caseInsensitive.map Json.bool),
   ("flags", options.flags.map Json.string),
   ("max_determinized_states", options.maxDeterminizedStates.map Json.ofUInt32),
   ("rewrite", options.termMethod.map Json.string)]

theorem members_eq (options : RegexOptions) : options.members = present options.rows := by
  simp [members, rows, present, Json.optional]

theorem reads_shape (options : RegexOptions) : shape.Reads options.rows options :=
  Reads.of "RegexFilter" RegexOptions.mk
    |>.required (by simp) (Json.readString_string options.value)
    |>.setting (by simp) (by simp) (.of_map Json.readBool_bool (by nofun) options.caseInsensitive)
    |>.setting (by simp) (by simp) (.of_map Json.readString_string (by nofun) options.flags)
    |>.setting (by simp) (by simp)
      (.of_map Json.readUInt32_ofUInt32 (by nofun) options.maxDeterminizedStates)
    |>.setting (by simp) (by simp) (.of_map Json.readString_string (by nofun) options.termMethod)

theorem eq_of_members {a b : RegexOptions} (h : a.members = b.members) : a = b := by
  rw [members_eq, members_eq] at h
  exact a.reads_shape.eq_of_present b.reads_shape h

end RegexOptions

namespace WildcardOptions

/-- What the options are written as, row by row. -/
def rows (options : WildcardOptions) : List (String × Option Json) :=
  [("value", some (.string options.value)),
   ("case_insensitive", options.caseInsensitive.map Json.bool),
   ("boost", options.boost.map Json.ofDouble),
   ("rewrite", options.termMethod.map Json.string)]

/-- The options as they come back: a weight that is not finite is lost. -/
def kept (options : WildcardOptions) : WildcardOptions :=
  { options with boost := keptBoost options.boost }

theorem members_eq (options : WildcardOptions) : options.members = present options.rows := by
  simp [members, rows, present, Json.optional]

theorem reads_shape (options : WildcardOptions) : shape.Reads options.rows options.kept :=
  Reads.of "WildcardFilter" WildcardOptions.mk
    |>.required (by simp) (Json.readString_string options.value)
    |>.setting (by simp) (by simp) (.of_map Json.readBool_bool (by nofun) options.caseInsensitive)
    |>.setting (by simp) (by simp) (optionally_boost options.boost)
    |>.setting (by simp) (by simp) (.of_map Json.readString_string (by nofun) options.termMethod)

theorem kept_eq_self {options : WildcardOptions} (h : FiniteBoost options.boost) :
    options.kept = options := by
  rw [kept, keptBoost_of_finite h]

theorem eq_of_members {a b : WildcardOptions} (ha : FiniteBoost a.boost) (hb : FiniteBoost b.boost)
    (h : a.members = b.members) : a = b := by
  rw [members_eq, members_eq] at h
  have hkept : a.kept = b.kept := a.reads_shape.eq_of_present b.reads_shape h
  rwa [kept_eq_self ha, kept_eq_self hb] at hkept

end WildcardOptions

namespace RangeOptions

/-- What the options are written as, row by row. -/
def rows (options : RangeOptions) : List (String × Option Json) :=
  [("gt", options.gt), ("gte", options.gte), ("lt", options.lt), ("lte", options.lte),
   ("format", options.format.map Json.string),
   ("relation", options.relation.map fun relation => .string relation.name),
   ("boost", options.boost.map Json.ofDouble),
   ("time_zone", options.timeZone.map Json.string)]

/-- The options as they come back: bounds that are null and a weight that is not finite are lost. -/
def kept (options : RangeOptions) : RangeOptions :=
  { options with
    gt := keptBound options.gt
    gte := keptBound options.gte
    lt := keptBound options.lt
    lte := keptBound options.lte
    boost := keptBoost options.boost }

theorem members_eq (options : RangeOptions) : options.members = present options.rows := by
  simp [members, rows, present]

theorem reads_shape (isUnit : Json → Bool) (options : RangeOptions) :
    (shape isUnit).Reads options.rows options.kept :=
  Reads.of "RangeFilter" RangeOptions.mk
    |>.setting (by simp) (by simp) (optionally_bound options.gt)
    |>.setting (by simp) (by simp) (optionally_bound options.gte)
    |>.setting (by simp) (by simp) (optionally_bound options.lt)
    |>.setting (by simp) (by simp) (optionally_bound options.lte)
    |>.setting (by simp) (by simp) (.of_map Json.readString_string (by nofun) options.format)
    |>.setting (by simp) (by simp)
      (.of_map (RangeRelation.ofJson_name isUnit) (by nofun) options.relation)
    |>.setting (by simp) (by simp) (optionally_boost options.boost)
    |>.setting (by simp) (by simp) (.of_map Json.readString_string (by nofun) options.timeZone)

/-- The bounds. -/
def bounds (options : RangeOptions) : List (Option Json) :=
  [options.gt, options.gte, options.lt, options.lte]

/-- One of the bounds is given, at least. -/
def isBounded (options : RangeOptions) : Bool := options.bounds.any Option.isSome

theorem hasBounds_eq (options : RangeOptions) : options.hasBounds = options.isBounded := by
  simp [hasBounds, isBounded, bounds, Bool.or_assoc]

theorem kept_eq_self {options : RangeOptions}
    (hbounds : ∀ bound ∈ options.bounds, bound ≠ some .null)
    (hboost : FiniteBoost options.boost) : options.kept = options := by
  simp only [bounds, List.forall_mem_cons] at hbounds
  obtain ⟨hgt, hgte, hlt, hlte, -⟩ := hbounds
  rw [kept, keptBound_of_ne hgt, keptBound_of_ne hgte, keptBound_of_ne hlt, keptBound_of_ne hlte,
    keptBoost_of_finite hboost]

/-- A bound that is null is lost in reading, not in writing. -/
theorem eq_of_members {a b : RangeOptions} (ha : FiniteBoost a.boost) (hb : FiniteBoost b.boost)
    (h : a.members = b.members) : a = b := by
  rw [members_eq, members_eq] at h
  have hrows : a.rows = b.rows := present_injective rfl (by simp [rows]) h
  have hkept : a.kept = b.kept :=
    (a.reads_shape Json.isNullOrEmpty).eq_of_present (b.reads_shape Json.isNullOrEmpty) h
  have hbounds : a.gt = b.gt ∧ a.gte = b.gte ∧ a.lt = b.lt ∧ a.lte = b.lte := by
    simp only [rows, List.cons.injEq, Prod.mk.injEq, true_and] at hrows
    exact ⟨hrows.1, hrows.2.1, hrows.2.2.1, hrows.2.2.2.1⟩
  obtain ⟨hgt, hgte, hlt, hlte⟩ := hbounds
  have hself : ∀ options : RangeOptions, FiniteBoost options.boost →
      { options.kept with
        gt := options.gt, gte := options.gte, lt := options.lt, lte := options.lte } = options := by
    intro options hboost
    rw [kept, keptBoost_of_finite hboost]
  calc
    a = { a.kept with gt := a.gt, gte := a.gte, lt := a.lt, lte := a.lte } := (hself a ha).symm
    _ = { b.kept with gt := b.gt, gte := b.gte, lt := b.lt, lte := b.lte } := by
      rw [hkept, hgt, hgte, hlt, hlte]
    _ = b := hself b hb

end RangeOptions

/-! ## Filters -/

namespace Filter

/-- The weight of the filter, if it has one, has a JSON form. -/
def FiniteBoost : Filter → Prop
  | .wildcard options => DocSearch.FiniteBoost options.boost
  | .range options => DocSearch.FiniteBoost options.boost
  | _ => True

instance : (filter : Filter) → Decidable filter.FiniteBoost
  | .wildcard options => inferInstanceAs (Decidable (DocSearch.FiniteBoost options.boost))
  | .range options => inferInstanceAs (Decidable (DocSearch.FiniteBoost options.boost))
  | .literal _ | .exact _ | .fuzzy _ | .regex _ | .present => isTrue trivial

end Filter

end DocSearch
