/-
Options of the filters that take some. In JSON an option is written under its
name in snake case and left out when unset; it is read under its name in camel
case or in snake case, and null counts as unset. A range has up to four
bounds, which may be any JSON value, null among them.
-/
import DocSearch.Json.Shape

namespace DocSearch

open Json (Decoded Shape)

/-! ## Fuzzy matches -/

/-- How many edits a fuzzy match allows. -/
inductive Fuzziness where
  /-- A fixed number of edits. -/
  | edits (count : UInt8)
  /-- An expression for the engine to read. -/
  | expression (text : String)
  deriving DecidableEq

namespace Fuzziness

/-- As many edits as the length of the term suggests. -/
def auto : Fuzziness := .expression "AUTO"

/-- The JSON value of a fuzziness. -/
def toJson : Fuzziness → Json
  | .edits count => .ofUInt8 count
  | .expression text => .string text

/-- Reads a fuzziness from an integer of 8 bits or from a text. -/
def ofJson (value : Json) : Decoded Fuzziness :=
  match Json.readUInt8 value with
  | .ok count => .ok (.edits count)
  | .error _ =>
    match value with
    | .string text => .ok (.expression text)
    | _ => .error (.noForm "Fuzziness")

end Fuzziness

/-- A term to match approximately. -/
structure FuzzyOptions where
  value : String
  /-- How many edits are allowed. -/
  fuzziness : Option Fuzziness := none
  /-- How many variations of the term are tried. -/
  maxExpansions : Option UInt32 := none
  /-- How many leading characters have to match exactly. -/
  prefixLength : Option UInt32 := none
  /-- How the engine joins the terms that match. -/
  termMethod : Option String := none
  /-- Whether the swap of two adjacent characters counts as one edit. -/
  transpositions : Option Bool := none
  deriving DecidableEq

namespace FuzzyOptions

/-- The JSON members of the options. -/
def members (options : FuzzyOptions) : List (String × Json) :=
  ("value", .string options.value)
    :: (Json.optional "fuzziness" (options.fuzziness.map Fuzziness.toJson)
    ++ Json.optional "max_expansions" (options.maxExpansions.map Json.ofUInt32)
    ++ Json.optional "prefix_length" (options.prefixLength.map Json.ofUInt32)
    ++ Json.optional "rewrite" (options.termMethod.map Json.string)
    ++ Json.optional "transpositions" (options.transpositions.map Json.bool))

/-- The JSON object of the options. -/
def toJson (options : FuzzyOptions) : Json := .object options.members

/-- How the options are read. -/
def shape : Shape FuzzyOptions :=
  Shape.of "FuzzyFilter" FuzzyOptions.mk
    |>.required "value" Json.readString
    |>.setting "fuzziness" [] Fuzziness.ofJson
    |>.setting "maxExpansions" ["max_expansions"] Json.readUInt32
    |>.setting "prefixLength" ["prefix_length"] Json.readUInt32
    |>.setting "rewrite" [] Json.readString
    |>.setting "transpositions" [] Json.readBool

/-- The engine's way to count edits, where none is given. -/
def withAuto (options : FuzzyOptions) : FuzzyOptions :=
  { options with fuzziness := some (options.fuzziness.getD .auto) }

end FuzzyOptions

/-! ## Patterns -/

/-- A regular expression to match. -/
structure RegexOptions where
  value : String
  caseInsensitive : Option Bool := none
  /-- The operators that are enabled. -/
  flags : Option String := none
  /-- How many states the automaton may have. -/
  maxDeterminizedStates : Option UInt32 := none
  /-- How the engine joins the terms that match. -/
  termMethod : Option String := none
  deriving DecidableEq

namespace RegexOptions

/-- The JSON members of the options. -/
def members (options : RegexOptions) : List (String × Json) :=
  ("value", .string options.value)
    :: (Json.optional "case_insensitive" (options.caseInsensitive.map Json.bool)
    ++ Json.optional "flags" (options.flags.map Json.string)
    ++ Json.optional "max_determinized_states" (options.maxDeterminizedStates.map Json.ofUInt32)
    ++ Json.optional "rewrite" (options.termMethod.map Json.string))

/-- The JSON object of the options. -/
def toJson (options : RegexOptions) : Json := .object options.members

/-- How the options are read. -/
def shape : Shape RegexOptions :=
  Shape.of "RegexFilter" RegexOptions.mk
    |>.required "value" Json.readString
    |>.setting "caseInsensitive" ["case_insensitive"] Json.readBool
    |>.setting "flags" [] Json.readString
    |>.setting "maxDeterminizedStates" ["max_determinized_states"] Json.readUInt32
    |>.setting "rewrite" [] Json.readString

end RegexOptions

/-- A pattern with `*` and `?` to match. -/
structure WildcardOptions where
  value : String
  caseInsensitive : Option Bool := none
  /-- How much a match weighs. -/
  boost : Option Double := none
  /-- How the engine joins the terms that match. -/
  termMethod : Option String := none
  deriving DecidableEq

/-- Equality of weights, compared as numbers. -/
def sameBoost : Option Double → Option Double → Bool
  | none, none => true
  | some x, some y => x.equals y
  | _, _ => false

namespace WildcardOptions

/-- The JSON members of the options. -/
def members (options : WildcardOptions) : List (String × Json) :=
  ("value", .string options.value)
    :: (Json.optional "case_insensitive" (options.caseInsensitive.map Json.bool)
    ++ Json.optional "boost" (options.boost.map Json.ofDouble)
    ++ Json.optional "rewrite" (options.termMethod.map Json.string))

/-- The JSON object of the options. -/
def toJson (options : WildcardOptions) : Json := .object options.members

/-- How the options are read. -/
def shape : Shape WildcardOptions :=
  Shape.of "WildcardFilter" WildcardOptions.mk
    |>.required "value" Json.readString
    |>.setting "caseInsensitive" ["case_insensitive"] Json.readBool
    |>.setting "boost" [] Json.readDouble
    |>.setting "rewrite" [] Json.readString

/-- Equality of options, weights compared as numbers. -/
def equals (a b : WildcardOptions) : Bool :=
  { a with boost := none } = { b with boost := none } && sameBoost a.boost b.boost

end WildcardOptions

/-! ## Ranges -/

/-- How a field that holds a range is compared with the range asked for. -/
inductive RangeRelation where
  /-- The two overlap. -/
  | intersects
  /-- The field's range contains the other. -/
  | contains
  /-- The field's range lies within the other. -/
  | within
  deriving DecidableEq

namespace RangeRelation

/-- The relations by name. -/
def table : List (String × RangeRelation) :=
  [("INTERSECTS", .intersects), ("CONTAINS", .contains), ("WITHIN", .within)]

/-- The name of a relation. -/
def name : RangeRelation → String
  | intersects => "INTERSECTS"
  | contains => "CONTAINS"
  | within => "WITHIN"

theorem lookup_name (relation : RangeRelation) :
    table.lookup relation.name = some relation := by
  cases relation <;> decide +kernel

/-- Reads a relation, with `isUnit` saying what may stand behind its name. -/
def ofJson (isUnit : Json → Bool) : Json → Decoded RangeRelation := Json.readChoice table isUnit

end RangeRelation

/-- The bounds between which a value has to lie. -/
structure RangeOptions where
  gt : Option Json := none
  gte : Option Json := none
  lt : Option Json := none
  lte : Option Json := none
  /-- The format of dates among the bounds. -/
  format : Option String := none
  /-- How a field that holds a range is compared. -/
  relation : Option RangeRelation := none
  /-- How much a match weighs. -/
  boost : Option Double := none
  /-- The time zone of dates among the bounds. -/
  timeZone : Option String := none
  deriving DecidableEq

namespace RangeOptions

/-- The JSON members of the options. -/
def members (options : RangeOptions) : List (String × Json) :=
  Json.optional "gt" options.gt
    ++ Json.optional "gte" options.gte
    ++ Json.optional "lt" options.lt
    ++ Json.optional "lte" options.lte
    ++ Json.optional "format" (options.format.map Json.string)
    ++ Json.optional "relation" (options.relation.map fun relation => .string relation.name)
    ++ Json.optional "boost" (options.boost.map Json.ofDouble)
    ++ Json.optional "time_zone" (options.timeZone.map Json.string)

/-- The JSON object of the options. -/
def toJson (options : RangeOptions) : Json := .object options.members

/-- How the options are read, with `isUnit` saying what may stand behind the relation's name. -/
def shape (isUnit : Json → Bool) : Shape RangeOptions :=
  Shape.of "RangeFilter" RangeOptions.mk
    |>.setting "gt" [] .ok
    |>.setting "gte" [] .ok
    |>.setting "lt" [] .ok
    |>.setting "lte" [] .ok
    |>.setting "format" [] Json.readString
    |>.setting "relation" [] (RangeRelation.ofJson isUnit)
    |>.setting "boost" [] Json.readDouble
    |>.setting "timeZone" ["time_zone", "timezone"] Json.readString

/-- Whether there is any bound. -/
def hasBounds (options : RangeOptions) : Bool :=
  options.gt.isSome || options.gte.isSome || options.lt.isSome || options.lte.isSome

/-- Equality of options, weights compared as numbers. -/
def equals (a b : RangeOptions) : Bool :=
  { a with boost := none } = { b with boost := none } && sameBoost a.boost b.boost

end RangeOptions

end DocSearch
