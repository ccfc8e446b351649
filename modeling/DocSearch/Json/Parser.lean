/-
Reading JSON from its tokens. The reader keeps the arrays and objects that are
open, and its stage says what may come next; a value that is complete goes into
the innermost of them. At most `limit` may be open at a time. A name that comes
again in one object keeps its place and takes the new value.
-/
import DocSearch.Json.Token

namespace DocSearch.Json

/-- An array or object that is open. -/
inductive Frame where
  /-- An array, with its items so far, the last one first. -/
  | array (items : List Json)
  /-- An object, with its members so far, and the name whose value comes next. -/
  | object (members : List (String × Json)) (name : String)

/-- What the next token may be. -/
inductive Stage where
  /-- A value. -/
  | awaitValue
  /-- The first item of an array, or its end. -/
  | firstItem
  /-- The first name of an object, or its end. -/
  | firstName
  /-- A name, after the members so far. -/
  | awaitName (members : List (String × Json))
  /-- The colon after a name. -/
  | awaitColon (members : List (String × Json)) (name : String)
  /-- What follows a complete value. -/
  | after (value : Json)

namespace Stage

/-- A token where a value has to come. -/
def beginValue (limit : Nat) (frames : List Frame) : Token → Option (List Frame × Stage)
  | .scalar value => some (frames, .after value)
  | .text value => some (frames, .after (.string value))
  | .beginArray => if frames.length < limit then some (frames, .firstItem) else none
  | .beginObject => if frames.length < limit then some (frames, .firstName) else none
  | _ => none

/-- A token after a complete value, inside the innermost open array or object. -/
def continueFrame (value : Json) : List Frame → Token → Option (List Frame × Stage)
  | .array items :: frames, .comma => some (.array (value :: items) :: frames, .awaitValue)
  | .array items :: frames, .endArray => some (frames, .after (.array (value :: items).reverse))
  | .object members name :: frames, .comma =>
    some (frames, .awaitName (Entries.set name value members))
  | .object members name :: frames, .endObject =>
    some (frames, .after (.object (Entries.set name value members)))
  | _, _ => none

/-- Takes one token. -/
def step (limit : Nat) (frames : List Frame) : Stage → Token → Option (List Frame × Stage)
  | .awaitValue, token => beginValue limit frames token
  | .firstItem, .endArray => some (frames, .after (.array []))
  | .firstItem, token => beginValue limit (.array [] :: frames) token
  | .firstName, .endObject => some (frames, .after (.object []))
  | .firstName, .text name => some (frames, .awaitColon [] name)
  | .firstName, _ => none
  | .awaitName members, .text name => some (frames, .awaitColon members name)
  | .awaitName _, _ => none
  | .awaitColon members name, .colon => some (.object members name :: frames, .awaitValue)
  | .awaitColon _ _, _ => none
  | .after value, token => continueFrame value frames token

/-- The value that the tokens complete. -/
def read (limit : Nat) : List Frame → Stage → List Token → Option Json
  | [], .after value, [] => some value
  | _, _, [] => none
  | frames, stage, token :: tokens => do
    let (frames, stage) ← stage.step limit frames token
    read limit frames stage tokens

end Stage

/-- The value a text stands for, with at most `limit` arrays and objects nested. -/
def parseWithin? (limit : Nat) (text : String) : Option Json := do
  let tokens ← Scanner.scan .between text.toList
  Stage.read limit [] .awaitValue tokens

/-- How deep texts from outside may nest. -/
def maxDepth : Nat := 127

/-- The value a text from outside stands for. -/
def parse? (text : String) : Option Json := parseWithin? maxDepth text

end DocSearch.Json
