/-
Outcomes: the status of an answer and its body. A body that is blank counts as
null, and one that is no JSON text counts as a text.
-/
import DocSearch.Json.Parser
import DocSearch.Text.Blank

namespace DocSearch

/-- What the engine answers. -/
structure Outcome where
  status : UInt16
  body : Json
  deriving DecidableEq

namespace Outcome

/-- Whether the request succeeded. -/
def isSuccess (outcome : Outcome) : Bool := 200 ≤ outcome.status && outcome.status < 300

theorem isSuccess_iff {outcome : Outcome} :
    outcome.isSuccess = true ↔ 200 ≤ outcome.status ∧ outcome.status < 300 := by
  simp [isSuccess]

theorem isSuccess_eq_false_iff {outcome : Outcome} :
    outcome.isSuccess = false ↔ outcome.status < 200 ∨ 300 ≤ outcome.status := by
  rw [isSuccess, Bool.and_eq_false_iff, decide_eq_false_iff_not, decide_eq_false_iff_not,
    UInt16.not_le, UInt16.not_lt]

/-- The body that a text stands for. -/
def bodyOfText (text : String) : Json :=
  if Text.allBlank text then .null else (Json.parse? text).getD (.string text)

end Outcome

end DocSearch
