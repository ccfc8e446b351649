/-
Levels of a log, from the most verbose one up. An entry is written when its
level is at or above the one in force; `off`, the highest, is in force when
nothing is to be written, and no entry has it.
-/
import DocSearch.Text.Blank

namespace DocSearch.Log

/-- How weighty an entry is, and how weighty an entry has to be. -/
inductive Level where
  /-- Everything. -/
  | trace
  /-- The course of each request. -/
  | debug
  /-- What happens rarely and on purpose. -/
  | info
  /-- Failures that were understood. -/
  | warn
  /-- Failures that were not. -/
  | error
  /-- Nothing. -/
  | off
  deriving DecidableEq

namespace Level

/-- The place of a level among all. -/
def severity : Level → Nat
  | trace => 0
  | debug => 1
  | info => 2
  | warn => 3
  | error => 4
  | off => 5

/-- The name of a level. -/
def name : Level → String
  | trace => "TRACE"
  | debug => "DEBUG"
  | info => "INFO"
  | warn => "WARN"
  | error => "ERROR"
  | off => "OFF"

/-- Whether entries of a level are written when `inForce` is in force. -/
def passes (level inForce : Level) : Bool :=
  level != off && inForce.severity ≤ level.severity

/-- The levels by name. -/
def table : List (String × Level) :=
  [("trace", trace), ("debug", debug), ("info", info), ("warn", warn), ("warning", warn),
   ("error", error), ("off", off), ("none", off)]

/-- The level a text names, in letters of any case and with blanks around it. -/
def parse? (text : String) : Option Level := table.lookup (Text.trim text).toLower

/-- Nothing is written while `off` is in force. -/
theorem not_passes_off (level : Level) : level.passes off = false := by
  cases level <;> rfl

theorem passes_trace (level : Level) : level.passes trace = true ↔ level ≠ off := by
  cases level <;> simp [passes, severity]

end Level

end DocSearch.Log
