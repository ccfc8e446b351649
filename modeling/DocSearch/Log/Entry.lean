/-
Entries of a log and the lines they are written as. A line is meant for the
eye, in a wide or a narrow layout, or it is a JSON object, where the fields
stand in the order of their keys and the last value of a key counts.
-/
import DocSearch.Json.Printer
import DocSearch.Log.Level

namespace DocSearch.Log

/-- Something that is written to a log. -/
structure Entry where
  /-- How weighty it is. -/
  level : Level
  /-- The part of the program that it comes from. -/
  target : String
  message : String
  /-- What it happened to. -/
  fields : List (String × String) := []
  deriving DecidableEq

/-- How lines are laid out. -/
inductive Format where
  /-- For the eye, with the level in full. -/
  | pretty
  /-- For the eye, with the level's initial. -/
  | compact
  /-- A JSON object. -/
  | json
  deriving DecidableEq

namespace Format

/-- The formats by name. -/
def table : List (String × Format) := [("pretty", pretty), ("compact", compact), ("json", json)]

/-- The format a text names, in letters of any case and with blanks around it. -/
def parse? (text : String) : Option Format := table.lookup (Text.trim text).toLower

end Format

namespace Entry

/-- Fields for the eye. -/
def fieldText (fields : List (String × String)) : String :=
  String.join (fields.map fun field => " " ++ field.1 ++ "=" ++ field.2)

/-- A text filled up with blanks to a width. -/
def padded (width : Nat) (text : String) : String :=
  text ++ String.ofList (List.replicate (width - text.length) ' ')

/-- Gives a key its value among keys in ascending order, in place of an earlier value. -/
def insertSorted (key value : String) : List (String × String) → List (String × String)
  | [] => [(key, value)]
  | (k, v) :: rest =>
    if key < k then (key, value) :: (k, v) :: rest
    else if key = k then (key, value) :: rest
    else (k, v) :: insertSorted key value rest

/-- The last value of each key, keys ascending. -/
def sortedFields (fields : List (String × String)) : List (String × String) :=
  fields.foldl (fun sorted field => insertSorted field.1 field.2 sorted) []

/-- The fields as a member, left out when there are none. -/
def fieldsMember (fields : List (String × String)) : List (String × Json) :=
  if fields.isEmpty then []
  else [("fields", .object (fields.map fun field => (field.1, .string field.2)))]

/-- The JSON form of an entry, with the time if there is one. -/
def toJson (entry : Entry) (time : Option String) : Json :=
  .object (Json.optional "timestamp" (time.map Json.string)
    ++ [("level", .string entry.level.name), ("target", .string entry.target),
        ("message", .string entry.message)]
    ++ fieldsMember (sortedFields entry.fields))

/-- The time for the eye, if there is one. -/
def timeText : Option String → String
  | some time => time ++ " "
  | none => ""

/-- The line of an entry, with the time if there is one. -/
def line (entry : Entry) (format : Format) (time : Option String) : String :=
  match format with
  | .pretty =>
    timeText time ++ padded 5 entry.level.name ++ " [" ++ entry.target ++ "] " ++ entry.message
      ++ fieldText entry.fields
  | .compact =>
    timeText time ++ String.ofList (entry.level.name.toList.take 1) ++ " " ++ entry.target ++ ": "
      ++ entry.message ++ fieldText entry.fields
  | .json => (entry.toJson time).render

end Entry

/-- The entries among `entries` that are written when `inForce` is in force. -/
def written (inForce : Level) (entries : List Entry) : List Entry :=
  entries.filter fun entry => entry.level.passes inForce

end DocSearch.Log
