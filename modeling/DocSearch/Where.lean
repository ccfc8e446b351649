/-
Where-clauses: a filter for each of some fields, in the order in which the
fields first came. A second filter for a field takes the place of the first.
-/
import DocSearch.Filter.Basic

namespace DocSearch

/-- What is asked of the fields of a document. -/
structure Where where
  fields : Fields Filter := .empty
  deriving DecidableEq

namespace Where

/-- Nothing is asked. -/
def empty : Where := {}

instance : Inhabited Where := ⟨empty⟩

/-- Asks something of a field, in place of what was asked of it before. -/
def insert (clause : Where) (field : String) (filter : Filter) : Where :=
  ⟨clause.fields.insert field filter⟩

/-- The filters inserted one after the other. -/
def ofList (filters : List (String × Filter)) : Where := ⟨.ofList filters⟩

/-- The fields with their filters, in order. -/
def toList (clause : Where) : List (String × Filter) := clause.fields.entries

/-- The number of fields of which something is asked. -/
def size (clause : Where) : Nat := clause.fields.size

/-- Whether nothing is asked. -/
def isEmpty (clause : Where) : Bool := clause.fields.isEmpty

@[simp] theorem toList_empty : empty.toList = [] := rfl

@[simp] theorem toList_insert (clause : Where) (field : String) (filter : Filter) :
    (clause.insert field filter).toList = Entries.set field filter clause.toList := rfl

@[simp] theorem toList_ofList (filters : List (String × Filter)) :
    (ofList filters).toList = Entries.setAll [] filters := Fields.entries_ofList filters

/-- Adds the filters of an object's members. -/
def readMembers (clause : Where) : List (String × Json) → Except Unsupported Where
  | [] => .ok clause
  | (field, value) :: members => do
    let filter ← Filter.ofJson field value
    readMembers (clause.insert field filter) members

/-- Reads a where-clause from an object; null asks nothing. -/
def ofJson : Json → Except Unsupported Where
  | .object members => empty.readMembers members
  | .null => .ok empty
  | other => .error ⟨"", .notAnObject other⟩

/-- Checks that each filter can be sent, in order. -/
def checkFields : List (String × Filter) → Except Unsupported Unit
  | [] => .ok ()
  | (field, filter) :: rest => do
    filter.check.mapError fun reason => ⟨field, reason⟩
    checkFields rest

/-- Checks that every filter can be sent. -/
def validate (clause : Where) : Except Unsupported Unit := checkFields clause.toList

/-- Equality of the filters of fields, doubles compared as numbers. -/
def sameFields : List (String × Filter) → List (String × Filter) → Bool
  | [], [] => true
  | (f, a) :: as, (g, b) :: bs => f = g && a.equals b && sameFields as bs
  | _, _ => false

/-- Equality of where-clauses, doubles compared as numbers: one with a NaN differs from itself. -/
def equals (a b : Where) : Bool := sameFields a.toList b.toList

end Where

end DocSearch
