/-
Tables kept as text. A comma divides the rows and blanks the numbers of a row,
which are in base sixteen. In a table of runs a row holds a first and a last code
point and a value, and the last may be left out when it is the first; in a
table of texts it holds a code point and the characters that belong to it.
-/
import DocSearch.Text.Numeral
import DocSearch.Text.Pieces

namespace DocSearch.Text.Table

/-- The numbers of a row. -/
def numbers (row : List Char) : List Nat :=
  ((pieces ' ' row).filter (!·.isEmpty)).map Numeral.hexValue

/-- The rows of a table, which may be written on many lines. -/
def rows (lines : List String) : List (List Nat) :=
  lines.flatMap fun line => (pieces ',' line.toList).map numbers

/-- Code points that follow each other and the value they share. -/
structure Run where
  first : Nat
  last : Nat
  /-- What belongs to them. -/
  value : Nat

/-- The run that a row describes. -/
def Run.ofRow? : List Nat → Option Run
  | [code, value] => some ⟨code, code, value⟩
  | [first, last, value] => some ⟨first, last, value⟩
  | _ => none

/-- A table of runs. -/
def runs (lines : List String) : List Run := (rows lines).filterMap Run.ofRow?

/-- The run that a code point lies in. -/
def runOf? (table : List Run) (code : Nat) : Option Run :=
  table.find? fun run => run.first ≤ code && code ≤ run.last

/-- A table of texts. -/
def texts (lines : List String) : List (Char × List Char) :=
  (rows lines).filterMap fun
    | code :: chars => some (Char.ofNat code, chars.map Char.ofNat)
    | [] => none

example : rows ["41 5A 61, E9"] = [[0x41, 0x5A, 0x61], [0xE9]] := by decide +kernel

end DocSearch.Text.Table
