/-
Blank characters: those with the Unicode property White_Space. `trim` takes
them off both ends of a text, and a text of nothing else is blank.
-/

namespace DocSearch.Text

/-- The ranges of White_Space, first and last code point, ascending. -/
def blankRanges : List (Nat × Nat) :=
  [(0x09, 0x0D), (0x20, 0x20), (0x85, 0x85), (0xA0, 0xA0), (0x1680, 0x1680), (0x2000, 0x200A),
   (0x2028, 0x2029), (0x202F, 0x202F), (0x205F, 0x205F), (0x3000, 0x3000)]

/-- Whether a code point lies in one of the ranges. -/
def inRanges (ranges : List (Nat × Nat)) (code : Nat) : Bool :=
  ranges.any fun range => range.1 ≤ code && code ≤ range.2

/-- Whether a character is blank. -/
def isBlank (c : Char) : Bool := inRanges blankRanges c.toNat

/-- A text of blank characters only; the empty text is one. -/
def allBlank (text : String) : Bool := text.toList.all isBlank

/-- The text without the blank characters at its two ends. -/
def trim (text : String) : String :=
  String.ofList ((text.toList.dropWhile isBlank).reverse.dropWhile isBlank).reverse

example : (blankRanges.map fun range => range.2 + 1 - range.1).sum = 25 := by decide

example : isBlank '\u200b' = false := by decide

theorem dropWhile_isBlank_eq_nil_iff (cs : List Char) :
    cs.dropWhile isBlank = [] ↔ cs.all isBlank = true := by
  induction cs with
  | nil => simp
  | cons c cs ih => by_cases h : isBlank c = true <;> simp [h, ih]

/-- What trimming drops at the front is blank, so a blank rest was blank all along. -/
theorem all_isBlank_dropWhile (cs : List Char) :
    (cs.dropWhile isBlank).all isBlank = cs.all isBlank := by
  induction cs with
  | nil => rfl
  | cons c cs ih => by_cases h : isBlank c = true <;> simp [h, ih]

/-- A text is blank exactly when trimming leaves nothing. -/
theorem trim_eq_empty_iff (text : String) : trim text = "" ↔ allBlank text = true := by
  have ofList_eq : ∀ cs : List Char, String.ofList cs = "" ↔ cs = [] := fun cs =>
    ⟨fun h => by simpa using congrArg String.toList h, fun h => by rw [h]⟩
  rw [trim, ofList_eq, List.reverse_eq_nil_iff, dropWhile_isBlank_eq_nil_iff, List.all_reverse,
    all_isBlank_dropWhile, allBlank]

end DocSearch.Text
