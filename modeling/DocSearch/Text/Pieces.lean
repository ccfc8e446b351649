/-
A text cut at every mark of one kind. There is one piece more than there are
marks, and the pieces with the marks between them are the text again.
-/

namespace DocSearch.Text

/-- The pieces of a text between the marks. -/
def pieces (mark : Char) (text : List Char) : List (List Char) :=
  text.foldr (fun c acc =>
    if c = mark then [] :: acc
    else match acc with
      | [] => [[c]]
      | piece :: rest => (c :: piece) :: rest) [[]]

theorem pieces_cons (mark c : Char) (text : List Char) :
    pieces mark (c :: text) =
      if c = mark then [] :: pieces mark text
      else match pieces mark text with
        | [] => [[c]]
        | piece :: rest => (c :: piece) :: rest := rfl

theorem pieces_ne_nil (mark : Char) (text : List Char) : pieces mark text ≠ [] := by
  cases text with
  | nil => simp [pieces]
  | cons c text =>
    rw [pieces_cons]
    split
    · simp
    · split <;> simp

/-- Putting the marks back between the pieces gives the text. -/
theorem intercalate_pieces (mark : Char) (text : List Char) :
    List.intercalate [mark] (pieces mark text) = text := by
  induction text with
  | nil => rfl
  | cons c text ih =>
    rw [pieces_cons]
    split
    · next h =>
      subst h
      match hp : pieces c text with
      | [] => exact absurd hp (pieces_ne_nil c text)
      | piece :: rest => rw [hp] at ih; simp [List.intercalate, List.intersperse, ← ih]
    · match hp : pieces mark text with
      | [] => exact absurd hp (pieces_ne_nil mark text)
      | [piece] => rw [hp] at ih; simp_all [List.intercalate]
      | piece :: next :: rest => rw [hp] at ih; simp_all [List.intercalate]

end DocSearch.Text
