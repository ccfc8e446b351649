/-
The tokens of a text that was written for a value.

The scanner goes through one piece at a time: a blank, a mark, a word, a number, a text between its
quotes. Each piece is followed by what `scan` makes of the rest, so the pieces are put together in
the order in which the value is written. Only a number has no end of its own; what is written behind
it ends it (`EndsNumber`). Floats are left out: `Whole` says that a value has none.
-/
import DocSearch.Json.Token
import DocSearch.Json.Printer
import Mathlib.Data.List.Basic
import Mathlib.Data.List.TakeWhile

namespace DocSearch

namespace Text.Numeral

theorem digit_inj {m n : Nat} (hm : m < 10) (hn : n < 10) (h : digit m = digit n) : m = n := by
  rw [← digitValue_digit hm, ← digitValue_digit hn, h]

/-- Only the numeral of zero begins with a zero. -/
theorem head?_digits_ne {n : Nat} (h : n ≠ 0) : (digits n).head? ≠ some '0' := by
  fun_induction digits n with
  | case1 n hn =>
    intro hzero
    exact h (digit_inj hn (by decide) (Option.some.inj hzero))
  | case2 n hn ih =>
    rw [List.head?_append_of_ne_nil _ (digits_ne_nil _)]
    exact ih (by omega)

theorem hexValue?_hexDigit {n : Nat} (h : n < 16) : hexValue? (hexDigit 'a' n) = some n := by
  have : ∀ m : Fin 16, hexValue? (hexDigit 'a' m.val) = some m.val := by decide
  exact this ⟨n, h⟩

end Text.Numeral

namespace Json.Number

open Text.Numeral

theorem ofUnsigned?_digits (negative : Bool) (n : Nat) :
    ofUnsigned? negative (digits n) = ofWhole? negative (digits n) := by
  have hall : ∀ c ∈ digits n, c.isDigit = true := fun c hc => isDigit_of_mem_digits hc
  have htake : (digits n).takeWhile Char.isDigit = digits n := List.takeWhile_eq_self_iff.mpr hall
  have hdrop : (digits n).dropWhile Char.isDigit = [] := List.dropWhile_eq_nil_iff.mpr hall
  have hstart : ((digits n).isEmpty ||
      ((digits n).head? = some '0' && (digits n).length ≠ 1)) = false := by
    by_cases hn : n = 0
    · subst hn
      decide +kernel
    · simp [digits_ne_nil, head?_digits_ne hn]
  rw [ofUnsigned?, htake, hdrop]
  simp only [hstart, Bool.false_eq_true, if_false]

/-- An integer is read back from its numeral. -/
theorem ofChars?_integer (n : Int) (h : InRange n) :
    ofChars? (Number.integer n h).chars = some (.integer n h) := by
  rw [chars, integerDigits]
  split
  · next hneg =>
    have habs : -(n.natAbs : Int) = n := by omega
    have hne : n ≠ 0 := by omega
    rw [ofChars?, ofUnsigned?_digits, ofWhole?]
    simp only [value_digits, habs, ite_true]
    rw [dif_pos ⟨h, by omega⟩]
  · next hpos =>
    have habs : (n.natAbs : Int) = n := by omega
    have hsign : ∀ rest, digits n.natAbs ≠ '-' :: rest := by
      intro rest hrest
      have hdigit : ('-').isDigit = true :=
        isDigit_of_mem_digits (n := n.natAbs) (hrest ▸ List.mem_cons_self)
      exact absurd hdigit (by decide)
    rw [ofChars?, ofUnsigned?_digits, ofWhole?]
    · simp only [value_digits, habs]
      rw [dif_pos h]
      rfl
    · exact hsign

end Json.Number

namespace Json

open Text.Numeral (digit digits isDigit_digit)

/-! ## Tokens of a value -/

mutual

/-- The tokens that a value is written with. -/
def tokens : Json → List Token
  | .string text => [.text text]
  | .array [] => [.beginArray, .endArray]
  | .array (item :: items) => .beginArray :: (item.tokens ++ itemsTokens items)
  | .object [] => [.beginObject, .endObject]
  | .object ((name, value) :: members) =>
    .beginObject :: .text name :: .colon :: (value.tokens ++ membersTokens members)
  | value => [.scalar value]

/-- The tokens of the items after the first one, and the end of the array. -/
def itemsTokens : List Json → List Token
  | [] => [.endArray]
  | item :: items => .comma :: (item.tokens ++ itemsTokens items)

/-- The tokens of the members after the first one, and the end of the object. -/
def membersTokens : List (String × Json) → List Token
  | [] => [.endObject]
  | (name, value) :: members =>
    .comma :: .text name :: .colon :: (value.tokens ++ membersTokens members)

end

mutual

/-- Every number in the value is an integer. -/
def Whole : Json → Prop
  | .number (.float _) => False
  | .array items => WholeItems items
  | .object members => WholeMembers members
  | _ => True

/-- Every number in the items is an integer. -/
def WholeItems : List Json → Prop
  | [] => True
  | item :: items => Whole item ∧ WholeItems items

/-- Every number in the values of the members is an integer. -/
def WholeMembers : List (String × Json) → Prop
  | [] => True
  | (_, value) :: members => Whole value ∧ WholeMembers members

end

namespace Scanner

/-! ## One character, and some -/

theorem scan_cons {s next : Scanner} {c : Char} {tokens : List Token}
    (h : s.step c = some (tokens, next)) (cs : List Char) :
    scan s (c :: cs) = (tokens ++ ·) <$> scan next cs := by
  rw [scan, h]
  cases hrest : scan next cs <;> simp [bind, Option.bind, hrest]

/-- A character that completes nothing. -/
theorem scan_cons_of_nil {s next : Scanner} {c : Char} (h : s.step c = some ([], next))
    (cs : List Char) : scan s (c :: cs) = scan next cs := by
  rw [scan_cons h]
  cases scan next cs <;> rfl

theorem scan_spaces {spaces : List Char} (h : ∀ c ∈ spaces, isSpace c = true) (rest : List Char) :
    scan .between (spaces ++ rest) = scan .between rest := by
  induction spaces with
  | nil => rfl
  | cons c spaces ih =>
    obtain ⟨hc, hspaces⟩ := List.forall_mem_cons.mp h
    have hstep : step .between c = some ([], .between) := by simp [step, start, hc]
    rw [List.cons_append, scan_cons_of_nil hstep, ih hspaces]

/-! ## Numbers -/

/-- The text does not go on with a number. -/
def EndsNumber (rest : List Char) : Prop := ∀ c ∈ rest.head?, isNumberChar c = false

theorem scan_numberChars {cs : List Char} (h : ∀ c ∈ cs, isNumberChar c = true)
    (done rest : List Char) :
    scan (.number done) (cs ++ rest) = scan (.number (cs.reverse ++ done)) rest := by
  induction cs generalizing done with
  | nil => rfl
  | cons c cs ih =>
    obtain ⟨hc, hcs⟩ := List.forall_mem_cons.mp h
    have hstep : step (.number done) c = some ([], .number (c :: done)) := by simp [step, hc]
    rw [List.cons_append, scan_cons_of_nil hstep, ih hcs, List.reverse_cons, List.append_assoc,
      List.singleton_append]

/-- A number is complete where the text does not go on with it. -/
theorem scan_number {done rest : List Char} {n : Number}
    (hn : Number.ofChars? done.reverse = some n) (hrest : EndsNumber rest) :
    scan (.number done) rest = ([.scalar (.number n)] ++ ·) <$> scan .between rest := by
  cases rest with
  | nil => simp [scan, finish, hn]
  | cons c cs =>
    have hc : isNumberChar c = false := hrest c rfl
    rw [scan, scan]
    simp only [step, hc, hn, Bool.false_eq_true, if_false]
    cases hstart : start c with
    | none => rfl
    | some pair =>
      obtain ⟨tokens, next⟩ := pair
      simp only [bind, Option.bind]
      cases hscan : scan next cs <;> rfl

theorem start_digit {c : Char} (h : c.isDigit = true) : start c = some ([], .number [c]) := by
  have hne : ∀ {other : Char}, other.isDigit = false → c ≠ other := by
    rintro other hother rfl
    rw [h] at hother
    cases hother
  simp [start, isSpace, hne, h]

theorem isNumberChar_of_isDigit {c : Char} (h : c.isDigit = true) : isNumberChar c = true := by
  simp [isNumberChar, h]

/-- The text of an integer begins a number and goes on with it. -/
theorem numberChars_integer (n : Int) (h : InRange n) :
    ∃ c cs, (Number.integer n h).chars = c :: cs ∧ start c = some ([], .number [c]) ∧
      ∀ other ∈ cs, isNumberChar other = true := by
  have hdigits : ∀ c ∈ digits n.natAbs, c.isDigit = true :=
    fun c hc => Text.Numeral.isDigit_of_mem_digits hc
  rw [Number.chars, Text.Numeral.integerDigits]
  split
  · exact ⟨'-', digits n.natAbs, rfl, rfl,
      fun c hc => isNumberChar_of_isDigit (hdigits c hc)⟩
  · cases hsplit : digits n.natAbs with
    | nil => exact absurd hsplit (Text.Numeral.digits_ne_nil n.natAbs)
    | cons c cs =>
      rw [hsplit] at hdigits
      obtain ⟨hc, hcs⟩ := List.forall_mem_cons.mp hdigits
      exact ⟨c, cs, rfl, start_digit hc,
        fun other hother => isNumberChar_of_isDigit (hcs other hother)⟩

theorem scan_integer (n : Int) (h : InRange n) {rest : List Char} (hrest : EndsNumber rest) :
    scan .between ((Number.integer n h).chars ++ rest)
      = ([.scalar (.number (.integer n h))] ++ ·) <$> scan .between rest := by
  obtain ⟨c, cs, hchars, hstart, hcs⟩ := numberChars_integer n h
  have hread : Number.ofChars? (cs.reverse ++ [c]).reverse = some (.integer n h) := by
    rw [List.reverse_append, List.reverse_reverse, List.reverse_singleton, List.singleton_append,
      ← hchars, Number.ofChars?_integer]
  have hbegin : step .between c = some ([], .number [c]) := hstart
  rw [hchars, List.cons_append, scan_cons_of_nil hbegin, scan_numberChars hcs,
    scan_number hread hrest]

/-! ## Texts -/

/-- A control is written by four digits in base sixteen and read back from them. -/
theorem scan_unit {c : Char} (h : c.toNat < 0x20) (done rest : List Char) :
    scan (.text done) ('\\' :: 'u' :: '0' :: '0' :: Text.Numeral.hexDigit 'a' (c.toNat / 16)
        :: Text.Numeral.hexDigit 'a' (c.toNat % 16) :: rest) = scan (.text (c :: done)) rest := by
  have hhigh := Text.Numeral.hexValue?_hexDigit (n := c.toNat / 16) (by omega)
  have hlow := Text.Numeral.hexValue?_hexDigit (n := c.toNat % 16) (by omega)
  have hvalue : 16 * (c.toNat / 16) + c.toNat % 16 = c.toNat := by omega
  have hzero : Text.Numeral.hexValue? '0' = some 0 := by decide
  have hdone : unitDone done none c.toNat = some (.text (c :: done)) := by
    have hsmall : ¬ 0xD800 ≤ c.toNat := by omega
    have hlow : ¬ 0xDC00 ≤ c.toNat := by omega
    simp [unitDone, hsmall, hlow]
  have h1 : step (.text done) '\\' = some ([], .escape done) := by simp [step]
  have h2 : step (.escape done) 'u' = some ([], .unit done none 0 0) := by simp [step]
  have h3 : step (.unit done none 0 0) '0' = some ([], .unit done none 1 0) := by simp [step, hzero]
  have h4 : step (.unit done none 1 0) '0' = some ([], .unit done none 2 0) := by simp [step, hzero]
  have h5 : step (.unit done none 2 0) (Text.Numeral.hexDigit 'a' (c.toNat / 16))
      = some ([], .unit done none 3 (c.toNat / 16)) := by simp [step, hhigh]
  have h6 : step (.unit done none 3 (c.toNat / 16)) (Text.Numeral.hexDigit 'a' (c.toNat % 16))
      = some ([], .text (c :: done)) := by simp [step, hlow, hvalue, hdone]
  rw [scan_cons_of_nil h1, scan_cons_of_nil h2, scan_cons_of_nil h3, scan_cons_of_nil h4,
    scan_cons_of_nil h5, scan_cons_of_nil h6]

theorem scan_escaped {letter c : Char} (hu : letter ≠ 'u') (h : escaped? letter = some c)
    (done rest : List Char) :
    scan (.text done) ('\\' :: letter :: rest) = scan (.text (c :: done)) rest := by
  have h1 : step (.text done) '\\' = some ([], .escape done) := by simp [step]
  have h2 : step (.escape done) letter = some ([], .text (c :: done)) := by simp [step, hu, h]
  rw [scan_cons_of_nil h1, scan_cons_of_nil h2]

/-- How a character is written: by a letter, by four digits in base sixteen, or as it is. -/
theorem escapedChar_cases (c : Char) :
    (∃ letter, letter ≠ 'u' ∧ escaped? letter = some c ∧ escapedChar c = ['\\', letter]) ∨
      (c.toNat < 0x20 ∧ escapedChar c = ['\\', 'u', '0', '0',
        Text.Numeral.hexDigit 'a' (c.toNat / 16), Text.Numeral.hexDigit 'a' (c.toNat % 16)]) ∨
      (c ≠ '"' ∧ c ≠ '\\' ∧ ¬ c.toNat < 0x20 ∧ escapedChar c = [c]) := by
  by_cases hletter : c ∈ ['"', '\\', '\x08', '\x0c', '\n', '\r', '\t']
  · simp only [List.mem_cons, List.not_mem_nil, or_false] at hletter
    refine .inl ?_
    rcases hletter with rfl | rfl | rfl | rfl | rfl | rfl | rfl
    · exact ⟨'"', by decide, rfl, rfl⟩
    · exact ⟨'\\', by decide, rfl, rfl⟩
    · exact ⟨'b', by decide, rfl, rfl⟩
    · exact ⟨'f', by decide, rfl, rfl⟩
    · exact ⟨'n', by decide, rfl, rfl⟩
    · exact ⟨'r', by decide, rfl, rfl⟩
    · exact ⟨'t', by decide, rfl, rfl⟩
  · simp only [List.mem_cons, List.not_mem_nil, or_false, not_or] at hletter
    obtain ⟨hquote, hbackslash, hb, hf, hn, hr, ht⟩ := hletter
    by_cases hcontrol : c.toNat < 0x20
    · exact .inr (.inl ⟨hcontrol,
        by simp [escapedChar, hquote, hbackslash, hb, hf, hn, hr, ht, hcontrol]⟩)
    · exact .inr (.inr ⟨hquote, hbackslash, hcontrol,
        by simp [escapedChar, hquote, hbackslash, hb, hf, hn, hr, ht, hcontrol]⟩)

theorem scan_escapedChar (c : Char) (done rest : List Char) :
    scan (.text done) (escapedChar c ++ rest) = scan (.text (c :: done)) rest := by
  rcases escapedChar_cases c with ⟨letter, hu, hread, hwritten⟩ | ⟨hcontrol, hwritten⟩ |
    ⟨hquote, hbackslash, hcontrol, hwritten⟩
  · rw [hwritten]
    exact scan_escaped hu hread done rest
  · rw [hwritten]
    exact scan_unit hcontrol done rest
  · have hstep : step (.text done) c = some ([], .text (c :: done)) := by
      simp [step, hquote, hbackslash, hcontrol]
    rw [hwritten]
    exact scan_cons_of_nil hstep rest

/-- A text is read back from between its quotes. -/
theorem scan_textChars (text : String) (rest : List Char) :
    scan .between (textChars text ++ rest) = ([.text text] ++ ·) <$> scan .between rest := by
  have hinside : ∀ (cs done : List Char), scan (.text done) (cs.flatMap escapedChar ++ '"' :: rest)
      = ([.text (String.ofList (done.reverse ++ cs))] ++ ·) <$> scan .between rest := by
    intro cs
    induction cs with
    | nil =>
      intro done
      have hstep : step (.text done) '"'
          = some ([.text (String.ofList done.reverse)], .between) := by
        simp [step]
      simp [scan_cons hstep]
    | cons c cs ih =>
      intro done
      rw [List.flatMap_cons, List.append_assoc, scan_escapedChar, ih]
      simp
  have hopen : step .between '"' = some ([], .text []) := rfl
  have hwritten : textChars text ++ rest
      = '"' :: (text.toList.flatMap escapedChar ++ '"' :: rest) := by simp [textChars]
  rw [hwritten, scan_cons_of_nil hopen, hinside]
  simp

/-! ## Values -/

theorem endsNumber_itemsChars (items : List Json) (rest : List Char) :
    EndsNumber (itemsChars items ++ rest) := by
  cases items <;> simp [itemsChars, EndsNumber, isNumberChar]

theorem endsNumber_membersChars (members : List (String × Json)) (rest : List Char) :
    EndsNumber (membersChars members ++ rest) := by
  cases members <;> simp [membersChars, EndsNumber, isNumberChar]

/-- A character that is a token. -/
theorem scan_mark {c : Char} {token : Token} (h : start c = some ([token], .between))
    (rest : List Char) : scan .between (c :: rest) = ([token] ++ ·) <$> scan .between rest := by
  have hstep : step .between c = some ([token], .between) := h
  exact scan_cons hstep rest

theorem scan_word {word : List Char} (hne : word ≠ []) (value : Json) (rest : List Char) :
    scan (.word word value) (word ++ rest) = ([.scalar value] ++ ·) <$> scan .between rest := by
  induction word with
  | nil => exact absurd rfl hne
  | cons c word ih =>
    cases word with
    | nil =>
      have hstep : step (.word [c] value) c = some ([.scalar value], .between) := by simp [step]
      exact scan_cons hstep rest
    | cons next word =>
      have hstep : step (.word (c :: next :: word) value) c
          = some ([], .word (next :: word) value) := by simp [step]
      rw [List.cons_append, scan_cons_of_nil hstep, ih (List.cons_ne_nil next word)]

/-- A word is written in full from its first letter on. -/
theorem scan_startWord {c : Char} {word : List Char} {value : Json}
    (h : start c = some ([], .word word value)) (hne : word ≠ []) (rest : List Char) :
    scan .between (c :: (word ++ rest)) = ([.scalar value] ++ ·) <$> scan .between rest := by
  have hstep : step .between c = some ([], .word word value) := h
  rw [scan_cons_of_nil hstep, scan_word hne]

theorem map_append_map_append (as bs : List Token) (tokens : Option (List Token)) :
    (as ++ ·) <$> (bs ++ ·) <$> tokens = (as ++ bs ++ ·) <$> tokens := by
  cases tokens <;> simp

/-- A name and its colon. -/
theorem scan_name (name : String) (rest : List Char) :
    scan .between (textChars name ++ ':' :: rest)
      = ([.text name, .colon] ++ ·) <$> scan .between rest := by
  have hcolon : start ':' = some ([.colon], .between) := rfl
  rw [scan_textChars, scan_mark hcolon, map_append_map_append]
  rfl

mutual

/-- The tokens of a value are read from what is written for it. -/
theorem scan_chars : ∀ {value : Json}, value.Whole → ∀ {rest : List Char}, EndsNumber rest →
    scan .between (value.chars ++ rest) = (value.tokens ++ ·) <$> scan .between rest
  | .null, _, rest, _ => scan_startWord rfl (List.cons_ne_nil 'u' ['l', 'l']) rest
  | .bool true, _, rest, _ => scan_startWord rfl (List.cons_ne_nil 'r' ['u', 'e']) rest
  | .bool false, _, rest, _ => scan_startWord rfl (List.cons_ne_nil 'a' ['l', 's', 'e']) rest
  | .number (.integer n h), _, rest, hrest => scan_integer n h hrest
  | .string content, _, rest, _ => scan_textChars content rest
  | .array [], _, rest, _ => by
    have hopen : start '[' = some ([.beginArray], .between) := rfl
    have hclose : start ']' = some ([.endArray], .between) := rfl
    rw [chars, List.cons_append, scan_mark hopen, List.cons_append, scan_mark hclose,
      map_append_map_append]
    rfl
  | .array (item :: items), hwhole, rest, _ => by
    have hopen : start '[' = some ([.beginArray], .between) := rfl
    rw [chars, List.cons_append, List.append_assoc, scan_mark hopen,
      scan_chars hwhole.1 (endsNumber_itemsChars items rest), scan_itemsChars hwhole.2,
      map_append_map_append, map_append_map_append]
    simp [tokens]
  | .object [], _, rest, _ => by
    have hopen : start '\x7b' = some ([.beginObject], .between) := rfl
    have hclose : start '\x7d' = some ([.endObject], .between) := rfl
    rw [chars, List.cons_append, scan_mark hopen, List.cons_append, scan_mark hclose,
      map_append_map_append]
    rfl
  | .object ((name, value) :: members), hwhole, rest, _ => by
    have hopen : start '\x7b' = some ([.beginObject], .between) := rfl
    rw [chars, List.cons_append, List.append_assoc, List.cons_append, List.append_assoc,
      scan_mark hopen, scan_name, scan_chars hwhole.1 (endsNumber_membersChars members rest),
      scan_membersChars hwhole.2, map_append_map_append, map_append_map_append,
      map_append_map_append]
    simp [tokens]

theorem scan_itemsChars : ∀ {items : List Json}, WholeItems items → ∀ {rest : List Char},
    scan .between (itemsChars items ++ rest) = (itemsTokens items ++ ·) <$> scan .between rest
  | [], _, rest => scan_mark rfl rest
  | item :: items, hwhole, rest => by
    have hcomma : start ',' = some ([.comma], .between) := rfl
    rw [itemsChars, List.cons_append, List.append_assoc, scan_mark hcomma,
      scan_chars hwhole.1 (endsNumber_itemsChars items rest), scan_itemsChars hwhole.2,
      map_append_map_append, map_append_map_append]
    simp [itemsTokens]

theorem scan_membersChars : ∀ {members : List (String × Json)}, WholeMembers members →
    ∀ {rest : List Char}, scan .between (membersChars members ++ rest)
      = (membersTokens members ++ ·) <$> scan .between rest
  | [], _, rest => scan_mark rfl rest
  | (name, value) :: members, hwhole, rest => by
    have hcomma : start ',' = some ([.comma], .between) := rfl
    rw [membersChars, List.cons_append, List.append_assoc, List.cons_append, List.append_assoc,
      scan_mark hcomma, scan_name, scan_chars hwhole.1 (endsNumber_membersChars members rest),
      scan_membersChars hwhole.2, map_append_map_append, map_append_map_append,
      map_append_map_append]
    simp [membersTokens]

end

end Scanner

end Json

end DocSearch
