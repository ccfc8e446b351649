/-
JSON tokens. A scanner goes through a text one character at a time; what it is
in the middle of is its state, and each step hands out the tokens that the
character completes. Adjacent tokens need nothing between them here: whether
they may follow each other is for the reader of the tokens to say.
-/
import DocSearch.Json.Basic

namespace DocSearch.Json

/-- The smallest meaningful pieces of a JSON text. -/
inductive Token where
  | beginArray
  | endArray
  | beginObject
  | endObject
  | colon
  | comma
  /-- A text, as a value or as a name. -/
  | text (value : String)
  /-- Null, a truth value or a number. -/
  | scalar (value : Json)

/-- What a scanner is in the middle of. -/
inductive Scanner where
  /-- Nothing: the next character starts a token. -/
  | between
  /-- A word, with the characters still to come. -/
  | word (rest : List Char) (value : Json)
  /-- A number, with its characters so far, the last one first. -/
  | number (done : List Char)
  /-- A text, with its characters so far, the last one first. -/
  | text (done : List Char)
  /-- The character after a backslash. -/
  | escape (done : List Char)
  /-- A code unit in base sixteen, of which `count` digits are read, with the high surrogate that
  stands before it. -/
  | unit (done : List Char) (high : Option Nat) (count value : Nat)
  /-- The backslash that has to follow a high surrogate. -/
  | lowBackslash (done : List Char) (high : Nat)
  /-- The letter that has to follow that backslash. -/
  | lowLetter (done : List Char) (high : Nat)

namespace Scanner

/-- The blanks between tokens. -/
def isSpace (c : Char) : Bool := c = ' ' || c = '\t' || c = '\n' || c = '\r'

/-- The characters that numbers are written with. -/
def isNumberChar (c : Char) : Bool :=
  c.isDigit || c = '-' || c = '+' || c = '.' || c = 'e' || c = 'E'

/-- The character a letter stands for after a backslash. -/
def escaped? : Char → Option Char
  | '"' => some '"'
  | '\\' => some '\\'
  | '/' => some '/'
  | 'b' => some '\x08'
  | 'f' => some '\x0c'
  | 'n' => some '\n'
  | 'r' => some '\r'
  | 't' => some '\t'
  | _ => none

/-- The first character of a token, or a blank. -/
def start (c : Char) : Option (List Token × Scanner) :=
  if isSpace c then some ([], .between)
  else if c = '"' then some ([], .text [])
  else if c = '[' then some ([.beginArray], .between)
  else if c = ']' then some ([.endArray], .between)
  else if c = '\x7b' then some ([.beginObject], .between)
  else if c = '\x7d' then some ([.endObject], .between)
  else if c = ':' then some ([.colon], .between)
  else if c = ',' then some ([.comma], .between)
  else if c = 'n' then some ([], .word ['u', 'l', 'l'] .null)
  else if c = 't' then some ([], .word ['r', 'u', 'e'] (.bool true))
  else if c = 'f' then some ([], .word ['a', 'l', 's', 'e'] (.bool false))
  else if c = '-' || c.isDigit then some ([], .number [c])
  else none

/-- A complete code unit inside a text: a high surrogate waits for a low one, and a low one
stands nowhere else. -/
def unitDone (done : List Char) (high : Option Nat) (unit : Nat) : Option Scanner :=
  let isLow := 0xDC00 ≤ unit && unit ≤ 0xDFFF
  match high with
  | some h =>
    let code := 0x10000 + (h - 0xD800) * 0x400 + (unit - 0xDC00)
    if isLow then some (.text (Char.ofNat code :: done)) else none
  | none =>
    if 0xD800 ≤ unit && unit ≤ 0xDBFF then some (.lowBackslash done unit)
    else if isLow then none
    else some (.text (Char.ofNat unit :: done))

/-- Takes one character: the tokens it completes, and what the scanner is in then. -/
def step : Scanner → Char → Option (List Token × Scanner)
  | .between, c => start c
  | .word [] _, _ => none
  | .word (x :: xs) value, c =>
    if c ≠ x then none
    else if xs.isEmpty then some ([.scalar value], .between)
    else some ([], .word xs value)
  | .number done, c =>
    if isNumberChar c then some ([], .number (c :: done))
    else do
      let n ← Number.ofChars? done.reverse
      let (tokens, next) ← start c
      some (.scalar (.number n) :: tokens, next)
  | .text done, c =>
    if c = '"' then some ([.text (String.ofList done.reverse)], .between)
    else if c = '\\' then some ([], .escape done)
    else if c.toNat < 0x20 then none
    else some ([], .text (c :: done))
  | .escape done, c =>
    if c = 'u' then some ([], .unit done none 0 0)
    else (escaped? c).map fun e => ([], .text (e :: done))
  | .unit done high count value, c => do
    let d ← Text.Numeral.hexValue? c
    let value := 16 * value + d
    if count < 3 then some ([], .unit done high (count + 1) value)
    else (unitDone done high value).map fun next => ([], next)
  | .lowBackslash done high, c => if c = '\\' then some ([], .lowLetter done high) else none
  | .lowLetter done high, c => if c = 'u' then some ([], .unit done (some high) 0 0) else none

/-- The tokens that the end of the text completes. -/
def finish : Scanner → Option (List Token)
  | .between => some []
  | .number done => do
    let n ← Number.ofChars? done.reverse
    some [.scalar (.number n)]
  | _ => none

/-- The tokens of a text, from a scanner in the middle of it. -/
def scan : Scanner → List Char → Option (List Token)
  | s, [] => s.finish
  | s, c :: cs => do
    let (tokens, next) ← s.step c
    let rest ← scan next cs
    some (tokens ++ rest)

end Scanner

end DocSearch.Json
