/-
Compact JSON text. Nothing stands between the tokens; a quote, a backslash and
the controls below the space are escaped in texts, everything else stands for
itself.
-/
import DocSearch.Json.Basic

namespace DocSearch.Json

/-- How one character stands in a text: the usual controls by letter, the others by four digits
in base sixteen. -/
def escapedChar (c : Char) : List Char :=
  if c = '"' then ['\\', '"']
  else if c = '\\' then ['\\', '\\']
  else if c = '\x08' then ['\\', 'b']
  else if c = '\x0c' then ['\\', 'f']
  else if c = '\n' then ['\\', 'n']
  else if c = '\r' then ['\\', 'r']
  else if c = '\t' then ['\\', 't']
  else if c.toNat < 0x20 then
    ['\\', 'u', '0', '0', Text.Numeral.hexDigit 'a' (c.toNat / 16),
      Text.Numeral.hexDigit 'a' (c.toNat % 16)]
  else [c]

/-- A text between its quotes. -/
def textChars (text : String) : List Char := '"' :: text.toList.flatMap escapedChar ++ ['"']

mutual

/-- The compact text of a value. -/
def chars : Json → List Char
  | .null => ['n', 'u', 'l', 'l']
  | .bool true => ['t', 'r', 'u', 'e']
  | .bool false => ['f', 'a', 'l', 's', 'e']
  | .number n => n.chars
  | .string text => textChars text
  | .array [] => ['[', ']']
  | .array (item :: items) => '[' :: (item.chars ++ itemsChars items)
  | .object [] => ['\x7b', '\x7d']
  | .object ((name, value) :: members) =>
    '\x7b' :: (textChars name ++ ':' :: (value.chars ++ membersChars members))

/-- The items after the first one, and the end of the array. -/
def itemsChars : List Json → List Char
  | [] => [']']
  | item :: items => ',' :: (item.chars ++ itemsChars items)

/-- The members after the first one, and the end of the object. -/
def membersChars : List (String × Json) → List Char
  | [] => ['\x7d']
  | (name, value) :: members =>
    ',' :: (textChars name ++ ':' :: (value.chars ++ membersChars members))

end

/-- The compact text of a value. -/
def render (value : Json) : String := String.ofList value.chars

end DocSearch.Json
