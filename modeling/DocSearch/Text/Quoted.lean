/-
Quoted texts, as messages show them: between double quotes, with a backslash
before a quote or a backslash, a letter for the usual controls and the code
point in base sixteen for a character that has no clear form of its own.
-/
import DocSearch.Text.Numeral
import DocSearch.Text.Unprinted

namespace DocSearch.Text

/-- How one character stands inside a quoted text. -/
def quotedChar (c : Char) : List Char :=
  if c = '\x00' then ['\\', '0']
  else if c = '\t' then ['\\', 't']
  else if c = '\r' then ['\\', 'r']
  else if c = '\n' then ['\\', 'n']
  else if c = '"' then ['\\', '"']
  else if c = '\\' then ['\\', '\\']
  else if isUnprinted c then
    ['\\', 'u', '\x7b'] ++ Numeral.hexDigits c.toNat ++ ['\x7d']
  else [c]

/-- The text between double quotes. -/
def quoted (text : String) : String :=
  String.ofList ('"' :: text.toList.flatMap quotedChar ++ ['"'])

end DocSearch.Text
