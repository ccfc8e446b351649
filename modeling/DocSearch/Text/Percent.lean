/-
Percent-encoded text. A segment of a path is written with the bytes of its
UTF-8 form: those that are safe between two slashes stand for themselves, any
other is a percent sign and two digits in base sixteen.
-/
import DocSearch.Text.Numeral

namespace DocSearch.Text.Percent

/-- The bytes of a text in UTF-8. -/
def utf8 (text : String) : List UInt8 := text.toList.flatMap String.utf8EncodeChar

/-- The printable characters that are not safe in a segment. -/
def unsafeChars : List Char :=
  [' ', '"', '#', '%', '/', '<', '>', '?', '\\', '^', '`', '\x7b', '|', '\x7d']

/-- Whether a byte may stand for itself in a segment. -/
def isSafe (byte : UInt8) : Bool :=
  0x20 ≤ byte && byte < 0x7F && !unsafeChars.contains (Char.ofNat byte.toNat)

/-- How a byte stands in a segment. -/
def encodeByte (byte : UInt8) : List Char :=
  if isSafe byte then [Char.ofNat byte.toNat]
  else ['%', Numeral.hexDigit 'A' (byte.toNat / 16), Numeral.hexDigit 'A' (byte.toNat % 16)]

/-- The segment that stands for a text. -/
def segment (text : String) : String := String.ofList ((utf8 text).flatMap encodeByte)

/-- The byte of two digits in base sixteen. -/
def pair? (high low : UInt8) : Option UInt8 := do
  let h ← Numeral.hexValue? (Char.ofNat high.toNat)
  let l ← Numeral.hexValue? (Char.ofNat low.toNat)
  some (UInt8.ofNat (16 * h + l))

/-- The bytes that percent-encoded bytes stand for. A percent sign without two digits stands for
itself. -/
def decode : List UInt8 → List UInt8
  | [] => []
  | byte :: rest =>
    if byte = 0x25 then
      match rest with
      | high :: low :: after =>
        match pair? high low with
        | some value => value :: decode after
        | none => byte :: decode (high :: low :: after)
      | short => byte :: decode short
    else byte :: decode rest

example : segment "a/ü" = "a%2F%C3%BC" := by decide +kernel

end DocSearch.Text.Percent
