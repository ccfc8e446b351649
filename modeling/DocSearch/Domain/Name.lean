/-
Domain names: labels with dots between them. Every character of a name is
replaced by what it stands for, and the result is composed. A label that then
starts with `xn--` is in Punycode and stands for the text it decodes to, which
must need no replacing any more. Labels beyond ASCII have further rules, and so
has a name with characters written from right to left.
-/
import DocSearch.Domain.Direction
import DocSearch.Domain.Image
import DocSearch.Domain.Joining
import DocSearch.Domain.Punycode
import DocSearch.Text.Composed

namespace DocSearch.Domain

/-- The printable characters of ASCII that no name holds. -/
def forbiddenChars : List Char :=
  ['%', '#', '/', ':', '<', '>', '?', '@', '[', '\\', ']', '^', '|']

/-- Whether a character may stand in a name, as far as ASCII is concerned. -/
def isAllowed (c : Char) : Bool :=
  0x20 < c.toNat && c.toNat != 0x7F && !forbiddenChars.contains c

/-- The text that a text stands for, if all its characters may stand in a name. -/
def canonical? (text : List Char) : Option (List Char) := do
  let images ← text.mapM image?
  let composed := Text.composed images.flatten
  if composed.all isAllowed then some composed else none

/-- Whether a text is in ASCII. -/
def isAscii (text : List Char) : Bool := text.all (·.toNat < 0x80)

/-- What a label in Punycode stands for, given what comes behind `xn--`. The digits do not end with
a hyphen, and the text is one that stands for itself. -/
def unpacked? (behind : List Char) : Option (List Char) := do
  if !isAscii behind || behind.isEmpty || behind.getLast? = some '-' || 2000 < behind.length then
    none
  let label ← Punycode.decode? behind
  if !label.contains '.' && canonical? label = some label then some label else none

/-- What a label stands for. -/
def label? : List Char → Option (List Char)
  | 'x' :: 'n' :: '-' :: '-' :: behind => unpacked? behind
  | label => some label

/-- Whether a label keeps the rules for labels beyond ASCII: it has at most a thousand characters,
starts with no mark, and its joiners have a reason to stand where they do. -/
def isLabel (label : List Char) : Bool :=
  isAscii label ||
    (label.length ≤ 1000 && !label.head?.any Text.isMark && joinersStand [] label)

/-- The labels of the domain name that a text stands for. -/
def labels? (text : List Char) : Option (List (List Char)) := do
  let canonical ← canonical? text
  let labels ← (Text.pieces '.' canonical).mapM label?
  if labels.all isLabel && isDirected labels then some labels else none

/-- The domain name that a text stands for, in its readable form. -/
def name? (text : List Char) : Option (List Char) :=
  (labels? text).map (List.intercalate ['.'])

example : name? "Search.Example".toList = some "search.example".toList := by decide +kernel

example : name? "xn--".toList = none ∧ name? "a^b".toList = none := by decide +kernel

end DocSearch.Domain
