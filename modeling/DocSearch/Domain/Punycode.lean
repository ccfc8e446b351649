/-
Punycode, the form in which a label of a domain name is written in ASCII alone.
What stands before the last hyphen are the ASCII characters of the label; every
digit behind it belongs to a number that says how far the place and the code
point of the next character lie from those of the one before. The numbers start
with the digit of least weight, and the weights adapt to the numbers read so far.
-/

namespace DocSearch.Domain.Punycode

/-- The number that a digit stands for: letters come first, then decimal digits. -/
def digit? (c : Char) : Option Nat :=
  if 'a' ≤ c ∧ c ≤ 'z' then some (c.toNat - 97)
  else if '0' ≤ c ∧ c ≤ '9' then some (c.toNat - 22)
  else none

/-- The least digit with which a number goes on, from the step of the digit. -/
def threshold (step bias : Nat) : Nat :=
  if step ≤ bias then 1 else if bias + 26 ≤ step then 26 else step - bias

/-- Scales a number down to at most 455, counting 36 for each step. -/
def scaled (n steps : Nat) : Nat × Nat :=
  if 455 < n then scaled (n / 35) (steps + 36) else (n, steps)
termination_by n
decreasing_by omega

/-- The bias after a number, given how long the text then is. -/
def adapted (number length : Nat) (isFirst : Bool) : Nat :=
  let halved := number / if isFirst then 700 else 2
  let (n, steps) := scaled (halved + halved / length) 0
  steps + 36 * n / (n + 38)

/-- What is known between two digits. -/
structure Progress where
  text : List Char
  /-- The latest code point. -/
  code : Nat
  /-- The place behind the latest character, and what the number has added to it. -/
  index : Nat
  /-- The place behind the latest character. -/
  start : Nat
  /-- The weight of the next digit. -/
  weight : Nat
  /-- How often the weight has grown within the number, in steps of 36 from 36. -/
  step : Nat
  /-- What the weights have adapted to. -/
  bias : Nat

/-- The start, with the ASCII characters. -/
def Progress.initial (ascii : List Char) : Progress where
  text := ascii
  code := 128
  index := 0
  start := 0
  weight := 1
  step := 36
  bias := 72

/-- Puts the next character into the text, given the index at the end of its number. -/
def Progress.insert? (p : Progress) (index : Nat) : Option Progress :=
  let length := p.text.length + 1
  let code := p.code + index / length
  let place := index % length
  if code.isValidChar then
    some {
      text := p.text.take place ++ Char.ofNat code :: p.text.drop place
      code := code
      index := place + 1
      start := place + 1
      weight := 1
      step := 36
      bias := adapted (index - p.start) length (p.start = 0) }
  else none

/-- Numbers have 32 bits. -/
def limit : Nat := 4294967296

/-- Reads a digit, which may be the last one of its number. -/
def Progress.read? (p : Progress) (c : Char) : Option Progress := do
  let digit ← digit? c
  let index := p.index + digit * p.weight
  let least := threshold p.step p.bias
  if limit ≤ index then none
  else if digit < least then p.insert? index
  else
    let weight := p.weight * (36 - least)
    if limit ≤ weight then none
    else some { p with index, weight, step := p.step + 36 }

/-- The text that digits add to ASCII characters. Every number must have its last digit. -/
def extend? (ascii digits : List Char) : Option (List Char) := do
  let p ← digits.foldlM Progress.read? (Progress.initial ascii)
  if p.step = 36 then some p.text else none

/-- The text that a label in Punycode stands for. A hyphen at the front divides nothing. -/
def decode? (label : List Char) : Option (List Char) :=
  let digits := (label.reverse.takeWhile (· != '-')).reverse
  let ascii := label.take (label.length - digits.length - 1)
  if ascii.isEmpty then extend? [] label else extend? ascii digits

example : decode? "mnchen-3ya".toList = some "münchen".toList := by decide +kernel

example : decode? "p1ai".toList = some "рф".toList := by decide +kernel

example : decode? "-p1ai".toList = none := by decide +kernel

end DocSearch.Domain.Punycode
