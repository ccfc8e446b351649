/-
Numerals in base ten and digits in base sixteen. `digits` writes a natural
number without leading zeros and `value` reads any run of decimal digits back.
-/

namespace DocSearch.Text

namespace Numeral

/-- The decimal digit of a number below ten. -/
def digit (n : Nat) : Char := Char.ofNat (48 + n)

/-- The number a decimal digit stands for. -/
def digitValue (c : Char) : Nat := c.toNat - 48

/-- The decimal digits of a number, most significant first, without leading zeros. -/
def digits (n : Nat) : List Char :=
  if n < 10 then [digit n] else digits (n / 10) ++ [digit (n % 10)]

/-- The number a run of decimal digits stands for. -/
def value (cs : List Char) : Nat := cs.foldl (fun acc c => 10 * acc + digitValue c) 0

/-- The decimal text of an integer. -/
def integerDigits (n : Int) : List Char :=
  if n < 0 then '-' :: digits n.natAbs else digits n.natAbs

/-- The digit of a number below sixteen, with `letter` the letter for ten. -/
def hexDigit (letter : Char) (n : Nat) : Char :=
  if n < 10 then digit n else Char.ofNat (letter.toNat + (n - 10))

/-- The digits of a number in base sixteen, in lower case, without leading zeros. -/
def hexDigits (n : Nat) : List Char :=
  if n < 16 then [hexDigit 'a' n] else hexDigits (n / 16) ++ [hexDigit 'a' (n % 16)]

/-- The number a digit in base sixteen stands for; letters of both cases count. -/
def hexValue? (c : Char) : Option Nat :=
  if '0' ≤ c ∧ c ≤ '9' then some (c.toNat - 48)
  else if 'a' ≤ c ∧ c ≤ 'f' then some (c.toNat - 87)
  else if 'A' ≤ c ∧ c ≤ 'F' then some (c.toNat - 55)
  else none

/-- The number that digits in base sixteen stand for; what is no digit counts as zero. -/
def hexValue (cs : List Char) : Nat := cs.foldl (fun acc c => 16 * acc + (hexValue? c).getD 0) 0

theorem digitValue_digit {n : Nat} (h : n < 10) : digitValue (digit n) = n := by
  have : ∀ m : Fin 10, digitValue (digit m.val) = m.val := by decide
  exact this ⟨n, h⟩

theorem isDigit_digit {n : Nat} (h : n < 10) : (digit n).isDigit = true := by
  have : ∀ m : Fin 10, (digit m.val).isDigit = true := by decide
  exact this ⟨n, h⟩

theorem value_append_singleton (cs : List Char) (c : Char) :
    value (cs ++ [c]) = 10 * value cs + digitValue c := by
  simp [value]

/-- Reading what was written gives the number back. -/
theorem value_digits (n : Nat) : value (digits n) = n := by
  fun_induction digits n with
  | case1 n h => simp [value, digitValue_digit h]
  | case2 n h ih =>
    rw [value_append_singleton, ih, digitValue_digit (Nat.mod_lt _ (by decide))]
    omega

theorem isDigit_of_mem_digits {n : Nat} {c : Char} (h : c ∈ digits n) : c.isDigit = true := by
  fun_induction digits n with
  | case1 n hn => simp only [List.mem_singleton] at h; exact h ▸ isDigit_digit hn
  | case2 n hn ih =>
    rcases List.mem_append.1 h with h | h
    · exact ih h
    · simp only [List.mem_singleton] at h
      exact h ▸ isDigit_digit (Nat.mod_lt _ (by decide))

theorem digits_ne_nil (n : Nat) : digits n ≠ [] := by
  unfold digits; split <;> simp

end Numeral

/-- The decimal text of a natural number. -/
def ofNat (n : Nat) : String := String.ofList (Numeral.digits n)

/-- The decimal text of an integer. -/
def ofInt (n : Int) : String := String.ofList (Numeral.integerDigits n)

end DocSearch.Text
