/-
**Hexadecimal digits and numbers.**

Readers of single digits, of whole numbers, and of the blank-separated words in which the character tables are
written; writers of single digits.

* `digitValue?_upperDigit`, `digitValue?_lowerDigit`: a written digit is read back.
-/

namespace SecretSource.Text.Hex

/-- The value of a hexadecimal digit of either case. -/
def digitValue? (letter : Char) : Option Nat :=
  if '0' ≤ letter ∧ letter ≤ '9' then some (letter.toNat - 48)
  else if 'A' ≤ letter ∧ letter ≤ 'F' then some (letter.toNat - 55)
  else if 'a' ≤ letter ∧ letter ≤ 'f' then some (letter.toNat - 87)
  else none

/-- The capital digit of a value below sixteen. -/
def upperDigit (value : Nat) : Char :=
  if value < 10 then Char.ofNat (48 + value) else Char.ofNat (55 + value)

/-- The small digit of a value below sixteen. -/
def lowerDigit (value : Nat) : Char :=
  if value < 10 then Char.ofNat (48 + value) else Char.ofNat (87 + value)

theorem digitValue?_upperDigit : ∀ value : Fin 16, digitValue? (upperDigit value) = some value.val := by
  decide

theorem digitValue?_lowerDigit : ∀ value : Fin 16, digitValue? (lowerDigit value) = some value.val := by
  decide

/-- The number that a row of digits writes, continuing from `start`. -/
def numberFrom? (start : Nat) : List Char → Option Nat
  | [] => some start
  | letter :: rest =>
    match digitValue? letter with
    | some value => numberFrom? (16 * start + value) rest
    | none => none

/-- The number that a row of digits writes; no digits write no number. -/
def number? : List Char → Option Nat
  | [] => none
  | digits => numberFrom? 0 digits

/-- Splits a text at blanks and line ends; empty words are dropped. -/
def words (text : List Char) : List (List Char) :=
  (text.splitBy fun first second => isGap first == isGap second).filter fun word =>
    word.any (! isGap ·)
where
  /-- What separates two words. -/
  isGap (letter : Char) : Bool := letter == ' ' || letter == '\n'

end SecretSource.Text.Hex
