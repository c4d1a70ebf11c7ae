/-
**Range tables: sets of code points, read from ranges of hexadecimal numbers.**

A property of characters is kept as text such as `41-5A 61-7A AA`, one word per range, both ends
included. `RangeTable.ofText` reads such a text once and `RangeTable.holds` asks for a character.
-/

import SecretSource.Text.Hex

namespace SecretSource.Unicode

open SecretSource.Text

/-- A set of code points, as a list of ranges with both ends included. -/
structure RangeTable where
  ranges : List (Nat × Nat)

namespace RangeTable

/-- The range that a word such as `41-5A` or `AA` names. -/
def rangeOfWord? (word : List Char) : Option (Nat × Nat) := do
  let first ← Hex.number? (word.takeWhile (· != '-'))
  match word.dropWhile (· != '-') with
  | [] => pure (first, first)
  | _ :: rest => pure (first, ← Hex.number? rest)

/-- Reads the ranges of a text, one word each. -/
def ofText (text : String) : RangeTable :=
  ⟨(Hex.words text.toList).filterMap rangeOfWord?⟩

/-- Whether a code point lies in one of the ranges. -/
def contains (table : RangeTable) (point : Nat) : Bool :=
  table.ranges.any fun range => range.1 ≤ point && point ≤ range.2

/-- Whether a character lies in one of the ranges. -/
def holds (table : RangeTable) (letter : Char) : Bool :=
  table.contains letter.toNat

end RangeTable

end SecretSource.Unicode
