/-
**Scanning times: digits, fractions and offsets.**

What the two readers of times have in common. A scanner takes what is left of a text and gives a value
and what is left behind it, or a reason. The end of the text counts in bytes: one character of several
bytes is a wrong character where two digits are missing, not the end.
-/

import SecretSource.Text.Utf8
import SecretSource.Time.Instant

namespace SecretSource.Time

/-- Why a text is no time. -/
inductive Reason where
  | tooShort
  | tooLong
  | invalid
  | outOfRange
  | impossible
deriving DecidableEq, Repr

/-- The sentence for a reason. -/
def Reason.message : Reason → String
  | .tooShort => "premature end of input"
  | .tooLong => "trailing input"
  | .invalid => "input contains invalid characters"
  | .outOfRange => "input is out of range"
  | .impossible => "no possible date and time matching input"

/-- A scanner of what is left of a text. -/
abbrev Scanner (α : Type) := List Char → Except Reason (α × List Char)

/-- The number that digits write. -/
def numberOf (digits : List Char) : Nat :=
  digits.foldl (fun number digit => 10 * number + (digit.toNat - 48)) 0

/-- A number of at least one digit and at most `most`. -/
def scanNumber (most : Nat) : Scanner Nat
  | [] => .error .tooShort
  | text@(letter :: _) =>
    if letter.isDigit then
      let digits := (text.take most).takeWhile Char.isDigit
      .ok (numberOf digits, text.drop digits.length)
    else .error .invalid

/-- A number of exactly two digits. -/
def scanPair : Scanner Nat
  | [] => .error .tooShort
  | [letter] => .error (if letter.utf8Size < 2 then .tooShort else .invalid)
  | first :: second :: rest =>
    if first.isDigit ∧ second.isDigit then .ok (numberOf [first, second], rest) else .error .invalid

/-- A literal character. -/
def scanLetter (expected : Char) : Scanner Unit
  | [] => .error .tooShort
  | letter :: rest => if letter = expected then .ok ((), rest) else .error .invalid

/-- The nanoseconds of a fraction behind its point; digits behind the ninth do not count. -/
def scanFraction : Scanner Nat
  | [] => .error .tooShort
  | text@(letter :: _) =>
    if letter.isDigit then
      let digits := (text.take 9).takeWhile Char.isDigit
      .ok (numberOf digits * Nat.pow 10 (9 - digits.length), text.dropWhile Char.isDigit)
    else .error .invalid

/-- A fraction of a second, if there is one. -/
def scanNanos : Scanner Nat
  | '.' :: rest => scanFraction rest
  | text => .ok (0, text)

/-- An offset from universal time in minutes: the letter Z, or a sign, hours and minutes with a separator
that `scanBetween` passes. -/
def scanOffset (scanBetween : Scanner Unit) : Scanner Int
  | [] => .error .tooShort
  | letter :: rest =>
    if letter = 'Z' ∨ letter = 'z' then .ok (0, rest)
    else if letter = '+' then signed 1 rest
    else if letter = '-' ∨ letter = '\u2212' then signed (-1) rest
    else .error .invalid
where
  /-- Hours and minutes behind a sign. -/
  signed (sign : Int) (text : List Char) : Except Reason (Int × List Char) := do
    let (hours, text) ← scanPair text
    let ((), text) ← scanBetween text
    let (minutes, text) ← scanPair text
    if 60 ≤ minutes then .error .outOfRange
    else .ok (sign * (60 * hours + minutes), text)

/-- The universal time of a time with an offset; the offset must be less than a day. -/
def toUniversal (instant : Instant) (offset : Int) : Except Reason Instant :=
  if offset.natAbs < 1440 then
    match instant.shift? (-offset) with
    | some universal => .ok universal
    | none => .error .impossible
  else .error .outOfRange

end SecretSource.Time
