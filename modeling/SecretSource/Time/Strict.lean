/-
**Reading a time in its standard form.**

Year, month, day and the time of day have fixed widths, a fraction of a second may follow, and the offset
has hours, a colon and minutes.
-/

import SecretSource.Time.Scan

namespace SecretSource.Time

/-- The number that digits at fixed places write. -/
def digitsAt (text : List Char) (place width : Nat) : Except Reason Nat :=
  let digits := (text.drop place).take width
  if digits.length = width ∧ digits.all Char.isDigit then .ok (numberOf digits) else .error .invalid

/-- Sees that one of some letters stands at a place. -/
def letterAt (text : List Char) (place : Nat) (letters : List Char) : Except Reason Unit :=
  match text[place]? with
  | some letter => if letters.contains letter then .ok () else .error .invalid
  | none => .error .invalid

/-- Reads a time in its standard form. -/
def readStrict (text : String) : Except Reason Instant := do
  let letters := text.toList
  if text.utf8ByteSize < 19 then .error .tooShort
  else
    let year ← digitsAt letters 0 4
    letterAt letters 4 ['-']
    let month ← digitsAt letters 5 2
    letterAt letters 7 ['-']
    let day ← digitsAt letters 8 2
    match Date.of? year month day with
    | none => .error .outOfRange
    | some date =>
      letterAt letters 10 ['T', 't', ' ']
      let hour ← digitsAt letters 11 2
      letterAt letters 13 [':']
      let minute ← digitsAt letters 14 2
      letterAt letters 16 [':']
      let seconds ← digitsAt letters 17 2
      let (nanos, rest) ← scanNanos (letters.drop 19)
      match Instant.ofClock? date hour minute seconds nanos with
      | none => .error .outOfRange
      | some instant =>
        let (offset, rest) ← scanOffset (scanLetter ':') rest
        let universal ← toUniversal instant offset
        if rest.isEmpty then .ok universal else .error .tooLong

end SecretSource.Time
