/-
**Reading a time as people write it.**

Blanks may stand between the parts, the parts may have fewer digits, a year may have a sign and then any
number of digits, and the offset may lack its colon or be the name of universal time.
-/

import SecretSource.Time.Scan
import SecretSource.Unicode.Blank

namespace SecretSource.Time

open SecretSource.Unicode (trimBlankStart)

/-- A number behind blanks, within bounds. -/
def scanPart (most lowest highest : Nat) : Scanner Nat := fun text => do
  let (number, rest) ← scanNumber most (trimBlankStart text)
  if lowest ≤ number ∧ number ≤ highest then .ok (number, rest) else .error .outOfRange

/-- A literal character behind blanks. -/
def scanMark (expected : Char) : Scanner Unit := fun text =>
  scanLetter expected (trimBlankStart text)

/-- A year: up to four digits, or a sign and digits. -/
def scanYear : Scanner Int := fun text =>
  let signed (sign : Int) (rest : List Char) : Except Reason (Int × List Char) := do
    let (number, rest) ← scanNumber rest.length rest
    let year := sign * number
    if -2147483648 ≤ year ∧ year ≤ 2147483647 then .ok (year, rest) else .error .outOfRange
  match trimBlankStart text with
  | '-' :: rest => signed (-1) rest
  | '+' :: rest => signed 1 rest
  | rest => do
    let (number, rest) ← scanNumber 4 rest
    .ok (number, rest)

/-- What stands between the date and the time. -/
def scanSeparator : Scanner Unit
  | [] => .error .tooShort
  | letter :: rest =>
    if letter = 'T' ∨ letter = 't' ∨ letter = ' ' then .ok ((), rest) else .error .invalid

/-- Passes colons and blanks. -/
def scanColons : Scanner Unit := fun text =>
  .ok ((), text.dropWhile fun letter => letter == ':' || Unicode.isBlank letter)

/-- An offset, or the name of universal time. -/
def scanZone : Scanner Int
  | first :: second :: third :: rest =>
    if [first.toUpper, second.toUpper, third.toUpper] = ['U', 'T', 'C'] then .ok (0, rest)
    else scanOffset scanColons (first :: second :: third :: rest)
  | text => scanOffset scanColons text

/-- Reads a time as people write it. -/
def readLenient (text : String) : Except Reason Instant := do
  let (year, rest) ← scanYear text.toList
  let ((), rest) ← scanMark '-' rest
  let (month, rest) ← scanPart 2 1 12 rest
  let ((), rest) ← scanMark '-' rest
  let (day, rest) ← scanPart 2 1 31 rest
  let ((), rest) ← scanSeparator rest
  let (hour, rest) ← scanPart 2 0 23 rest
  let ((), rest) ← scanMark ':' rest
  let (minute, rest) ← scanPart 2 0 59 rest
  let ((), rest) ← scanMark ':' rest
  let (seconds, rest) ← scanPart 2 0 60 rest
  let (nanos, rest) ← scanNanos rest
  let (offset, rest) ← scanZone (trimBlankStart rest)
  if rest.all Unicode.isBlank then
    match Date.of? year month day with
    | none => .error .outOfRange
    | some date =>
      match Instant.ofClock? date hour minute seconds nanos with
      | none => .error .outOfRange
      | some instant => toUniversal instant offset
  else .error .tooLong

end SecretSource.Time
