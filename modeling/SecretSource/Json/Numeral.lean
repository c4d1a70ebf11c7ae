/-
**Numbers in JSON: how they are spelled and what they are worth.**

`readNumeral` takes a numeral apart. `Numeral.value` is its worth: a whole number where 64 bits hold
it, otherwise the digits that 64 bits hold, times or over a power of ten, in floating point.
-/

import SecretSource.Json.Cursor

namespace SecretSource.Json

open SecretSource.Number

/-- The exponent of a numeral: its sign, its digits, and where they start. -/
structure Exponent where
  negative : Bool
  digits : List Char
  place : Place

/-- A numeral taken apart. -/
structure Numeral where
  negative : Bool
  digits : List Char
  fraction : Option (List Char)
  exponent : Option Exponent

/-- What is wrong with a numeral, for a reader of its value and for one that passes it. -/
structure NumeralFault where
  reading : Fault
  skipping : Fault

/-- The same fault for both readers. -/
def NumeralFault.both (fault : Fault) : NumeralFault := ⟨fault, fault⟩

/-- The end of the text where a numeral needs a digit. -/
def NumeralFault.atEnd (cursor : Cursor) : NumeralFault :=
  ⟨cursor.fault .endInValue, cursor.fault .invalidNumber⟩

/-- Passes digits and gives them. -/
def takeDigits (cursor : Cursor) : List Char × Cursor :=
  (cursor.rest.takeWhile Char.isDigit, Cursor.passWhile Char.isDigit cursor.place cursor.rest)

/-- Passes one character that is known to be a single byte. -/
def step (cursor : Cursor) (rest : List Char) : Cursor := ⟨cursor.place.next, rest⟩

/-- Reads the digits before the point: a leading zero stands alone. -/
def readWhole (cursor : Cursor) : Except NumeralFault (List Char × Cursor) :=
  match cursor.rest with
  | [] => .error (.atEnd cursor)
  | '0' :: rest =>
    let next := step cursor rest
    match rest with
    | letter :: _ =>
      if letter.isDigit then .error (.both (next.faultAhead .invalidNumber)) else .ok (['0'], next)
    | [] => .ok (['0'], next)
  | letter :: _ =>
    if letter.isDigit then .ok (takeDigits cursor)
    else .error (.both (cursor.faultAhead .invalidNumber))

/-- Reads the digits behind a point, if there is a point. -/
def readFraction (cursor : Cursor) : Except NumeralFault (Option (List Char) × Cursor) :=
  match cursor.rest with
  | '.' :: rest =>
    let next := step cursor rest
    match takeDigits next with
    | ([], _) =>
      if rest.isEmpty then .error (.atEnd next)
      else .error (.both (next.faultAhead .invalidNumber))
    | (digits, beyond) => .ok (some digits, beyond)
  | _ => .ok (none, cursor)

/-- Reads an exponent, if there is one. -/
def readExponent (cursor : Cursor) : Except NumeralFault (Option Exponent × Cursor) :=
  let ofSign (negative : Bool) (next : Cursor) : Except NumeralFault (Option Exponent × Cursor) :=
    match takeDigits next with
    | ([], _) =>
      if next.rest.isEmpty then .error (.atEnd next)
      else .error (.both (next.faultAhead .invalidNumber))
    | (digits, beyond) => .ok (some ⟨negative, digits, next.place⟩, beyond)
  match cursor.rest with
  | letter :: rest =>
    if letter = 'e' ∨ letter = 'E' then
      let next := step cursor rest
      match rest with
      | '+' :: more => ofSign false (step next more)
      | '-' :: more => ofSign true (step next more)
      | _ => ofSign false next
    else .ok (none, cursor)
  | [] => .ok (none, cursor)

/-- Reads a numeral whose first character is a minus sign or a digit. -/
def readNumeral (cursor : Cursor) : Except NumeralFault (Numeral × Cursor) := do
  let (negative, cursor) := match cursor.rest with
    | '-' :: rest => (true, step cursor rest)
    | _ => (false, cursor)
  let (digits, cursor) ← readWhole cursor
  let (fraction, cursor) ← readFraction cursor
  let (exponent, cursor) ← readExponent cursor
  pure (⟨negative, digits, fraction, exponent⟩, cursor)

/-- The largest whole number of 64 bits. -/
def largestWord : Nat := 18446744073709551615

/-- The value of a digit. -/
def digitOf (letter : Char) : Nat := letter.toNat - 48

/-- Takes digits into a whole number as long as 64 bits hold it, and gives the digits left over. -/
def absorb (number : Nat) : List Char → Nat × List Char
  | [] => (number, [])
  | letter :: rest =>
    let next := 10 * number + digitOf letter
    if next ≤ largestWord then absorb next rest else (number, letter :: rest)

/-- The value of the digits of an exponent; none, and the count of digits read by then, once it passes
31 bits. -/
def exponentValue (number count : Nat) : List Char → Except Nat Nat
  | [] => .ok number
  | letter :: rest =>
    let next := 10 * number + digitOf letter
    if next ≤ 2147483647 then exponentValue next (count + 1) rest else .error (count + 1)

/-- Divides a value by `factor`, which is ten to the 308, until at most 308 places are left, or until
nothing is left of the value. -/
def shrink (factor value : Binary64) (places : Nat) : Option (Binary64 × Nat) :=
  if places ≤ 308 ∨ value.isZero then some (value, places)
  else
    match value.dividedBy factor with
    | some smaller => shrink factor smaller (places - 308)
    | none => none
termination_by places

/-- A value times or over a power of ten, in steps of at most 308 places; none beyond the largest. -/
def scale (value : Binary64) (power : Int) : Option Binary64 :=
  if 0 ≤ power then
    if power ≤ 308 then do value.times (← Binary64.powerOfTen? power.toNat)
    else if value.isZero then some value
    else none
  else do
    let (smaller, places) ← shrink (← Binary64.powerOfTen? 308) value (-power).toNat
    if smaller.isZero then some smaller else smaller.dividedBy (← Binary64.powerOfTen? places)

/-- The floating-point value of digits times a power of ten. -/
def realValue (negative : Bool) (digits : Nat) (power : Int) : Option Number := do
  let size ← scale (← Binary64.ofNat? digits) power
  pure (.real (size.withSign negative))

namespace Numeral

/-- The worth of a numeral that ends at a place. -/
def value (numeral : Numeral) (stop : Place) : Except Fault Number :=
  let outOfRange : Fault := ⟨.numberOutOfRange, stop⟩
  let real (digits : Nat) (power : Int) : Except Fault Number :=
    match realValue numeral.negative digits power with
    | some number => .ok number
    | none => .error outOfRange
  let (whole, left) := absorb 0 numeral.digits
  match numeral.fraction, numeral.exponent, left with
  | none, none, [] =>
    if ! numeral.negative then .ok (.integer whole)
    else if whole = 0 ∨ 9223372036854775808 < whole then real whole 0
    else .ok (.integer (-whole))
  | fraction, exponent, left =>
    let decimals := fraction.getD []
    let (digits, unused) := absorb whole decimals
    let power : Int := Int.ofNat left.length - Int.ofNat (decimals.length - unused.length)
    match exponent with
    | none => real digits power
    | some exponent =>
      match exponentValue 0 0 exponent.digits with
      | .ok shift => real digits (if exponent.negative then power - shift else power + shift)
      | .error count =>
        if digits ≠ 0 ∧ ! exponent.negative then
          .error ⟨.numberOutOfRange, ⟨exponent.place.line, exponent.place.column + count⟩⟩
        else .ok (.real (Binary64.zero.withSign numeral.negative))

end Numeral

end SecretSource.Json
