/-
**Instants of universal time, to the nanosecond.**

An instant is a day, a second of that day and a count of nanoseconds; a count of a whole second or more
lies in a leap second, which follows the last second of a minute. `shift?` moves an instant by minutes,
which is how times with an offset become universal time, and `text` writes it.
-/

import SecretSource.Time.Calendar

namespace SecretSource.Time

/-- Nanoseconds in a second. -/
def nanosPerSecond : Nat := 1000000000

/-- Seconds in a day. -/
def secondsPerDay : Nat := 86400

/-- Whether there is such a time of day. -/
def isTime (seconds nanos : Nat) : Bool :=
  decide (seconds < secondsPerDay)
    && (decide (nanos < nanosPerSecond) || (decide (nanos < 2 * nanosPerSecond) && seconds % 60 == 59))

/-- An instant. -/
structure Instant where
  date : Date
  seconds : Nat
  nanos : Nat
  exists_time : isTime seconds nanos = true
deriving DecidableEq

namespace Instant

/-- The instant of a day, a second of the day and nanoseconds, if there is one. -/
def of? (date : Date) (seconds nanos : Nat) : Option Instant :=
  if valid : isTime seconds nanos then some ⟨date, seconds, nanos, valid⟩ else none

/-- The instant of a clock that shows hours, minutes and seconds; a sixtieth second is a leap second. -/
def ofClock? (date : Date) (hour minute seconds nanos : Nat) : Option Instant :=
  if hour < 24 ∧ minute < 60 ∧ seconds ≤ 60 then
    if seconds = 60 then of? date (3600 * hour + 60 * minute + 59) (nanosPerSecond + nanos)
    else of? date (3600 * hour + 60 * minute + seconds) nanos
  else none

/-- The instant so many minutes later, less than a day; leap seconds stay leap seconds. -/
def shift? (instant : Instant) (minutes : Int) : Option Instant :=
  let moved : Int := instant.seconds + 60 * minutes
  if moved < 0 then do
    of? (← instant.date.previous?) (moved + secondsPerDay).toNat instant.nanos
  else if moved < secondsPerDay then of? instant.date moved.toNat instant.nanos
  else do
    of? (← instant.date.next?) (moved - secondsPerDay).toNat instant.nanos

/-- A number with at least so many digits. -/
def padded (width number : Nat) : List Char :=
  let digits := Nat.toDigits 10 number
  List.replicate (width - digits.length) '0' ++ digits

/-- A year: four digits, or a sign and at least four. -/
def yearText (year : Int) : List Char :=
  if 0 ≤ year ∧ year ≤ 9999 then padded 4 year.toNat
  else (if year < 0 then '-' else '+') :: padded 4 year.natAbs

/-- The fraction of a second, as thousandths, millionths or billionths. -/
def fractionText (nanos : Nat) : List Char :=
  if nanos = 0 then []
  else if nanos % 1000000 = 0 then '.' :: padded 3 (nanos / 1000000)
  else if nanos % 1000 = 0 then '.' :: padded 6 (nanos / 1000)
  else '.' :: padded 9 nanos

/-- The characters of an instant. -/
def written (instant : Instant) : List Char :=
  let leap := instant.nanos / nanosPerSecond
  yearText instant.date.year ++ '-' :: padded 2 instant.date.month ++ '-' :: padded 2 instant.date.day
    ++ 'T' :: padded 2 (instant.seconds / 3600) ++ ':' :: padded 2 (instant.seconds / 60 % 60)
    ++ ':' :: padded 2 (instant.seconds % 60 + leap)
    ++ fractionText (instant.nanos % nanosPerSecond) ++ ['Z']

/-- The text of an instant. -/
def text (instant : Instant) : String := String.ofList instant.written

end Instant

end SecretSource.Time
