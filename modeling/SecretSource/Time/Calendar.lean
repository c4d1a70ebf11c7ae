/-
**Days of the Gregorian calendar, counted backwards before its introduction.**

A `Date` is a day that exists, of a year from `firstYear` to `lastYear`; its neighbours are found by
`next?` and `previous?`, which only fail at the two ends.

* `of?_eq_some_iff`: a day is known by its year, its month and its day of the month.
-/

namespace SecretSource.Time

/-- Whether a year has a 29th of February. -/
def isLeapYear (year : Int) : Bool :=
  year % 4 == 0 && (year % 100 != 0 || year % 400 == 0)

/-- How many days a month has. -/
def daysIn (year : Int) (month : Nat) : Nat :=
  if month = 2 then (if isLeapYear year then 29 else 28)
  else if month = 4 ∨ month = 6 ∨ month = 9 ∨ month = 11 then 30
  else 31

/-- The first year. -/
def firstYear : Int := -262143

/-- The last year. -/
def lastYear : Int := 262142

/-- Whether there is such a day. -/
def isDay (year : Int) (month day : Nat) : Bool :=
  decide (firstYear ≤ year) && decide (year ≤ lastYear) && decide (1 ≤ month) && decide (month ≤ 12)
    && decide (1 ≤ day) && decide (day ≤ daysIn year month)

/-- A day. -/
structure Date where
  year : Int
  month : Nat
  day : Nat
  exists_day : isDay year month day = true
deriving DecidableEq

namespace Date

/-- The day of a year, a month and a day of the month, if there is one. -/
def of? (year : Int) (month day : Nat) : Option Date :=
  if valid : isDay year month day then some ⟨year, month, day, valid⟩ else none

/-- The day after. -/
def next? (date : Date) : Option Date :=
  if date.day < daysIn date.year date.month then of? date.year date.month (date.day + 1)
  else if date.month < 12 then of? date.year (date.month + 1) 1
  else of? (date.year + 1) 1 1

/-- The day before. -/
def previous? (date : Date) : Option Date :=
  if 1 < date.day then of? date.year date.month (date.day - 1)
  else if 1 < date.month then of? date.year (date.month - 1) (daysIn date.year (date.month - 1))
  else of? (date.year - 1) 12 31

theorem of?_self (date : Date) : of? date.year date.month date.day = some date := by
  unfold of?
  rw [dif_pos date.exists_day]

theorem of?_eq_some_iff {year : Int} {month day : Nat} {date : Date} :
    of? year month day = some date ↔
      date.year = year ∧ date.month = month ∧ date.day = day := by
  constructor
  · intro found
    unfold of? at found
    split at found
    · cases found
      exact ⟨rfl, rfl, rfl⟩
    · cases found
  · rintro ⟨rfl, rfl, rfl⟩
    exact of?_self date

end Date

end SecretSource.Time
