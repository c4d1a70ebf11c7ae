/-
**Counting days and seconds.**

Every day has a number, and every instant a count of seconds from the start of 1970: the next day has the next number,
and no two days have the same. So an instant is known by its seconds and its nanoseconds, and moving it by minutes adds
as many seconds, across the borders of days, months and years.

* `Date.number_next?`, `Date.number_previous?`: neighbours have neighbouring numbers.
* `Date.number_injective`: days are known by their numbers.
* `Date.number_le_of_next?`, `Date.le_number_of_previous?`: only the last day has none behind, and the first none
  before.
* `Instant.ext_of_elapsed`: instants are known by their seconds and nanoseconds.
* `Instant.shift?_eq_some_iff`: what moving an instant by minutes gives.
-/

import SecretSource.Time.Instant

namespace SecretSource.Time

/-! ### Days -/

/-- How many years before a year have a 29th of February, counted from the year 1. -/
def leapsBefore (year : Int) : Int := (year - 1) / 4 - (year - 1) / 100 + (year - 1) / 400

/-- How many days of a year come before a month. -/
def daysBefore (year : Int) (month : Nat) : Nat :=
  (List.range (month - 1)).foldl (fun days earlier => days + daysIn year (earlier + 1)) 0

/-- The number of a day; the first day of 1970 has the number 0. -/
def dayNumber (year : Int) (month day : Nat) : Int :=
  365 * year + leapsBefore year + daysBefore year month + day - 719528

example : dayNumber 1970 1 1 = 0 ∧ dayNumber 2000 3 1 = 11017 ∧ dayNumber 0 1 1 = -719528 := by decide

theorem leapsBefore_succ (year : Int) :
    leapsBefore (year + 1) = leapsBefore year + (if isLeapYear year then 1 else 0 : Nat) := by
  unfold leapsBefore isLeapYear
  simp only [Bool.and_eq_true, Bool.or_eq_true, beq_iff_eq, bne_iff_ne]
  split <;> omega

theorem daysBefore_succ (year : Int) {month : Nat} (isMonth : 1 ≤ month) :
    daysBefore year (month + 1) = daysBefore year month + daysIn year month := by
  obtain ⟨earlier, rfl⟩ := Nat.exists_eq_add_of_le' isMonth
  unfold daysBefore
  rw [Nat.add_sub_cancel, Nat.add_sub_cancel, List.range_succ, List.foldl_append]
  rfl

/-- A year has a day more in February if it has a 29th of it. -/
theorem daysBefore_december (year : Int) :
    daysBefore year 12 + 31 = 365 + if isLeapYear year then 1 else 0 := by
  cases leap : isLeapYear year <;> simp [daysBefore, daysIn, leap, List.range_succ]

/-- The day after the last one of a year is the first one of the next. -/
theorem dayNumber_newYear (year : Int) : dayNumber (year + 1) 1 1 = dayNumber year 12 31 + 1 := by
  have leaps := leapsBefore_succ year
  have days := daysBefore_december year
  unfold dayNumber
  rw [show daysBefore (year + 1) 1 = 0 from rfl, leaps]
  omega

theorem daysBefore_mono (year : Int) {month month' : Nat} (inOrder : month ≤ month') :
    daysBefore year month ≤ daysBefore year month' := by
  induction inOrder with
  | refl => exact Nat.le_refl _
  | @step month' _ ih =>
    refine Nat.le_trans ih ?_
    rcases Nat.eq_zero_or_pos month' with rfl | isMonth
    · exact Nat.le_refl _
    · rw [daysBefore_succ year isMonth]
      exact Nat.le_add_right _ _

/-- The years come one after the other. -/
theorem dayNumber_newYear_mono {year year' : Int} (inOrder : year ≤ year') :
    dayNumber year 1 1 ≤ dayNumber year' 1 1 := by
  unfold dayNumber leapsBefore
  rw [show daysBefore year 1 = 0 from rfl, show daysBefore year' 1 = 0 from rfl]
  omega

theorem isDay_iff {year : Int} {month day : Nat} :
    isDay year month day = true ↔ firstYear ≤ year ∧ year ≤ lastYear ∧ 1 ≤ month ∧ month ≤ 12 ∧ 1 ≤ day ∧
      day ≤ daysIn year month := by
  simp only [isDay, Bool.and_eq_true, decide_eq_true_eq, and_assoc]

theorem daysIn_pos (year : Int) (month : Nat) : 1 ≤ daysIn year month := by
  unfold daysIn
  split
  · split <;> decide
  · split <;> decide

theorem daysIn_le (year : Int) (month : Nat) : daysIn year month ≤ 31 := by
  unfold daysIn
  split
  · split <;> decide
  · split <;> decide

namespace Date

/-- The number of a day. -/
def number (date : Date) : Int := dayNumber date.year date.month date.day

theorem bounds (date : Date) :
    firstYear ≤ date.year ∧ date.year ≤ lastYear ∧ 1 ≤ date.month ∧ date.month ≤ 12 ∧ 1 ≤ date.day ∧
      date.day ≤ daysIn date.year date.month := isDay_iff.mp date.exists_day

/-- A day is not before the first one of its month, and before the first one of the next. -/
theorem number_within (date : Date) :
    dayNumber date.year date.month 1 ≤ date.number ∧ date.number < dayNumber date.year (date.month + 1) 1 := by
  obtain ⟨-, -, isMonth, -, first, last⟩ := date.bounds
  unfold number dayNumber
  rw [daysBefore_succ _ isMonth]
  omega

/-- A day is not before the first one of its year, and before the first one of the next. -/
theorem number_withinYear (date : Date) :
    dayNumber date.year 1 1 ≤ date.number ∧ date.number < dayNumber (date.year + 1) 1 1 := by
  obtain ⟨notBefore, before⟩ := date.number_within
  obtain ⟨-, -, isMonth, month, -, -⟩ := date.bounds
  have early := daysBefore_mono date.year isMonth
  have late := daysBefore_mono date.year (Nat.add_le_add_right month 1)
  have full : daysBefore date.year (12 + 1) = daysBefore date.year 12 + 31 := daysBefore_succ _ (by decide)
  rw [dayNumber_newYear]
  unfold dayNumber at notBefore before ⊢
  omega

/-- Days of earlier years, of earlier months, and earlier days come before. -/
theorem number_lt {date date' : Date}
    (earlier : date.year < date'.year ∨ date.year = date'.year ∧
      (date.month < date'.month ∨ date.month = date'.month ∧ date.day < date'.day)) :
    date.number < date'.number := by
  rcases earlier with year | ⟨year, month | ⟨month, day⟩⟩
  · exact Int.lt_of_lt_of_le date.number_withinYear.2
      (Int.le_trans (dayNumber_newYear_mono year) date'.number_withinYear.1)
  · refine Int.lt_of_lt_of_le date.number_within.2 (Int.le_trans ?_ date'.number_within.1)
    have inOrder : daysBefore date.year (date.month + 1) ≤ _ := daysBefore_mono date.year month
    unfold dayNumber
    rw [← year]
    omega
  · unfold number dayNumber
    rw [← year, ← month]
    omega

/-- **Days are known by their numbers.** -/
theorem number_injective {date date' : Date} (same : date.number = date'.number) : date = date' := by
  have notBefore := mt (@number_lt date date') (by omega)
  have notBehind := mt (@number_lt date' date) (by omega)
  obtain ⟨year, month, day, _⟩ := date
  obtain ⟨year', month', day', _⟩ := date'
  simp only at notBefore notBehind
  obtain rfl : year = year' := by omega
  obtain rfl : month = month' := by omega
  obtain rfl : day = day' := by omega
  rfl

/-- The next day has the next number. -/
theorem number_next? {date after : Date} (next : date.next? = some after) : after.number = date.number + 1 := by
  obtain ⟨-, -, isMonth, month, -, day⟩ := date.bounds
  unfold number
  unfold next? at next
  split at next
  · obtain ⟨year, month, day⟩ := of?_eq_some_iff.mp next
    rw [year, month, day, dayNumber, dayNumber]
    omega
  · have full : date.day = daysIn date.year date.month := by omega
    split at next
    · obtain ⟨year, month, day⟩ := of?_eq_some_iff.mp next
      rw [year, month, day, dayNumber, dayNumber, daysBefore_succ _ isMonth]
      omega
    · obtain ⟨year, month, day⟩ := of?_eq_some_iff.mp next
      have december : date.month = 12 := by omega
      rw [year, month, day, full, december]
      exact dayNumber_newYear date.year

/-- The day before has the number before. -/
theorem number_previous? {date before : Date} (previous : date.previous? = some before) :
    before.number = date.number - 1 := by
  obtain ⟨-, -, isMonth, -, isDay, -⟩ := date.bounds
  unfold number
  unfold previous? at previous
  split at previous
  · obtain ⟨year, month, day⟩ := of?_eq_some_iff.mp previous
    rw [year, month, day, dayNumber, dayNumber]
    omega
  · have first : date.day = 1 := by omega
    split at previous
    · obtain ⟨year, month, day⟩ := of?_eq_some_iff.mp previous
      have later := daysBefore_succ date.year (show 1 ≤ date.month - 1 by omega)
      rw [Nat.sub_add_cancel isMonth] at later
      rw [year, month, day, dayNumber, dayNumber, later]
      omega
    · obtain ⟨year, month, day⟩ := of?_eq_some_iff.mp previous
      have newYear := dayNumber_newYear (date.year - 1)
      have january : date.month = 1 := by omega
      rw [Int.sub_add_cancel] at newYear
      rw [year, month, day, first, january, newYear]
      omega

theorem of?_eq_none_iff {year : Int} {month day : Nat} : of? year month day = none ↔ isDay year month day = false := by
  unfold of?
  split <;> simp_all

/-- No day comes behind one that has no next. -/
theorem number_le_of_next? {date : Date} (last : date.next? = none) (other : Date) : other.number ≤ date.number := by
  obtain ⟨first, year, isMonth, month, isDay, day⟩ := date.bounds
  unfold next? at last
  split at last
  · have exists_day : Time.isDay date.year date.month (date.day + 1) = true := isDay_iff.mpr (by omega)
    cases exists_day.symm.trans (of?_eq_none_iff.mp last)
  · split at last
    · have positive := daysIn_pos date.year (date.month + 1)
      have exists_day : Time.isDay date.year (date.month + 1) 1 = true := isDay_iff.mpr (by omega)
      cases exists_day.symm.trans (of?_eq_none_iff.mp last)
    · have december : date.month = 12 := by omega
      have perMonth : daysIn date.year date.month = 31 := by
        rw [december]
        rfl
      have full : date.day = 31 := by omega
      have isLast : date.year = lastYear := by
        refine Decidable.byContradiction fun notLast => ?_
        have exists_day : Time.isDay (date.year + 1) 1 1 = true :=
          isDay_iff.mpr ⟨by omega, by omega, by omega, by omega, by omega, daysIn_pos _ _⟩
        cases exists_day.symm.trans (of?_eq_none_iff.mp last)
      have notBehind := dayNumber_newYear_mono (show other.year + 1 ≤ date.year + 1 by have := other.bounds; omega)
      have behind := other.number_withinYear.2
      rw [dayNumber_newYear date.year] at notBehind
      rw [number.eq_1 date, december, full]
      omega

/-- No day comes before one that has none before it. -/
theorem le_number_of_previous? {date : Date} (first : date.previous? = none) (other : Date) :
    date.number ≤ other.number := by
  obtain ⟨notBefore, year, isMonth, month, isDay, day⟩ := date.bounds
  unfold previous? at first
  split at first
  · have exists_day : Time.isDay date.year date.month (date.day - 1) = true := isDay_iff.mpr (by omega)
    cases exists_day.symm.trans (of?_eq_none_iff.mp first)
  · split at first
    · have exists_day : Time.isDay date.year (date.month - 1) (daysIn date.year (date.month - 1)) = true :=
        isDay_iff.mpr ⟨by omega, by omega, by omega, by omega, daysIn_pos _ _, Nat.le_refl _⟩
      cases exists_day.symm.trans (of?_eq_none_iff.mp first)
    · have isFirst : date.year = firstYear := by
        refine Decidable.byContradiction fun notFirst => ?_
        have exists_day : Time.isDay (date.year - 1) 12 31 = true :=
          isDay_iff.mpr ⟨by omega, by omega, by omega, by omega, by omega, Nat.le_refl 31⟩
        cases exists_day.symm.trans (of?_eq_none_iff.mp first)
      have january : date.month = 1 := by omega
      have firstDay : date.day = 1 := by omega
      have notEarlier := dayNumber_newYear_mono (show date.year ≤ other.year by have := other.bounds; omega)
      rw [number.eq_1 date, january, firstDay]
      exact Int.le_trans notEarlier other.number_withinYear.1

end Date

/-! ### Instants -/

theorem isTime_iff {seconds nanos : Nat} :
    isTime seconds nanos = true ↔ seconds < 86400 ∧
      (nanos < 1000000000 ∨ nanos < 2000000000 ∧ seconds % 60 = 59) := by
  simp only [isTime, Bool.and_eq_true, Bool.or_eq_true, decide_eq_true_eq, beq_iff_eq]
  unfold secondsPerDay nanosPerSecond
  omega

namespace Instant

/-- The seconds from the start of 1970; a leap second counts as the one before it. -/
def elapsed (instant : Instant) : Int := 86400 * instant.date.number + instant.seconds

theorem of?_eq_some_iff {date : Date} {seconds nanos : Nat} {instant : Instant} :
    of? date seconds nanos = some instant ↔
      instant.date = date ∧ instant.seconds = seconds ∧ instant.nanos = nanos := by
  unfold of?
  constructor
  · intro found
    split at found
    · cases found
      exact ⟨rfl, rfl, rfl⟩
    · cases found
  · rintro ⟨rfl, rfl, rfl⟩
    rw [dif_pos instant.exists_time]

/-- **Instants are known by their seconds and nanoseconds.** -/
theorem ext_of_elapsed {instant instant' : Instant} (elapsed : instant.elapsed = instant'.elapsed)
    (nanos : instant.nanos = instant'.nanos) : instant = instant' := by
  have inDay := (isTime_iff.mp instant.exists_time).1
  have inDay' := (isTime_iff.mp instant'.exists_time).1
  unfold Instant.elapsed at elapsed
  obtain ⟨date, seconds, _, _⟩ := instant
  obtain ⟨date', seconds', _, _⟩ := instant'
  simp only at elapsed nanos inDay inDay'
  obtain rfl : date = date' := Date.number_injective (by omega)
  obtain rfl : seconds = seconds' := by omega
  subst nanos
  rfl

/-- Moving an instant by minutes adds as many seconds. -/
theorem elapsed_of_shift? {instant moved : Instant} {minutes : Int} (small : minutes.natAbs < 1440)
    (shifted : instant.shift? minutes = some moved) :
    moved.elapsed = instant.elapsed + 60 * minutes ∧ moved.nanos = instant.nanos := by
  unfold shift? at shifted
  dsimp only at shifted
  unfold elapsed
  have perDay : (secondsPerDay : Int) = 86400 := rfl
  split at shifted
  · obtain ⟨before, previous, shifted⟩ := Option.bind_eq_some_iff.mp shifted
    obtain ⟨date, seconds, nanos⟩ := of?_eq_some_iff.mp shifted
    rw [date, seconds, Date.number_previous? previous]
    exact ⟨by omega, nanos⟩
  · split at shifted
    · obtain ⟨date, seconds, nanos⟩ := of?_eq_some_iff.mp shifted
      rw [date, seconds]
      exact ⟨by omega, nanos⟩
    · obtain ⟨after, next, shifted⟩ := Option.bind_eq_some_iff.mp shifted
      obtain ⟨date, seconds, nanos⟩ := of?_eq_some_iff.mp shifted
      rw [date, seconds, Date.number_next? next]
      exact ⟨by omega, nanos⟩

/-- A time of day stays one if it is moved by whole minutes within the day. -/
theorem exists_of?_of_mod {instant : Instant} (date : Date) {seconds : Nat} (inDay : seconds < 86400)
    (wholeMinutes : seconds % 60 = instant.seconds % 60) : ∃ moved, of? date seconds instant.nanos = some moved := by
  have exists_time := isTime_iff.mp instant.exists_time
  rw [← wholeMinutes] at exists_time
  exact ⟨⟨date, seconds, instant.nanos, isTime_iff.mpr ⟨inDay, exists_time.2⟩⟩, dif_pos _⟩

/-- An instant can be moved to where there is one. -/
theorem exists_shift? {instant other : Instant} {minutes : Int} (small : minutes.natAbs < 1440)
    (elapsed : other.elapsed = instant.elapsed + 60 * minutes) : ∃ moved, instant.shift? minutes = some moved := by
  have inDay := (isTime_iff.mp instant.exists_time).1
  have inDay' := (isTime_iff.mp other.exists_time).1
  have perDay : (secondsPerDay : Int) = 86400 := rfl
  unfold Instant.elapsed at elapsed
  unfold shift?
  dsimp only
  split
  · cases previous : instant.date.previous? with
    | none =>
      have notBefore := Date.le_number_of_previous? previous other.date
      omega
    | some before => exact exists_of?_of_mod before (by omega) (by omega)
  · split
    · exact exists_of?_of_mod instant.date (by omega) (by omega)
    · cases next : instant.date.next? with
      | none =>
        have notBehind := Date.number_le_of_next? next other.date
        omega
      | some after => exact exists_of?_of_mod after (by omega) (by omega)

/-- **Moving an instant by minutes gives the instant of as many seconds later**, if there is one, and keeps leap
seconds. -/
theorem shift?_eq_some_iff {instant moved : Instant} {minutes : Int} (small : minutes.natAbs < 1440) :
    instant.shift? minutes = some moved ↔
      moved.elapsed = instant.elapsed + 60 * minutes ∧ moved.nanos = instant.nanos := by
  refine ⟨elapsed_of_shift? small, fun ⟨elapsed, nanos⟩ => ?_⟩
  obtain ⟨there, shifted⟩ := exists_shift? small elapsed
  obtain ⟨elapsed', nanos'⟩ := elapsed_of_shift? small shifted
  rw [shifted, ext_of_elapsed (elapsed'.trans elapsed.symm) (nanos'.trans nanos.symm)]

end Instant

end SecretSource.Time
