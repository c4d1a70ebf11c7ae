/-
**What is printed of an instant tells this instant.**

An instant is printed as a time of universal time, with as many digits of a fraction as it needs, and a leap second as
the sixtieth. This time tells the instant: so what is printed is read as the same instant again, in its standard form
where the year has four digits, and as people write it in every year.

* `Instant.told`, `Instant.told_tells`: the time that is printed, and that it tells the instant.
* `Instant.isStandard_written`, `Instant.isLoose_written`: what is printed spells it.
* `Instant.readStrict_text`, `Instant.readLenient_text`: reading undoes printing.
* `Instant.text_eq_of_tells`: times that tell the same are printed alike.
-/

import SecretSource.Proofs.Time.Loose

namespace SecretSource.Time.Instant

open SecretSource.Unicode (isBlank trimBlank)

/-! ### The time that is printed -/

/-- What is printed of an instant, as a time of universal time. -/
def told (instant : Instant) : ToldTime where
  year := instant.date.year
  month := instant.date.month
  day := instant.date.day
  hour := instant.seconds / 3600
  minute := instant.seconds / 60 % 60
  second := instant.seconds % 60 + instant.nanos / nanosPerSecond
  fraction := (fractionText (instant.nanos % nanosPerSecond)).tail
  offset := 0

theorem padded_ne_nil (width number : Nat) : padded width number ≠ [] :=
  List.append_ne_nil_of_right_ne_nil _ Nat.toDigits_ne_nil

/-- What is printed of nanoseconds is a fraction. -/
theorem isFraction_fractionText (nanos : Nat) : IsFraction (fractionText nanos).tail (fractionText nanos) := by
  have digits (width number : Nat) : IsFraction (padded width number) ('.' :: padded width number) :=
    .some (padded_ne_nil width number) (padded_areDigits width number)
  unfold fractionText
  split
  · exact .none
  split
  · exact digits 3 _
  split
  · exact digits 6 _
  · exact digits 9 _

/-- A number of so many digits counts its unit. -/
theorem nanosOf_padded {width number unit : Nat} (someWidth : 0 < width) (fits : number < Nat.pow 10 width)
    (isUnit : nanosPerSecond = unit * Nat.pow 10 width) : nanosOf (padded width number) = number * unit := by
  rw [nanosOf, numberOf_padded, (isNumber_padded someWidth fits).length, isUnit, ← Nat.mul_assoc,
    Nat.mul_div_cancel _ (pow_ten_pos width)]

/-- It tells as many nanoseconds. -/
theorem nanosOf_fractionText {nanos : Nat} (inSecond : nanos < nanosPerSecond) :
    nanosOf (fractionText nanos).tail = nanos := by
  have thousandths : nanosPerSecond = 1000000 * Nat.pow 10 3 := rfl
  have millionths : nanosPerSecond = 1000 * Nat.pow 10 6 := rfl
  have billionths : nanosPerSecond = 1 * Nat.pow 10 9 := rfl
  have bound : nanos < 1000000000 := inSecond
  unfold fractionText
  split
  · rename_i zero
    rw [zero]
    rfl
  split
  · have fits : nanos / 1000000 < 1000 := by omega
    rw [List.tail_cons, nanosOf_padded (by decide) fits thousandths]
    omega
  split
  · have fits : nanos / 1000 < 1000000 := by omega
    rw [List.tail_cons, nanosOf_padded (by decide) fits millionths]
    omega
  · rw [List.tail_cons, nanosOf_padded (by decide) inSecond billionths, Nat.mul_one]

/-- **The time that is printed tells the instant.** -/
theorem told_tells (instant : Instant) : instant.told.Tells instant := by
  obtain ⟨inDay, inMinute⟩ := isTime_iff.mp instant.exists_time
  have perSecond : nanosPerSecond = 1000000000 := rfl
  have fraction : nanosOf instant.told.fraction = instant.nanos % 1000000000 :=
    nanosOf_fractionText (Nat.mod_lt _ (by decide))
  refine ⟨instant.date.exists_day, ?_, show (0 : Int).natAbs < 1440 by decide, ?_, ?_⟩
  · show instant.seconds / 3600 < 24 ∧ instant.seconds / 60 % 60 < 60 ∧
      instant.seconds % 60 + instant.nanos / 1000000000 ≤ 60
    omega
  · show 86400 * instant.date.number + instant.seconds =
      86400 * instant.date.number + 3600 * (instant.seconds / 3600 : Nat) + 60 * (instant.seconds / 60 % 60 : Nat) +
        min (instant.seconds % 60 + instant.nanos / 1000000000 : Nat) 59 - 60 * 0
    omega
  · rw [ToldTime.nanos, fraction]
    show instant.nanos = (if instant.seconds % 60 + instant.nanos / 1000000000 = 60 then _ else _) + _
    split <;> omega

/-! ### What is printed -/

theorem isPart_padded {number : Nat} (fits : number < 100) : IsPart 2 number (padded 2 number) :=
  isPart_of_digits (padded_ne_nil 2 number) (padded_areDigits 2 number)
    (Nat.le_of_eq (isNumber_padded (by decide) fits).length) (numberOf_padded 2 number)

/-- A year is printed as it may be written. -/
theorem isYear_yearText (year : Int) : IsYear year (yearText year) := by
  unfold yearText
  split
  · rename_i fourDigits
    have fits : year.toNat < 10000 := by omega
    have plain : IsYear (year.toNat : Nat) (padded 4 year.toNat) :=
      .plain (isPart_of_digits (padded_ne_nil 4 _) (padded_areDigits 4 _)
        (Nat.le_of_eq (isNumber_padded (by decide) fits).length) (numberOf_padded 4 _))
    rwa [Int.toNat_of_nonneg fourDigits.1] at plain
  · have signed {sign : Int} {letter : Char} (isSign : sign = 1 ∧ letter = '+' ∨ sign = -1 ∧ letter = '-') :
        IsYear (sign * (year.natAbs : Nat)) (letter :: padded 4 year.natAbs) := by
      have spelled : IsYear (sign * numberOf (padded 4 year.natAbs)) (letter :: padded 4 year.natAbs) :=
        .signed areBlank_nil isSign (padded_ne_nil 4 _) (padded_areDigits 4 _)
      rwa [numberOf_padded] at spelled
    split
    · have minus := signed (Or.inr ⟨rfl, rfl⟩)
      rwa [show -1 * ((year.natAbs : Nat) : Int) = year by omega] at minus
    · have plus := signed (Or.inl ⟨rfl, rfl⟩)
      rwa [show 1 * ((year.natAbs : Nat) : Int) = year by omega] at plus

/-- The numbers in what is printed have at most two digits, but for the year. -/
theorem told_fits (instant : Instant) :
    instant.told.month < 100 ∧ instant.told.day < 100 ∧ instant.told.hour < 100 ∧ instant.told.minute < 100 ∧
      instant.told.second < 100 := by
  obtain ⟨isDay, isClock, -, -, -⟩ := instant.told_tells
  obtain ⟨-, -, -, month, -, day⟩ := isDay_iff.mp isDay
  have perMonth := daysIn_le instant.told.year instant.told.month
  omega

theorem written_eq (instant : Instant) :
    instant.written = yearText instant.date.year ++ ('-' :: (padded 2 instant.told.month ++ ('-' ::
      (padded 2 instant.told.day ++ ('T' :: (padded 2 instant.told.hour ++ (':' :: (padded 2 instant.told.minute ++
        (':' :: (padded 2 instant.told.second ++
          (fractionText (instant.nanos % nanosPerSecond) ++ ['Z']))))))))))) := by
  simp [written, told]

/-- **What is printed of an instant is a time in its standard form**, if the year has four digits. -/
theorem isStandard_written (instant : Instant) (notBefore : 0 ≤ instant.date.year)
    (notBehind : instant.date.year ≤ 9999) : IsStandard instant.told instant.written := by
  obtain ⟨month, day, hour, minute, second⟩ := instant.told_fits
  have fourDigits : instant.date.year.toNat < 10000 := by omega
  have isYear : IsNumber 4 instant.date.year.toNat (padded 4 instant.date.year.toNat) :=
    isNumber_padded (by decide) fourDigits
  rw [written_eq, yearText, if_pos ⟨notBefore, notBehind⟩]
  exact .intro isYear (Int.toNat_of_nonneg notBefore).symm (isNumber_padded (by decide) month)
    (isNumber_padded (by decide) day) (by decide) (isNumber_padded (by decide) hour)
    (isNumber_padded (by decide) minute) (isNumber_padded (by decide) second) (isFraction_fractionText _)
    (.universal (Or.inl rfl))

/-- What is printed of an instant is a time as people write it. -/
theorem isLoose_written (instant : Instant) : IsLoose instant.told instant.written := by
  obtain ⟨month, day, hour, minute, second⟩ := instant.told_fits
  have mark (expected : Char) : IsMark expected [expected] := .intro areBlank_nil
  have spelled : IsLoose instant.told _ := .intro (isYear_yearText instant.date.year) (mark '-') (isPart_padded month)
    (mark '-') (isPart_padded day) (Or.inl rfl) (isPart_padded hour) (mark ':') (isPart_padded minute) (mark ':')
    (isPart_padded second) (isFraction_fractionText _) areBlank_nil (.offset (.universal (Or.inl rfl))) areBlank_nil
  rw [written_eq]
  simpa using spelled

/-! ### Reading what is printed -/

/-- **What is printed of an instant is read as the instant**, whatever its year. -/
theorem readLenient_text (instant : Instant) : readLenient instant.text = .ok instant := by
  refine readLenient_of_isLoose ?_ instant.told_tells
  rw [text, String.toList_ofList]
  exact instant.isLoose_written

/-- **What is printed of an instant is read as the instant**, in its standard form, if the year has four digits. -/
theorem readStrict_text (instant : Instant) (notBefore : 0 ≤ instant.date.year) (notBehind : instant.date.year ≤ 9999) :
    readStrict instant.text = .ok instant := by
  refine readStrict_of_isStandard ?_ instant.told_tells
  rw [text, String.toList_ofList]
  exact instant.isStandard_written notBefore notBehind

/-- Times of the same seconds and nanoseconds are printed alike, whatever their offsets. -/
theorem text_eq_of_tells {time time' : ToldTime} {instant instant' : Instant} (tells : time.Tells instant)
    (tells' : time'.Tells instant') (elapsed : time.elapsed = time'.elapsed) (nanos : time.nanos = time'.nanos) :
    instant.text = instant'.text := by
  rw [tells.unique tells' elapsed nanos]

/-- There is no white space in what is printed. -/
theorem written_visible (instant : Instant) : ∀ letter ∈ instant.written, isBlank letter = false := by
  have digits (width number : Nat) : ∀ letter ∈ padded width number, isBlank letter = false :=
    fun letter member => isBlank_eq_false_of_isDigit (padded_areDigits width number letter member)
  have year : ∀ letter ∈ yearText instant.date.year, isBlank letter = false := by
    unfold yearText
    split
    · exact digits _ _
    · split <;> exact List.forall_mem_cons.mpr ⟨by decide, digits _ _⟩
  have fraction : ∀ letter ∈ fractionText (instant.nanos % nanosPerSecond), isBlank letter = false :=
    (isFraction_fractionText _).visible
  rw [written_eq]
  simp only [List.forall_mem_append, List.forall_mem_cons]
  exact ⟨year, by decide, digits _ _, by decide, digits _ _, by decide, digits _ _, by decide, digits _ _, by decide,
    digits _ _, fraction, by decide, nofun⟩

/-- So trimming leaves it as it is. -/
theorem trimBlank_text (instant : Instant) : trimBlank instant.text = instant.text := by
  unfold trimBlank text
  rw [String.toList_ofList, Text.trim_of_kept instant.written_visible]

end SecretSource.Time.Instant
