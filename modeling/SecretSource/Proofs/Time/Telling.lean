/-
**The instants that times tell.**

A time names a day and what a clock shows on it, and how far that clock is ahead of universal time. It tells the
instant that is as many seconds from the start of 1970 as the day and the clock say, less the offset: so times with
different offsets, on different days and in different years, may tell the same. A reader of times accepts what is
spelled as one and tells an instant, and gives this instant.

* `ToldTime.Tells`, `ToldTime.Tells.unique`: the instant that a time tells, which is known by its seconds and
  nanoseconds.
* `ToldTime.tells_iff`: the day, the clock and the offset, one after the other, find it.
* `IsStandard`, `readStrict_eq_ok_iff`: the standard form, and that its reader gives the instants that it tells.
-/

import SecretSource.Proofs.Time.Counting
import SecretSource.Proofs.Time.Scanning
import SecretSource.Time.Strict

namespace SecretSource.Time

/-! ### Clocks and offsets -/

namespace Instant

/-- Every clock up to the sixtieth second shows a time of day. -/
theorem exists_ofClock? (date : Date) {hour minute second nanos : Nat}
    (isClock : hour < 24 ∧ minute < 60 ∧ second ≤ 60) (inSecond : nanos < nanosPerSecond) :
    ∃ clock, ofClock? date hour minute second nanos = some clock := by
  have perSecond : nanosPerSecond = 1000000000 := rfl
  unfold ofClock?
  rw [if_pos isClock]
  split
  · exact ⟨⟨date, _, _, isTime_iff.mpr (by omega)⟩, dif_pos _⟩
  · exact ⟨⟨date, _, _, isTime_iff.mpr (by omega)⟩, dif_pos _⟩

/-- What a clock shows is a time of day up to the sixtieth second, and this one is a leap second. -/
theorem ofClock?_eq_some_iff {date : Date} {hour minute second nanos : Nat} {instant : Instant}
    (inSecond : nanos < nanosPerSecond) :
    ofClock? date hour minute second nanos = some instant ↔
      (hour < 24 ∧ minute < 60 ∧ second ≤ 60) ∧
        instant.elapsed = 86400 * date.number + 3600 * hour + 60 * minute + min second 59 ∧
        instant.nanos = (if second = 60 then nanosPerSecond else 0) + nanos := by
  have sound {there : Instant} (found : ofClock? date hour minute second nanos = some there) :
      (hour < 24 ∧ minute < 60 ∧ second ≤ 60) ∧
        there.elapsed = 86400 * date.number + 3600 * hour + 60 * minute + min second 59 ∧
        there.nanos = (if second = 60 then nanosPerSecond else 0) + nanos := by
    unfold ofClock? at found
    split at found
    · rename_i shows
      refine ⟨shows, ?_⟩
      split at found
      · rename_i leap
        obtain ⟨date, seconds, nanos⟩ := of?_eq_some_iff.mp found
        rw [elapsed, date, seconds, nanos, leap]
        exact ⟨by omega, rfl⟩
      · rename_i noLeap
        obtain ⟨date, seconds, nanos⟩ := of?_eq_some_iff.mp found
        rw [elapsed, date, seconds, nanos, if_neg noLeap]
        exact ⟨by omega, (Nat.zero_add _).symm⟩
    · cases found
  refine ⟨sound, fun ⟨shows, elapsed, nanos'⟩ => ?_⟩
  obtain ⟨there, found⟩ := exists_ofClock? date shows inSecond
  obtain ⟨-, elapsed', nanos''⟩ := sound found
  rw [found, ext_of_elapsed (elapsed'.trans elapsed.symm) (nanos''.trans nanos'.symm)]

end Instant

/-- Universal time is behind a clock by the offset, which is less than a day. -/
theorem toUniversal_eq_ok_iff {clock instant : Instant} {offset : Int} :
    toUniversal clock offset = .ok instant ↔
      offset.natAbs < 1440 ∧ instant.elapsed = clock.elapsed - 60 * offset ∧ instant.nanos = clock.nanos := by
  unfold toUniversal
  by_cases small : offset.natAbs < 1440
  · have moves : clock.shift? (-offset) = some instant ↔
        instant.elapsed = clock.elapsed + 60 * -offset ∧ instant.nanos = clock.nanos :=
      Instant.shift?_eq_some_iff (by omega)
    rw [Int.mul_neg] at moves
    rw [if_pos small, and_iff_right small, Int.sub_eq_add_neg, ← moves]
    cases clock.shift? (-offset) <;> simp
  · rw [if_neg small]
    exact iff_of_false nofun fun tells => small tells.1

/-! ### Times -/

/-- What a time tells: the day, what a clock shows with the digits of its fraction of a second, and the minutes that
the clock is ahead of universal time. -/
structure ToldTime where
  year : Int
  month : Nat
  day : Nat
  hour : Nat
  minute : Nat
  second : Nat
  fraction : List Char
  offset : Int

namespace ToldTime

/-- The seconds from the start of 1970; a leap second counts as the one before it. -/
def elapsed (time : ToldTime) : Int :=
  86400 * dayNumber time.year time.month time.day + 3600 * time.hour + 60 * time.minute + min time.second 59
    - 60 * time.offset

/-- The nanoseconds; those of a leap second come behind those of the one before it. -/
def nanos (time : ToldTime) : Nat := (if time.second = 60 then nanosPerSecond else 0) + nanosOf time.fraction

/-- A time tells an instant: there is such a day and such a clock, and seconds and nanoseconds are the same. -/
structure Tells (time : ToldTime) (instant : Instant) : Prop where
  isDay : isDay time.year time.month time.day = true
  isClock : time.hour < 24 ∧ time.minute < 60 ∧ time.second ≤ 60
  isOffset : time.offset.natAbs < 1440
  elapsed : instant.elapsed = time.elapsed
  nanos : instant.nanos = time.nanos

/-- Times of the same seconds and nanoseconds tell the same instant. -/
theorem Tells.unique {time time' : ToldTime} {instant instant' : Instant} (tells : time.Tells instant)
    (tells' : time'.Tells instant') (elapsed : time.elapsed = time'.elapsed) (nanos : time.nanos = time'.nanos) :
    instant = instant' :=
  Instant.ext_of_elapsed (tells.elapsed.trans (elapsed.trans tells'.elapsed.symm))
    (tells.nanos.trans (nanos.trans tells'.nanos.symm))

/-- **The instant that a time tells is found from its day, its clock and its offset.** -/
theorem tells_iff {time : ToldTime} {instant : Instant} (areDigits : ∀ letter ∈ time.fraction, letter.isDigit = true) :
    time.Tells instant ↔ ∃ date clock, Date.of? time.year time.month time.day = some date ∧
      Instant.ofClock? date time.hour time.minute time.second (nanosOf time.fraction) = some clock ∧
        toUniversal clock time.offset = .ok instant := by
  have inSecond := nanosOf_lt areDigits
  constructor
  · rintro ⟨isDay, isClock, isOffset, elapsed, nanos⟩
    -- The clock shows what is the instant again once it is moved by the offset.
    let date : Date := ⟨time.year, time.month, time.day, isDay⟩
    have found : Date.of? time.year time.month time.day = some date := Date.of?_self date
    obtain ⟨clock, shown⟩ := Instant.exists_ofClock? date isClock inSecond
    obtain ⟨-, elapsed', nanos'⟩ := (Instant.ofClock?_eq_some_iff inSecond).mp shown
    refine ⟨date, clock, found, shown, toUniversal_eq_ok_iff.mpr ⟨isOffset, ?_, nanos.trans nanos'.symm⟩⟩
    rw [elapsed, elapsed']
    rfl
  · rintro ⟨date, clock, found, shown, moved⟩
    obtain ⟨year, month, day⟩ := Date.of?_eq_some_iff.mp found
    obtain ⟨isClock, elapsed, nanos⟩ := (Instant.ofClock?_eq_some_iff inSecond).mp shown
    obtain ⟨isOffset, elapsed', nanos'⟩ := toUniversal_eq_ok_iff.mp moved
    refine ⟨?_, isClock, isOffset, ?_, nanos'.trans nanos⟩
    · rw [← year, ← month, ← day]
      exact date.exists_day
    · rw [elapsed', elapsed, Date.number, year, month, day]
      rfl

end ToldTime

/-! ### The standard form -/

/-- A time in its standard form: numbers of fixed widths, a fraction, and an offset with a colon. -/
inductive IsStandard (time : ToldTime) : List Char → Prop where
  | intro {number : Nat} {separator : Char} {year month day hour minute second fraction zone : List Char}
      (isYear : IsNumber 4 number year) (sameYear : time.year = number) (isMonth : IsNumber 2 time.month month)
      (isDay : IsNumber 2 time.day day) (isSeparator : separator ∈ ['T', 't', ' '])
      (isHour : IsNumber 2 time.hour hour) (isMinute : IsNumber 2 time.minute minute)
      (isSecond : IsNumber 2 time.second second) (isFraction : IsFraction time.fraction fraction)
      (isZone : IsOffset (· = [':']) time.offset zone) :
      IsStandard time (year ++ ('-' :: (month ++ ('-' :: (day ++ (separator :: (hour ++ (':' :: (minute ++
        (':' :: (second ++ (fraction ++ zone))))))))))))

/-- Behind a part that stands at a place comes what is behind it. -/
theorem drop_of_drop_eq_append {text front rest : List Char} {place : Nat} (here : text.drop place = front ++ rest) :
    text.drop (place + front.length) = rest := by
  rw [← List.drop_drop, here, List.drop_left]

/-- Digits that stand at a place are read there. -/
theorem digitsAt_of_drop {text digits rest : List Char} {place width number : Nat}
    (isNumber : IsNumber width number digits) (here : text.drop place = digits ++ rest) :
    digitsAt text place width = .ok number ∧ text.drop (place + width) = rest := by
  obtain ⟨rfl, areDigits, rfl⟩ := isNumber
  refine ⟨?_, drop_of_drop_eq_append here⟩
  unfold digitsAt
  rw [here, List.take_left]
  exact if_pos ⟨rfl, List.all_eq_true.mpr areDigits⟩

/-- What is read at a place are digits that stand there. -/
theorem exists_of_digitsAt {text : List Char} {place width number : Nat}
    (read : digitsAt text place width = .ok number) :
    ∃ digits, IsNumber width number digits ∧ text.drop place = digits ++ text.drop (place + width) := by
  unfold digitsAt at read
  dsimp only at read
  split at read
  · rename_i areDigits
    cases read
    refine ⟨_, ⟨areDigits.1, List.all_eq_true.mp areDigits.2, rfl⟩, ?_⟩
    rw [← List.drop_drop, List.take_append_drop]
  · cases read

/-- One of the letters that stands at a place is seen there. -/
theorem letterAt_of_drop {text letters rest : List Char} {letter : Char} {place : Nat} (isMember : letter ∈ letters)
    (here : text.drop place = letter :: rest) :
    letterAt text place letters = .ok () ∧ text.drop (place + 1) = rest := by
  refine ⟨?_, drop_of_drop_eq_append (here.trans List.singleton_append.symm)⟩
  unfold letterAt
  rw [← List.head?_drop, here]
  exact if_pos (List.contains_iff_mem.mpr isMember)

/-- What is seen at a place is one of the letters, and stands there. -/
theorem exists_of_letterAt {text : List Char} {place : Nat} {letters : List Char}
    (seen : letterAt text place letters = .ok ()) :
    ∃ letter ∈ letters, text.drop place = letter :: text.drop (place + 1) := by
  unfold letterAt at seen
  rw [← List.head?_drop] at seen
  split at seen
  · rename_i letter first
    split at seen
    · rename_i isMember
      obtain ⟨rest, here⟩ := List.head?_eq_some_iff.mp first
      have behind : text.drop (place + [letter].length) = rest := drop_of_drop_eq_append here
      exact ⟨letter, List.contains_iff_mem.mp isMember, here.trans (congrArg _ behind.symm)⟩
    · cases seen
  · cases seen

/-- The separator of hours and minutes in an offset is a colon. -/
theorem takesBetween_scanLetter (expected : Char) : TakesBetween (scanLetter expected) (· = [expected]) where
  sound scanned := ⟨[expected], rfl, scanLetter_eq_ok_iff.mp scanned⟩
  complete isBetween _ := by
    subst isBetween
    exact scanLetter_eq_ok_iff.mpr rfl

theorem length_le_utf8ByteSize (text : String) : text.toList.length ≤ text.utf8ByteSize := by
  have atLeast (letters : List Char) : letters.length ≤ (String.ofList letters).utf8ByteSize := by
    induction letters with
    | nil => exact Nat.zero_le _
    | cons letter rest ih =>
      rw [String.ofList_cons, String.utf8ByteSize_append, String.utf8ByteSize_singleton, List.length_cons, Nat.add_comm]
      exact Nat.add_le_add letter.utf8Size_pos ih
  have := atLeast text.toList
  rwa [String.ofList_toList] at this

/-- What is read as a time in its standard form is one. -/
theorem exists_of_readStrict {text : String} {instant : Instant} (read : readStrict text = .ok instant) :
    ∃ time, IsStandard time text.toList ∧ time.Tells instant := by
  unfold readStrict at read
  dsimp only at read
  split at read
  · cases read
  obtain ⟨year, isYear, read₁⟩ := exists_of_bind_eq_ok read
  obtain ⟨⟨⟩, dash, read₂⟩ := exists_of_bind_eq_ok read₁
  obtain ⟨month, isMonth, read₃⟩ := exists_of_bind_eq_ok read₂
  obtain ⟨⟨⟩, dash', read₄⟩ := exists_of_bind_eq_ok read₃
  obtain ⟨day, isDay, read₅⟩ := exists_of_bind_eq_ok read₄
  split at read₅
  · cases read₅
  rename_i date found
  obtain ⟨⟨⟩, separator, read₆⟩ := exists_of_bind_eq_ok read₅
  obtain ⟨hour, isHour, read₇⟩ := exists_of_bind_eq_ok read₆
  obtain ⟨⟨⟩, colon, read₈⟩ := exists_of_bind_eq_ok read₇
  obtain ⟨minute, isMinute, read₉⟩ := exists_of_bind_eq_ok read₈
  obtain ⟨⟨⟩, colon', read₁₀⟩ := exists_of_bind_eq_ok read₉
  obtain ⟨second, isSecond, read₁₁⟩ := exists_of_bind_eq_ok read₁₀
  obtain ⟨⟨nanos, behind⟩, scanned, read₁₂⟩ := exists_of_bind_eq_ok read₁₁
  dsimp only at read₁₂
  split at read₁₂
  · cases read₁₂
  rename_i clock shown
  obtain ⟨⟨offset, rest⟩, scanned', read₁₃⟩ := exists_of_bind_eq_ok read₁₂
  obtain ⟨universal, moved, read₁₄⟩ := exists_of_bind_eq_ok read₁₃
  split at read₁₄
  rotate_left
  · cases read₁₄
  rename_i isEmpty
  cases read₁₄
  -- The parts stand one behind the other from the start of the text to its end.
  obtain ⟨years, areYears, here⟩ := exists_of_digitsAt isYear
  obtain ⟨_, isDash, here₁⟩ := exists_of_letterAt dash
  obtain ⟨months, areMonths, here₂⟩ := exists_of_digitsAt isMonth
  obtain ⟨_, isDash', here₃⟩ := exists_of_letterAt dash'
  obtain ⟨days, areDays, here₄⟩ := exists_of_digitsAt isDay
  obtain ⟨_, isSeparator, here₅⟩ := exists_of_letterAt separator
  obtain ⟨hours, areHours, here₆⟩ := exists_of_digitsAt isHour
  obtain ⟨_, isColon, here₇⟩ := exists_of_letterAt colon
  obtain ⟨minutes, areMinutes, here₈⟩ := exists_of_digitsAt isMinute
  obtain ⟨_, isColon', here₉⟩ := exists_of_letterAt colon'
  obtain ⟨seconds, areSeconds, here₁₀⟩ := exists_of_digitsAt isSecond
  obtain ⟨digits, fraction, isFraction, here₁₁, rfl⟩ := exists_of_scanNanos scanned
  obtain ⟨zone, isZone, rfl⟩ := (scanOffset_eq_ok_iff (takesBetween_scanLetter ':')).mp scanned'
  cases List.mem_singleton.mp isDash
  cases List.mem_singleton.mp isDash'
  cases List.mem_singleton.mp isColon
  cases List.mem_singleton.mp isColon'
  cases List.isEmpty_iff.mp isEmpty
  rw [List.append_nil] at here₁₁
  rw [List.drop_zero] at here
  refine ⟨⟨year, month, day, hour, minute, second, digits, offset⟩, ?_,
    (ToldTime.tells_iff isFraction.areDigits).mpr ⟨date, clock, found, shown, moved⟩⟩
  rw [here, here₁, here₂, here₃, here₄, here₅, here₆, here₇, here₈, here₉, here₁₀, here₁₁]
  exact .intro areYears rfl areMonths areDays isSeparator areHours areMinutes areSeconds isFraction isZone

/-- A time in its standard form is read as the instant that it tells. -/
theorem readStrict_of_isStandard {text : String} {time : ToldTime} {instant : Instant}
    (standard : IsStandard time text.toList) (tells : time.Tells instant) : readStrict text = .ok instant := by
  have atLeast := length_le_utf8ByteSize text
  unfold readStrict
  generalize text.toList = letters at standard atLeast ⊢
  cases standard with
  | @intro number separator years months days hours minutes seconds fraction zone isYear sameYear isMonth isDay
      isSeparator isHour isMinute isSecond isFraction isZone =>
    generalize whole : years ++ _ = letters at atLeast ⊢
    have long : ¬ text.utf8ByteSize < 19 := by
      have lengths := congrArg List.length whole
      simp only [List.length_append, List.length_cons, isYear.length, isMonth.length, isDay.length, isHour.length,
        isMinute.length, isSecond.length] at lengths
      omega
    obtain ⟨date, clock, found, shown, moved⟩ := (ToldTime.tells_iff isFraction.areDigits).mp tells
    obtain ⟨year, here₁⟩ := digitsAt_of_drop isYear (show letters.drop 0 = _ from whole.symm)
    obtain ⟨dash, here₂⟩ := letterAt_of_drop (List.mem_singleton_self _) here₁
    obtain ⟨month, here₃⟩ := digitsAt_of_drop isMonth here₂
    obtain ⟨dash', here₄⟩ := letterAt_of_drop (List.mem_singleton_self _) here₃
    obtain ⟨day, here₅⟩ := digitsAt_of_drop isDay here₄
    obtain ⟨between, here₆⟩ := letterAt_of_drop isSeparator here₅
    obtain ⟨hour, here₇⟩ := digitsAt_of_drop isHour here₆
    obtain ⟨colon, here₈⟩ := letterAt_of_drop (List.mem_singleton_self _) here₇
    obtain ⟨minute, here₉⟩ := digitsAt_of_drop isMinute here₈
    obtain ⟨colon', here₁₀⟩ := letterAt_of_drop (List.mem_singleton_self _) here₉
    obtain ⟨second, here₁₁⟩ := digitsAt_of_drop isSecond here₁₀
    have scanned : scanNanos (letters.drop 19) = .ok (nanosOf time.fraction, zone) := by
      have starts : ∀ first ∈ ['Z', 'z', '+', '-', '\u2212'], first.isDigit = false ∧ first ≠ '.' := by
        simp only [List.forall_mem_cons, List.not_mem_nil, false_imp_iff, implies_true, and_true]
        decide
      obtain ⟨first, others, rfl, isFirst⟩ := isZone.exists_first
      obtain ⟨noDigit, noPoint⟩ := starts first isFirst
      rw [here₁₁]
      exact scanNanos_append isFraction (by simpa [EndsNumber] using noDigit) (by simpa using noPoint)
    have scanned' : scanOffset (scanLetter ':') zone = .ok (time.offset, []) :=
      (scanOffset_eq_ok_iff (takesBetween_scanLetter ':')).mpr ⟨zone, isZone, (List.append_nil zone).symm⟩
    dsimp only
    rw [if_neg long]
    refine bind_eq_ok year (bind_eq_ok dash (bind_eq_ok month (bind_eq_ok dash' (bind_eq_ok day ?_))))
    rw [← sameYear, found]
    refine bind_eq_ok between (bind_eq_ok hour (bind_eq_ok colon (bind_eq_ok minute (bind_eq_ok colon'
      (bind_eq_ok second (bind_eq_ok scanned ?_))))))
    rw [shown]
    exact bind_eq_ok scanned' (bind_eq_ok moved rfl)

/-- **A text is read as an instant if it is a time in its standard form that tells it.** -/
theorem readStrict_eq_ok_iff {text : String} {instant : Instant} :
    readStrict text = .ok instant ↔ ∃ time, IsStandard time text.toList ∧ time.Tells instant :=
  ⟨exists_of_readStrict, fun ⟨_, standard, tells⟩ => readStrict_of_isStandard standard tells⟩

end SecretSource.Time
