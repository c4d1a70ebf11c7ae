/-
**Times as people write them.**

White space may stand before every part and behind the last, parts may have fewer digits, a year may have a sign and any
number of digits, and an offset is loosely put together. Whoever reads them takes every such time, as the instant that
it tells, and no other text.

* `IsLoose`: what counts as such a time.
* `scanNumber_append`, `scanYear_append`, `scanPart_append`, `scanZone_append`: what the scanners take.
* `readLenient_eq_ok_iff`: the texts that are read, and the instants that they are read as.
-/

import SecretSource.Proofs.Time.Telling
import SecretSource.Time.Lenient

namespace SecretSource.Time

open SecretSource.Unicode (isBlank trimBlankStart)

/-! ### White space -/

/-- A text holds nothing but white space. -/
def AreBlank (blanks : List Char) : Prop := ∀ letter ∈ blanks, isBlank letter = true

theorem areBlank_nil : AreBlank [] := List.forall_mem_nil _

theorem exists_blanks (text : List Char) : ∃ blanks, AreBlank blanks ∧ text = blanks ++ trimBlankStart text :=
  ⟨text.takeWhile isBlank, List.all_eq_true.mp List.all_takeWhile, List.takeWhile_append_dropWhile.symm⟩

theorem trimBlankStart_append {blanks rest : List Char} (areBlank : AreBlank blanks)
    (stops : ∀ letter ∈ rest.head?, isBlank letter = false) : trimBlankStart (blanks ++ rest) = rest :=
  Text.dropWhile_append_of_stops areBlank stops

theorem isBlank_eq_false_of_isDigit {letter : Char} (isDigit : letter.isDigit = true) : isBlank letter = false := by
  simp only [Char.isDigit, Bool.and_eq_true, decide_eq_true_eq, ge_iff_le, UInt32.le_iff_toNat_le] at isDigit
  have bounds : 48 ≤ letter.toNat ∧ letter.toNat ≤ 57 := isDigit
  unfold isBlank
  dsimp only
  simp only [Bool.or_eq_false_iff, Bool.and_eq_false_iff, decide_eq_false_iff_not, beq_eq_false_iff_ne]
  omega

/-- White space ends a number. -/
theorem AreBlank.endsNumber {blanks rest : List Char} (areBlank : AreBlank blanks) (ends : EndsNumber rest) :
    EndsNumber (blanks ++ rest) := by
  cases blanks with
  | nil => exact ends
  | cons first others =>
    rintro _ ⟨⟩
    refine Bool.eq_false_iff.mpr fun isDigit => ?_
    cases (areBlank first List.mem_cons_self).symm.trans (isBlank_eq_false_of_isDigit isDigit)

/-- A character that is seen does not come first behind white space unless it stands there. -/
theorem AreBlank.head?_ne {blanks rest : List Char} {letter first : Char} (areBlank : AreBlank blanks)
    (visible : isBlank letter = false) (other : first ≠ letter) :
    (blanks ++ first :: rest).head? ≠ some letter := by
  cases blanks with
  | nil => exact fun same => other (Option.some.inj same)
  | cons blank others =>
    rintro ⟨⟩
    cases (areBlank _ List.mem_cons_self).symm.trans visible

/-- There is no white space in a fraction. -/
theorem IsFraction.visible {digits text : List Char} (isFraction : IsFraction digits text) :
    ∀ letter ∈ text, isBlank letter = false := by
  cases isFraction with
  | none => nofun
  | some _ areDigits =>
    exact List.forall_mem_cons.mpr
      ⟨by decide, fun letter member => isBlank_eq_false_of_isDigit (areDigits letter member)⟩

/-! ### Numbers and marks -/

/-- A number is taken if it has not too many digits. -/
theorem scanNumber_append {most : Nat} {digits rest : List Char} (someDigit : digits ≠ [])
    (areDigits : ∀ letter ∈ digits, letter.isDigit = true) (atMost : digits.length ≤ most) (ends : EndsNumber rest) :
    scanNumber most (digits ++ rest) = .ok (numberOf digits, rest) := by
  have taken : ((digits ++ rest).take most).takeWhile Char.isDigit = digits := by
    rw [← List.take_takeWhile, Text.takeWhile_append_of_stops areDigits ends, List.take_of_length_le atMost]
  have left : (digits ++ rest).drop digits.length = rest := List.drop_left
  obtain ⟨first, others, rfl⟩ := List.exists_cons_of_ne_nil someDigit
  rw [List.cons_append] at taken left ⊢
  show (if first.isDigit = true then _ else _) = _
  rw [if_pos (areDigits first List.mem_cons_self), taken, left]

/-- What is taken as a number are digits. -/
theorem exists_of_scanNumber {most number : Nat} {text rest : List Char}
    (scanned : scanNumber most text = .ok (number, rest)) (some : text ≠ [] → 0 < most) :
    ∃ digits, digits ≠ [] ∧ (∀ letter ∈ digits, letter.isDigit = true) ∧ digits.length ≤ most ∧
      numberOf digits = number ∧ text = digits ++ rest := by
  unfold scanNumber at scanned
  split at scanned
  · cases scanned
  · rename_i first others
    split at scanned
    · rename_i isDigit
      cases scanned
      obtain ⟨most, rfl⟩ := Nat.exists_eq_add_of_le' (some (List.cons_ne_nil first others))
      refine ⟨_, ?_, List.all_eq_true.mp List.all_takeWhile, ?_, rfl, ?_⟩
      · rw [List.take_succ_cons, List.takeWhile_cons_of_pos isDigit]
        exact List.cons_ne_nil _ _
      · exact Nat.le_trans (List.takeWhile_prefix _).length_le (List.length_take_le _ _)
      · exact (List.prefix_iff_eq_append.mp ((List.takeWhile_prefix _).trans (List.take_prefix _ _))).symm
    · cases scanned

/-- A number of at most so many digits behind white space. -/
inductive IsPart (most number : Nat) : List Char → Prop where
  | intro {blanks digits : List Char} (areBlank : AreBlank blanks) (someDigit : digits ≠ [])
      (areDigits : ∀ letter ∈ digits, letter.isDigit = true) (atMost : digits.length ≤ most)
      (same : numberOf digits = number) : IsPart most number (blanks ++ digits)

theorem isPart_of_digits {most number : Nat} {digits : List Char} (someDigit : digits ≠ [])
    (areDigits : ∀ letter ∈ digits, letter.isDigit = true) (atMost : digits.length ≤ most)
    (same : numberOf digits = number) : IsPart most number digits :=
  .intro areBlank_nil someDigit areDigits atMost same

/-- A digit is no white space. -/
theorem stops_of_areDigits {digits : List Char} (someDigit : digits ≠ [])
    (areDigits : ∀ letter ∈ digits, letter.isDigit = true) (rest : List Char) :
    ∀ letter ∈ (digits ++ rest).head?, isBlank letter = false := by
  obtain ⟨first, others, rfl⟩ := List.exists_cons_of_ne_nil someDigit
  rintro _ ⟨⟩
  exact isBlank_eq_false_of_isDigit (areDigits first List.mem_cons_self)

theorem scanPart_append {most lowest highest number : Nat} {front rest : List Char} (isPart : IsPart most number front)
    (within : lowest ≤ number ∧ number ≤ highest) (ends : EndsNumber rest) :
    scanPart most lowest highest (front ++ rest) = .ok (number, rest) := by
  obtain ⟨areBlank, someDigit, areDigits, atMost, rfl⟩ := isPart
  unfold scanPart
  rw [List.append_assoc, trimBlankStart_append areBlank (stops_of_areDigits someDigit areDigits rest)]
  exact bind_eq_ok (scanNumber_append someDigit areDigits atMost ends) (if_pos within)

theorem exists_of_scanPart {most lowest highest number : Nat} {text rest : List Char}
    (scanned : scanPart most lowest highest text = .ok (number, rest)) (some : 0 < most) :
    ∃ front, IsPart most number front ∧ text = front ++ rest := by
  obtain ⟨⟨_, _⟩, taken, checked⟩ := exists_of_bind_eq_ok scanned
  dsimp only at checked
  split at checked
  · cases checked
    obtain ⟨blanks, areBlank, whole⟩ := exists_blanks text
    obtain ⟨digits, someDigit, areDigits, atMost, same, behind⟩ := exists_of_scanNumber taken fun _ => some
    refine ⟨blanks ++ digits, .intro areBlank someDigit areDigits atMost same, ?_⟩
    rw [List.append_assoc, ← behind]
    exact whole
  · cases checked

/-- A character behind white space. -/
inductive IsMark (expected : Char) : List Char → Prop where
  | intro {blanks : List Char} (areBlank : AreBlank blanks) : IsMark expected (blanks ++ [expected])

theorem scanMark_append {expected : Char} {front rest : List Char} (isMark : IsMark expected front)
    (visible : isBlank expected = false) : scanMark expected (front ++ rest) = .ok ((), rest) := by
  obtain ⟨areBlank⟩ := isMark
  unfold scanMark
  rw [List.append_assoc, trimBlankStart_append areBlank (by simpa using visible)]
  exact scanLetter_eq_ok_iff.mpr rfl

theorem exists_of_scanMark {expected : Char} {text rest : List Char}
    (scanned : scanMark expected text = .ok ((), rest)) :
    ∃ front, IsMark expected front ∧ text = front ++ rest := by
  obtain ⟨blanks, areBlank, whole⟩ := exists_blanks text
  rw [scanLetter_eq_ok_iff.mp scanned] at whole
  exact ⟨_, .intro areBlank, by simpa using whole⟩

/-- A mark that is no digit ends a number. -/
theorem IsMark.endsNumber {expected : Char} {front : List Char} (isMark : IsMark expected front)
    (noDigit : expected.isDigit = false) (rest : List Char) : EndsNumber (front ++ rest) := by
  obtain ⟨areBlank⟩ := isMark
  rw [List.append_assoc]
  exact areBlank.endsNumber (by simpa [EndsNumber] using noDigit)

/-- The separator of date and time is one letter. -/
theorem exists_of_scanSeparator {text rest : List Char} (scanned : scanSeparator text = .ok ((), rest)) :
    ∃ separator, (separator = 'T' ∨ separator = 't' ∨ separator = ' ') ∧ text = separator :: rest := by
  unfold scanSeparator at scanned
  split at scanned
  · cases scanned
  · split at scanned
    · rename_i letter _ isSeparator
      cases scanned
      exact ⟨letter, isSeparator, rfl⟩
    · cases scanned

/-! ### Years -/

/-- A year behind white space: up to four digits, or a sign and digits. -/
inductive IsYear : Int → List Char → Prop where
  | plain {year : Nat} {text : List Char} (isPart : IsPart 4 year text) : IsYear year text
  | signed {sign : Int} {letter : Char} {blanks digits : List Char} (areBlank : AreBlank blanks)
      (isSign : sign = 1 ∧ letter = '+' ∨ sign = -1 ∧ letter = '-') (someDigit : digits ≠ [])
      (areDigits : ∀ letter ∈ digits, letter.isDigit = true) :
      IsYear (sign * numberOf digits) (blanks ++ letter :: digits)

theorem scanYear_append {year : Int} {front rest : List Char} (isYear : IsYear year front)
    (within : -2147483648 ≤ year ∧ year ≤ 2147483647) (ends : EndsNumber rest) :
    scanYear (front ++ rest) = .ok (year, rest) := by
  unfold scanYear
  cases isYear with
  | plain isPart =>
    obtain ⟨areBlank, someDigit, areDigits, atMost, rfl⟩ := isPart
    have taken := scanNumber_append someDigit areDigits atMost ends
    rw [List.append_assoc, trimBlankStart_append areBlank (stops_of_areDigits someDigit areDigits rest)]
    obtain ⟨first, others, rfl⟩ := List.exists_cons_of_ne_nil someDigit
    have isDigit := areDigits first List.mem_cons_self
    dsimp only
    split
    · rename_i same
      cases (List.cons.inj same).1
      cases isDigit
    · rename_i same
      cases (List.cons.inj same).1
      cases isDigit
    · exact bind_eq_ok taken rfl
  | signed areBlank isSign someDigit areDigits =>
    have atMost {digits : List Char} : digits.length ≤ (digits ++ rest).length := by
      rw [List.length_append]
      exact Nat.le_add_right _ _
    have taken := scanNumber_append someDigit areDigits atMost ends
    rw [List.append_assoc, List.cons_append]
    rcases isSign with ⟨rfl, rfl⟩ | ⟨rfl, rfl⟩
    · rw [trimBlankStart_append areBlank (by simp; decide)]
      exact bind_eq_ok taken (if_pos within)
    · rw [trimBlankStart_append areBlank (by simp; decide)]
      exact bind_eq_ok taken (if_pos within)

theorem exists_of_scanYear {year : Int} {text rest : List Char} (scanned : scanYear text = .ok (year, rest)) :
    ∃ front, IsYear year front ∧ text = front ++ rest := by
  obtain ⟨blanks, areBlank, whole⟩ := exists_blanks text
  have signed {sign : Int} {letter : Char} {behind : List Char} (here : trimBlankStart text = letter :: behind)
      (isSign : sign = 1 ∧ letter = '+' ∨ sign = -1 ∧ letter = '-')
      (scanned : (scanNumber behind.length behind >>= fun taken =>
        if -2147483648 ≤ sign * (taken.1 : Int) ∧ sign * (taken.1 : Int) ≤ 2147483647 then
          .ok (sign * (taken.1 : Int), taken.2) else .error .outOfRange) = .ok (year, rest)) :
      ∃ front, IsYear year front ∧ text = front ++ rest := by
    obtain ⟨⟨number, left⟩, taken, checked⟩ := exists_of_bind_eq_ok scanned
    dsimp only at checked
    split at checked
    · cases checked
      obtain ⟨digits, someDigit, areDigits, -, rfl, rfl⟩ := exists_of_scanNumber taken List.length_pos_iff.mpr
      exact ⟨_, .signed areBlank isSign someDigit areDigits, by rw [whole, here]; simp⟩
    · cases checked
  unfold scanYear at scanned
  dsimp only at scanned
  split at scanned
  · rename_i here
    exact signed here (Or.inr ⟨rfl, rfl⟩) scanned
  · rename_i here
    exact signed here (Or.inl ⟨rfl, rfl⟩) scanned
  · obtain ⟨⟨number, left⟩, taken, done⟩ := exists_of_bind_eq_ok scanned
    cases done
    obtain ⟨digits, someDigit, areDigits, atMost, same, here⟩ := exists_of_scanNumber taken fun _ => by decide
    refine ⟨blanks ++ digits, .plain (.intro areBlank someDigit areDigits atMost same), ?_⟩
    rw [List.append_assoc, ← here]
    exact whole

/-! ### Zones -/

/-- Colons and white space stand between the hours and minutes of an offset. -/
def AreColons (between : List Char) : Prop := ∀ letter ∈ between, (letter == ':' || isBlank letter) = true

theorem takesBetween_scanColons : TakesBetween scanColons AreColons where
  sound := by
    intro text rest scanned
    cases scanned
    exact ⟨_, List.all_eq_true.mp List.all_takeWhile, List.takeWhile_append_dropWhile.symm⟩
  complete := by
    intro front rest digit areColons isDigit
    have noColon : (digit == ':') = false := by
      refine beq_eq_false_iff_ne.mpr ?_
      rintro rfl
      cases isDigit
    have stops : ∀ letter ∈ (digit :: rest).head?, (letter == ':' || isBlank letter) = false := by
      rintro _ ⟨⟩
      rw [noColon, isBlank_eq_false_of_isDigit isDigit]
      rfl
    exact congrArg (fun left => Except.ok ((), left)) (Text.dropWhile_append_of_stops areColons stops)

/-- A zone: the name of universal time, or an offset. -/
inductive IsZone : Int → List Char → Prop where
  | named {first second third : Char} (isName : [first.toUpper, second.toUpper, third.toUpper] = ['U', 'T', 'C']) :
      IsZone 0 [first, second, third]
  | offset {minutes : Int} {text : List Char} (isOffset : IsOffset AreColons minutes text) : IsZone minutes text

/-- The letter U, in either case. -/
theorem eq_of_toUpper {letter : Char} (isUpper : letter.toUpper = 'U') : letter = 'U' ∨ letter = 'u' := by
  unfold Char.toUpper at isUpper
  split at isUpper
  · rename_i isLower
    refine Or.inr (Char.ext (UInt32.toNat_inj.mp ?_))
    have value := congrArg (fun upper : Char => upper.val.toNat) isUpper
    have bounds : 97 ≤ letter.val.toNat ∧ letter.val.toNat ≤ 122 := isLower
    rw [UInt32.toNat_add] at value
    show letter.val.toNat = 117
    change (letter.val.toNat + 4294967264) % 4294967296 = 85 at value
    omega
  · exact Or.inl isUpper

/-- A zone starts with a letter or a sign. -/
theorem IsZone.exists_first {minutes : Int} {text : List Char} (isZone : IsZone minutes text) :
    ∃ first others, text = first :: others ∧ first ∈ ['U', 'u', 'Z', 'z', '+', '-', '\u2212'] := by
  cases isZone with
  | named isName => exact ⟨_, _, rfl, by rcases eq_of_toUpper (List.cons.inj isName).1 with rfl | rfl <;> decide⟩
  | offset isOffset =>
    obtain ⟨first, others, same, isFirst⟩ := isOffset.exists_first
    exact ⟨first, others, same, List.mem_cons_of_mem _ (List.mem_cons_of_mem _ isFirst)⟩

theorem scanZone_append {minutes : Int} {front rest : List Char} (isZone : IsZone minutes front) :
    scanZone (front ++ rest) = .ok (minutes, rest) := by
  cases isZone with
  | named isName => exact if_pos isName
  | offset isOffset =>
    have taken : scanOffset scanColons (front ++ rest) = .ok (minutes, rest) :=
      (scanOffset_eq_ok_iff takesBetween_scanColons).mpr ⟨front, isOffset, rfl⟩
    have other : ∀ first ∈ ['Z', 'z', '+', '-', '\u2212'], first.toUpper ≠ 'U' := by
      simp only [List.forall_mem_cons, List.not_mem_nil, false_imp_iff, implies_true, and_true]
      decide
    obtain ⟨first, others, rfl, isFirst⟩ := isOffset.exists_first
    unfold scanZone
    split
    · rename_i _ second third behind same
      cases (List.cons.inj same).1
      rw [if_neg fun isName => other first isFirst (List.cons.inj isName).1, ← same]
      exact taken
    · exact taken

theorem exists_of_scanZone {minutes : Int} {text rest : List Char} (scanned : scanZone text = .ok (minutes, rest)) :
    ∃ front, IsZone minutes front ∧ text = front ++ rest := by
  have offset (scanned : scanOffset scanColons text = .ok (minutes, rest)) :
      ∃ front, IsZone minutes front ∧ text = front ++ rest := by
    obtain ⟨front, isOffset, whole⟩ := (scanOffset_eq_ok_iff takesBetween_scanColons).mp scanned
    exact ⟨front, .offset isOffset, whole⟩
  unfold scanZone at scanned
  split at scanned
  · split at scanned
    · rename_i isName
      cases scanned
      exact ⟨_, .named isName, rfl⟩
    · exact offset scanned
  · exact offset scanned

/-! ### Times -/

/-- A time as people write it. -/
inductive IsLoose (time : ToldTime) : List Char → Prop where
  | intro {separator : Char} {year dash month dash' day hour colon minute colon' second fraction blanks zone
      blanks' : List Char} (isYear : IsYear time.year year) (isDash : IsMark '-' dash)
      (isMonth : IsPart 2 time.month month) (isDash' : IsMark '-' dash') (isDay : IsPart 2 time.day day)
      (isSeparator : separator = 'T' ∨ separator = 't' ∨ separator = ' ') (isHour : IsPart 2 time.hour hour)
      (isColon : IsMark ':' colon) (isMinute : IsPart 2 time.minute minute) (isColon' : IsMark ':' colon')
      (isSecond : IsPart 2 time.second second) (isFraction : IsFraction time.fraction fraction)
      (areBlank : AreBlank blanks) (isZone : IsZone time.offset zone) (areBlank' : AreBlank blanks') :
      IsLoose time (year ++ (dash ++ (month ++ (dash' ++ (day ++ (separator :: (hour ++ (colon ++ (minute ++
        (colon' ++ (second ++ (fraction ++ (blanks ++ (zone ++ blanks'))))))))))))))

/-- What is read as a time that people write is one. -/
theorem exists_of_readLenient {text : String} {instant : Instant} (read : readLenient text = .ok instant) :
    ∃ time, IsLoose time text.toList ∧ time.Tells instant := by
  unfold readLenient at read
  obtain ⟨⟨year, text₁⟩, scannedYear, read₁⟩ := exists_of_bind_eq_ok read
  obtain ⟨⟨⟨⟩, text₂⟩, scannedDash, read₂⟩ := exists_of_bind_eq_ok read₁
  obtain ⟨⟨month, text₃⟩, scannedMonth, read₃⟩ := exists_of_bind_eq_ok read₂
  obtain ⟨⟨⟨⟩, text₄⟩, scannedDash', read₄⟩ := exists_of_bind_eq_ok read₃
  obtain ⟨⟨day, text₅⟩, scannedDay, read₅⟩ := exists_of_bind_eq_ok read₄
  obtain ⟨⟨⟨⟩, text₆⟩, scannedSeparator, read₆⟩ := exists_of_bind_eq_ok read₅
  obtain ⟨⟨hour, text₇⟩, scannedHour, read₇⟩ := exists_of_bind_eq_ok read₆
  obtain ⟨⟨⟨⟩, text₈⟩, scannedColon, read₈⟩ := exists_of_bind_eq_ok read₇
  obtain ⟨⟨minute, text₉⟩, scannedMinute, read₉⟩ := exists_of_bind_eq_ok read₈
  obtain ⟨⟨⟨⟩, text₁₀⟩, scannedColon', read₁₀⟩ := exists_of_bind_eq_ok read₉
  obtain ⟨⟨second, text₁₁⟩, scannedSecond, read₁₁⟩ := exists_of_bind_eq_ok read₁₀
  obtain ⟨⟨nanos, text₁₂⟩, scannedNanos, read₁₂⟩ := exists_of_bind_eq_ok read₁₁
  obtain ⟨⟨offset, text₁₃⟩, scannedZone, read₁₃⟩ := exists_of_bind_eq_ok read₁₂
  dsimp only at read₁₃
  split at read₁₃
  rotate_left
  · cases read₁₃
  rename_i allBlank
  split at read₁₃
  · cases read₁₃
  rename_i date found
  split at read₁₃
  · cases read₁₃
  rename_i clock shown
  -- The parts stand one behind the other from the start of the text to its end.
  obtain ⟨years, isYear, whole⟩ := exists_of_scanYear scannedYear
  obtain ⟨dash, isDash, rfl⟩ := exists_of_scanMark scannedDash
  obtain ⟨months, isMonth, rfl⟩ := exists_of_scanPart scannedMonth (by decide)
  obtain ⟨dash', isDash', rfl⟩ := exists_of_scanMark scannedDash'
  obtain ⟨days, isDay, rfl⟩ := exists_of_scanPart scannedDay (by decide)
  obtain ⟨separator, isSeparator, rfl⟩ := exists_of_scanSeparator scannedSeparator
  obtain ⟨hours, isHour, rfl⟩ := exists_of_scanPart scannedHour (by decide)
  obtain ⟨colon, isColon, rfl⟩ := exists_of_scanMark scannedColon
  obtain ⟨minutes, isMinute, rfl⟩ := exists_of_scanPart scannedMinute (by decide)
  obtain ⟨colon', isColon', rfl⟩ := exists_of_scanMark scannedColon'
  obtain ⟨seconds, isSecond, rfl⟩ := exists_of_scanPart scannedSecond (by decide)
  obtain ⟨digits, fraction, isFraction, rfl, rfl⟩ := exists_of_scanNanos scannedNanos
  obtain ⟨blanks, areBlank, behind⟩ := exists_blanks text₁₂
  obtain ⟨zone, isZone, here⟩ := exists_of_scanZone scannedZone
  rw [here] at behind
  subst behind
  refine ⟨⟨year, month, day, hour, minute, second, digits, offset⟩, ?_,
    (ToldTime.tells_iff isFraction.areDigits).mpr ⟨date, clock, found, shown, read₁₃⟩⟩
  rw [whole]
  exact .intro isYear isDash isMonth isDash' isDay isSeparator isHour isColon isMinute isColon' isSecond isFraction
    areBlank isZone (List.all_eq_true.mp allBlank)

/-- A time that people write is read as the instant that it tells. -/
theorem readLenient_of_isLoose {text : String} {time : ToldTime} {instant : Instant}
    (loose : IsLoose time text.toList) (tells : time.Tells instant) : readLenient text = .ok instant := by
  unfold readLenient
  generalize text.toList = letters at loose
  cases loose with
  | @intro separator years dash months dash' days hours colon minutes colon' seconds fraction blanks zone blanks' isYear
      isDash isMonth isDash' isDay isSeparator isHour isColon isMinute isColon' isSecond isFraction areBlank isZone
      areBlank' =>
    obtain ⟨date, clock, found, shown, moved⟩ := (ToldTime.tells_iff isFraction.areDigits).mp tells
    obtain ⟨firstYear, lastYear, firstMonth, lastMonth, firstDay, lastDay⟩ := isDay_iff.mp tells.isDay
    obtain ⟨hour, minute, second⟩ := tells.isClock
    have perMonth := daysIn_le time.year time.month
    have inYears : -262143 ≤ time.year ∧ time.year ≤ 262142 := ⟨firstYear, lastYear⟩
    have starts : ∀ first ∈ ['U', 'u', 'Z', 'z', '+', '-', '\u2212'],
        first.isDigit = false ∧ first ≠ '.' ∧ isBlank first = false := by
      simp only [List.forall_mem_cons, List.not_mem_nil, false_imp_iff, implies_true, and_true]
      decide
    have zoneTaken : scanZone (zone ++ blanks') = .ok (time.offset, blanks') := scanZone_append isZone
    obtain ⟨first, others, rfl, isFirst⟩ := isZone.exists_first
    obtain ⟨noDigit, noPoint, visible⟩ := starts first isFirst
    have trimmed : trimBlankStart (blanks ++ (first :: others ++ blanks')) = first :: others ++ blanks' :=
      trimBlankStart_append areBlank (by simpa using visible)
    have ends : EndsNumber (blanks ++ (first :: others ++ blanks')) :=
      areBlank.endsNumber (by simpa [EndsNumber] using noDigit)
    have noPoint' : (blanks ++ (first :: others ++ blanks')).head? ≠ some '.' := areBlank.head?_ne (by decide) noPoint
    have ends' := isFraction.endsNumber ends
    have separatorEnds (rest : List Char) : EndsNumber (separator :: rest) := by
      rcases isSeparator with rfl | rfl | rfl <;> simp [EndsNumber]
    refine bind_eq_ok (scanYear_append isYear (by omega) (isDash.endsNumber rfl _)) ?_
    refine bind_eq_ok (scanMark_append isDash (by decide)) ?_
    refine bind_eq_ok (scanPart_append isMonth ⟨firstMonth, lastMonth⟩ (isDash'.endsNumber rfl _)) ?_
    refine bind_eq_ok (scanMark_append isDash' (by decide)) ?_
    refine bind_eq_ok (scanPart_append isDay ⟨firstDay, by omega⟩ (separatorEnds _)) ?_
    refine bind_eq_ok (if_pos isSeparator) ?_
    refine bind_eq_ok (scanPart_append isHour ⟨Nat.zero_le _, by omega⟩ (isColon.endsNumber rfl _)) ?_
    refine bind_eq_ok (scanMark_append isColon (by decide)) ?_
    refine bind_eq_ok (scanPart_append isMinute ⟨Nat.zero_le _, by omega⟩ (isColon'.endsNumber rfl _)) ?_
    refine bind_eq_ok (scanMark_append isColon' (by decide)) ?_
    refine bind_eq_ok (scanPart_append isSecond ⟨Nat.zero_le _, second⟩ ends') ?_
    refine bind_eq_ok (scanNanos_append isFraction ends noPoint') ?_
    dsimp only
    rw [trimmed]
    refine bind_eq_ok zoneTaken ?_
    dsimp only
    rw [if_pos (List.all_eq_true.mpr areBlank'), found]
    dsimp only
    rw [shown]
    exact moved

/-- **A text is read as an instant if it is a time as people write it that tells it.** -/
theorem readLenient_eq_ok_iff {text : String} {instant : Instant} :
    readLenient text = .ok instant ↔ ∃ time, IsLoose time text.toList ∧ time.Tells instant :=
  ⟨exists_of_readLenient, fun ⟨_, loose, tells⟩ => readLenient_of_isLoose loose tells⟩

end SecretSource.Time
