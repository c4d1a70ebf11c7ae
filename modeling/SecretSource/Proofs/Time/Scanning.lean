/-
**What the scanners of times take.**

A scanner that takes something takes a part of the text that spells it, and leaves the rest. What is said here of
numbers, fractions and offsets is common to both readers of times.

* `IsNumber`, `isNumber_iff`, `isNumber_padded`: digits that write a number, which can be decided, and the digits that
  are written for one.
* `IsFraction`, `nanosOf`: the digits of a fraction, and how many full nanoseconds they are.
* `IsOffset`: how an offset is spelled.
* `scanPair_eq_ok_iff`, `scanNanos_append`, `scanOffset_eq_ok_iff`: what the scanners take.
-/

import SecretSource.Proofs.Except
import SecretSource.Proofs.Text.Cutting
import SecretSource.Time.Scan

namespace SecretSource.Time

open Instant (padded)

/-! ### Numbers -/

theorem numberOf_append (front behind : List Char) :
    numberOf (front ++ behind) = Nat.pow 10 behind.length * numberOf front + numberOf behind := by
  show Nat.ofDigitChars 10 (front ++ behind) 0 = _ * Nat.ofDigitChars 10 front 0 + Nat.ofDigitChars 10 behind 0
  rw [Nat.ofDigitChars_append, Nat.ofDigitChars_eq_ofDigitChars_zero]
  rfl

/-- A number is below the power of ten of its digits. -/
theorem numberOf_lt {digits : List Char} (areDigits : ∀ letter ∈ digits, letter.isDigit = true) :
    numberOf digits < Nat.pow 10 digits.length := by
  induction digits with
  | nil => exact Nat.one_pos
  | cons letter rest ih =>
    have behind := ih fun letter member => areDigits letter (List.mem_cons_of_mem _ member)
    have first : letter.toNat - 48 ≤ 9 := by
      have isDigit := areDigits letter List.mem_cons_self
      simp only [Char.isDigit, Bool.and_eq_true, decide_eq_true_eq, UInt32.le_iff_toNat_le] at isDigit
      show letter.val.toNat - 48 ≤ 9
      have upper : letter.val.toNat ≤ 57 := isDigit.2
      omega
    have single : numberOf [letter] = letter.toNat - 48 := by simp [numberOf]
    have tenfold : Nat.pow 10 (letter :: rest).length = 10 * Nat.pow 10 rest.length := Nat.mul_comm _ _
    rw [tenfold, ← List.singleton_append, numberOf_append, single]
    have atMost := Nat.mul_le_mul_left (Nat.pow 10 rest.length) first
    omega

/-- A text of so many digits that write a number. -/
structure IsNumber (width number : Nat) (text : List Char) : Prop where
  length : text.length = width
  areDigits : ∀ letter ∈ text, letter.isDigit = true
  number : numberOf text = number

theorem isNumber_iff {width number : Nat} {text : List Char} :
    IsNumber width number text ↔ text.length = width ∧ text.all Char.isDigit = true ∧ numberOf text = number := by
  rw [List.all_eq_true]
  exact ⟨fun ⟨length, areDigits, same⟩ => ⟨length, areDigits, same⟩,
    fun ⟨length, areDigits, same⟩ => ⟨length, areDigits, same⟩⟩

instance (width number : Nat) (text : List Char) : Decidable (IsNumber width number text) :=
  decidable_of_iff _ isNumber_iff.symm

theorem padded_areDigits (width number : Nat) : ∀ letter ∈ padded width number, letter.isDigit = true := by
  intro letter member
  rcases List.mem_append.mp member with zero | digit
  · rw [List.eq_of_mem_replicate zero]
    rfl
  · exact Nat.isDigit_of_mem_toDigits (by decide) (by decide) digit

theorem numberOf_padded (width number : Nat) : numberOf (padded width number) = number := by
  have zeros (count : Nat) : numberOf (List.replicate count '0') = 0 := by
    induction count with
    | zero => rfl
    | succ count ih => exact ih
  have digits : numberOf (Nat.toDigits 10 number) = number := Nat.ofDigitChars_toDigits (by decide) (by decide)
  unfold padded
  dsimp only
  rw [numberOf_append, zeros, digits, Nat.mul_zero, Nat.zero_add]

/-- A number that fits is written with so many digits. -/
theorem isNumber_padded {width number : Nat} (someWidth : 0 < width) (fits : number < Nat.pow 10 width) :
    IsNumber width number (padded width number) where
  length := by
    have short := (Nat.length_toDigits_le_iff (by decide) someWidth).mpr fits
    unfold padded
    dsimp only
    rw [List.length_append, List.length_replicate]
    omega
  areDigits := padded_areDigits width number
  number := numberOf_padded width number

/-- What follows a number is no digit. -/
def EndsNumber (rest : List Char) : Prop := ∀ letter ∈ rest.head?, letter.isDigit = false

theorem IsNumber.two {number : Nat} {text : List Char} (isNumber : IsNumber 2 number text) :
    ∃ first second, text = [first, second] ∧ first.isDigit = true ∧ second.isDigit = true ∧
      numberOf [first, second] = number := by
  obtain ⟨length, areDigits, same⟩ := isNumber
  match text, length with
  | [first, second], _ => exact ⟨first, second, rfl, areDigits _ (by simp), areDigits _ (by simp), same⟩

/-- Two digits are taken if two stand there. -/
theorem scanPair_eq_ok_iff {text rest : List Char} {number : Nat} :
    scanPair text = .ok (number, rest) ↔ ∃ digits, IsNumber 2 number digits ∧ text = digits ++ rest := by
  constructor
  · intro scanned
    unfold scanPair at scanned
    split at scanned
    · cases scanned
    · cases scanned
    · rename_i first second behind
      split at scanned
      · rename_i areDigits
        cases scanned
        exact ⟨[first, second], ⟨rfl, by simp [areDigits], rfl⟩, rfl⟩
      · cases scanned
  · rintro ⟨digits, isNumber, rfl⟩
    obtain ⟨first, second, rfl, isDigit, isDigit', rfl⟩ := isNumber.two
    exact if_pos ⟨isDigit, isDigit'⟩

theorem scanLetter_eq_ok_iff {expected : Char} {text rest : List Char} :
    scanLetter expected text = .ok ((), rest) ↔ text = expected :: rest := by
  cases text with
  | nil => simp [scanLetter]
  | cons letter others =>
    unfold scanLetter
    by_cases same : letter = expected
    · simp [same]
    · simp [same]

/-! ### Fractions -/

/-- How many full nanoseconds the digits of a fraction of a second are. -/
def nanosOf (digits : List Char) : Nat := numberOf digits * nanosPerSecond / Nat.pow 10 digits.length

/-- The digits of a fraction, if there is one, behind a point. -/
inductive IsFraction : List Char → List Char → Prop where
  | none : IsFraction [] []
  | some {digits : List Char} (someDigit : digits ≠ []) (areDigits : ∀ letter ∈ digits, letter.isDigit = true) :
      IsFraction digits ('.' :: digits)

theorem pow_ten_pos (count : Nat) : 0 < Nat.pow 10 count := Nat.pow_pos (by decide)

theorem nanosOf_lt {digits : List Char} (areDigits : ∀ letter ∈ digits, letter.isDigit = true) :
    nanosOf digits < nanosPerSecond := by
  unfold nanosOf
  rw [Nat.div_lt_iff_lt_mul (pow_ten_pos _), Nat.mul_comm nanosPerSecond]
  exact Nat.mul_lt_mul_of_pos_right (numberOf_lt areDigits) (by decide)

/-- Digits behind the ninth do not count. -/
theorem nanosOf_eq {digits : List Char} (areDigits : ∀ letter ∈ digits, letter.isDigit = true) :
    numberOf (digits.take 9) * Nat.pow 10 (9 - (digits.take 9).length) = nanosOf digits := by
  have behindDigits : ∀ letter ∈ digits.drop 9, letter.isDigit = true :=
    fun letter member => areDigits letter (List.mem_of_mem_drop member)
  have small := numberOf_lt behindDigits
  have splits (first second : Nat) : Nat.pow 10 (first + second) = Nat.pow 10 first * Nat.pow 10 second :=
    Nat.pow_add 10 first second
  have perSecond : nanosPerSecond = Nat.pow 10 9 := rfl
  unfold nanosOf
  rw [perSecond]
  rcases Nat.le_total digits.length 9 with short | long
  · have whole : Nat.pow 10 9 = Nat.pow 10 (9 - digits.length) * Nat.pow 10 digits.length := by
      rw [← splits, Nat.sub_add_cancel short]
    rw [List.take_of_length_le short, whole, ← Nat.mul_assoc, Nat.mul_div_cancel _ (pow_ten_pos _)]
  · have cut : digits.length = (digits.drop 9).length + 9 := by
      rw [List.length_drop]
      omega
    have number := numberOf_append (digits.take 9) (digits.drop 9)
    rw [List.take_append_drop] at number
    rw [List.length_take, Nat.min_eq_left long, Nat.sub_self, number, cut, splits,
      Nat.mul_div_mul_right _ _ (pow_ten_pos 9), Nat.add_comm (_ * _), Nat.add_mul_div_left _ _ (pow_ten_pos _),
      Nat.div_eq_of_lt small, Nat.zero_add]
    exact Nat.mul_one _

/-- A fraction that is followed by no digit is taken as a whole. -/
theorem scanFraction_append {digits rest : List Char} (someDigit : digits ≠ [])
    (areDigits : ∀ letter ∈ digits, letter.isDigit = true) (ends : EndsNumber rest) :
    scanFraction (digits ++ rest) = .ok (nanosOf digits, rest) := by
  have taken : ((digits ++ rest).take 9).takeWhile Char.isDigit = digits.take 9 := by
    rw [← List.take_takeWhile, Text.takeWhile_append_of_stops areDigits ends]
  have left := Text.dropWhile_append_of_stops areDigits ends
  obtain ⟨first, others, rfl⟩ := List.exists_cons_of_ne_nil someDigit
  rw [List.cons_append] at taken left ⊢
  show (if first.isDigit = true then _ else _) = _
  rw [if_pos (areDigits first List.mem_cons_self), taken, left, nanosOf_eq areDigits]

/-- What is taken of a fraction is what it spells. -/
theorem exists_of_scanFraction {text rest : List Char} {nanos : Nat} (scanned : scanFraction text = .ok (nanos, rest)) :
    ∃ digits, digits ≠ [] ∧ (∀ letter ∈ digits, letter.isDigit = true) ∧ text = digits ++ rest ∧
      nanos = nanosOf digits := by
  have areDigits : ∀ letter ∈ text.takeWhile Char.isDigit, letter.isDigit = true :=
    List.all_eq_true.mp List.all_takeWhile
  have ends : EndsNumber (text.dropWhile Char.isDigit) := by
    intro letter first
    have stopped := List.head?_dropWhile_not Char.isDigit text
    rw [first] at stopped
    exact stopped
  have someDigit : text.takeWhile Char.isDigit ≠ [] := by
    intro nothing
    cases text with
    | nil => cases scanned
    | cons letter others =>
      by_cases isDigit : letter.isDigit = true
      · rw [List.takeWhile_cons_of_pos isDigit] at nothing
        cases nothing
      · have refused : scanFraction (letter :: others) = .error .invalid := if_neg isDigit
        cases refused.symm.trans scanned
  have again := scanFraction_append someDigit areDigits ends
  rw [List.takeWhile_append_dropWhile, scanned] at again
  cases again
  exact ⟨_, someDigit, areDigits, List.takeWhile_append_dropWhile.symm, rfl⟩

/-- A fraction is taken, or that there is none, if what follows is neither a digit nor a point. -/
theorem scanNanos_append {digits text rest : List Char} (isFraction : IsFraction digits text) (ends : EndsNumber rest)
    (noPoint : rest.head? ≠ some '.') : scanNanos (text ++ rest) = .ok (nanosOf digits, rest) := by
  cases isFraction with
  | none =>
    cases rest with
    | nil => rfl
    | cons letter others =>
      have other : letter ≠ '.' := fun same => noPoint (congrArg some same)
      unfold scanNanos
      split
      · rename_i same
        exact absurd (List.cons.inj same).1 other
      · rfl
  | some someDigit areDigits => exact scanFraction_append someDigit areDigits ends

/-- What is taken as a fraction is one, or there is none. -/
theorem exists_of_scanNanos {text rest : List Char} {nanos : Nat} (scanned : scanNanos text = .ok (nanos, rest)) :
    ∃ digits front, IsFraction digits front ∧ text = front ++ rest ∧ nanos = nanosOf digits := by
  unfold scanNanos at scanned
  split at scanned
  · obtain ⟨digits, someDigit, areDigits, rfl, same⟩ := exists_of_scanFraction scanned
    exact ⟨digits, _, .some someDigit areDigits, rfl, same⟩
  · cases scanned
    exact ⟨[], [], .none, rfl, rfl⟩

theorem IsFraction.areDigits {digits text : List Char} (isFraction : IsFraction digits text) :
    ∀ letter ∈ digits, letter.isDigit = true := by
  cases isFraction with
  | none => nofun
  | some _ areDigits => exact areDigits

/-- A fraction ends a number, or what follows does. -/
theorem IsFraction.endsNumber {digits text rest : List Char} (isFraction : IsFraction digits text)
    (ends : EndsNumber rest) : EndsNumber (text ++ rest) := by
  cases isFraction with
  | none => exact ends
  | some => simp [EndsNumber]

/-! ### Offsets -/

/-- How an offset in minutes is spelled: as the letter Z, or by a sign, hours and minutes with something between. -/
inductive IsOffset (isBetween : List Char → Prop) : Int → List Char → Prop where
  | universal {letter : Char} (isName : letter = 'Z' ∨ letter = 'z') : IsOffset isBetween 0 [letter]
  | ahead {hours minutes : Nat} {front between behind : List Char} (areHours : IsNumber 2 hours front)
      (stands : isBetween between) (areMinutes : IsNumber 2 minutes behind) (inHour : minutes < 60) :
      IsOffset isBetween (60 * hours + minutes) ('+' :: (front ++ (between ++ behind)))
  | behind {sign : Char} {hours minutes : Nat} {front between behind : List Char}
      (isMinus : sign = '-' ∨ sign = '\u2212') (areHours : IsNumber 2 hours front) (stands : isBetween between)
      (areMinutes : IsNumber 2 minutes behind) (inHour : minutes < 60) :
      IsOffset isBetween (-(60 * hours + minutes)) (sign :: (front ++ (between ++ behind)))

/-- A scanner takes what stands between hours and minutes. -/
structure TakesBetween (scanBetween : Scanner Unit) (isBetween : List Char → Prop) : Prop where
  sound : ∀ {text rest : List Char}, scanBetween text = .ok ((), rest) → ∃ front, isBetween front ∧ text = front ++ rest
  complete : ∀ {front rest : List Char} {digit : Char}, isBetween front → digit.isDigit = true →
    scanBetween (front ++ digit :: rest) = .ok ((), digit :: rest)

variable {scanBetween : Scanner Unit} {isBetween : List Char → Prop}

/-- An offset starts with a letter or a sign. -/
theorem IsOffset.exists_first {offset : Int} {text : List Char} (isOffset : IsOffset isBetween offset text) :
    ∃ first others, text = first :: others ∧ first ∈ ['Z', 'z', '+', '-', '\u2212'] := by
  cases isOffset with
  | universal isName => exact ⟨_, _, rfl, by rcases isName with rfl | rfl <;> decide⟩
  | ahead => exact ⟨_, _, rfl, by decide⟩
  | behind isMinus => exact ⟨_, _, rfl, by rcases isMinus with rfl | rfl <;> decide⟩

theorem scanOffset_signed_eq_ok_iff (takes : TakesBetween scanBetween isBetween) {sign offset : Int}
    {text rest : List Char} :
    scanOffset.signed scanBetween sign text = .ok (offset, rest) ↔
      ∃ hours minutes front between behind, IsNumber 2 hours front ∧ isBetween between ∧ IsNumber 2 minutes behind ∧
        minutes < 60 ∧ offset = sign * (60 * hours + minutes) ∧ text = front ++ (between ++ behind) ++ rest := by
  unfold scanOffset.signed
  constructor
  · intro scanned
    obtain ⟨⟨hours, text₁⟩, first, scanned₁⟩ := exists_of_bind_eq_ok scanned
    obtain ⟨⟨⟨⟩, text₂⟩, second, scanned₂⟩ := exists_of_bind_eq_ok scanned₁
    obtain ⟨⟨minutes, text₃⟩, third, scanned₃⟩ := exists_of_bind_eq_ok scanned₂
    obtain ⟨front, areHours, rfl⟩ := scanPair_eq_ok_iff.mp first
    obtain ⟨between, stands, rfl⟩ := takes.sound second
    obtain ⟨behind, areMinutes, rfl⟩ := scanPair_eq_ok_iff.mp third
    by_cases tooMany : 60 ≤ minutes
    · cases (if_pos tooMany).symm.trans scanned₃
    · cases (if_neg tooMany).symm.trans scanned₃
      exact ⟨hours, minutes, front, between, behind, areHours, stands, areMinutes, by omega, rfl, by simp⟩
  · rintro ⟨hours, minutes, front, between, behind, areHours, stands, areMinutes, inHour, rfl, rfl⟩
    have first : scanPair (front ++ (between ++ behind) ++ rest) = .ok (hours, between ++ (behind ++ rest)) :=
      scanPair_eq_ok_iff.mpr ⟨front, areHours, by simp⟩
    have second : scanBetween (between ++ (behind ++ rest)) = .ok ((), behind ++ rest) := by
      obtain ⟨digit, digit', rfl, isDigit, -⟩ := areMinutes.two
      exact takes.complete stands isDigit
    have third : scanPair (behind ++ rest) = .ok (minutes, rest) := scanPair_eq_ok_iff.mpr ⟨behind, areMinutes, rfl⟩
    rw [first]
    show (scanBetween _ >>= _) = _
    rw [second]
    show (scanPair _ >>= _) = _
    rw [third]
    exact if_neg (Nat.not_le.mpr inHour)

/-- **An offset is taken if one is spelled there.** -/
theorem scanOffset_eq_ok_iff (takes : TakesBetween scanBetween isBetween) {offset : Int} {text rest : List Char} :
    scanOffset scanBetween text = .ok (offset, rest) ↔
      ∃ front, IsOffset isBetween offset front ∧ text = front ++ rest := by
  constructor
  · intro scanned
    unfold scanOffset at scanned
    split at scanned
    · cases scanned
    · rename_i letter others
      split at scanned
      · rename_i isName
        cases scanned
        exact ⟨[letter], .universal isName, rfl⟩
      split at scanned
      · rename_i isPlus
        obtain ⟨hours, minutes, front, between, behind, areHours, stands, areMinutes, inHour, rfl, rfl⟩ :=
          (scanOffset_signed_eq_ok_iff takes).mp scanned
        rw [isPlus, Int.one_mul]
        exact ⟨_, .ahead areHours stands areMinutes inHour, rfl⟩
      split at scanned
      · rename_i isMinus
        obtain ⟨hours, minutes, front, between, behind, areHours, stands, areMinutes, inHour, rfl, rfl⟩ :=
          (scanOffset_signed_eq_ok_iff takes).mp scanned
        rw [Int.neg_one_mul]
        exact ⟨_, .behind isMinus areHours stands areMinutes inHour, rfl⟩
      · cases scanned
  · rintro ⟨front, spells, rfl⟩
    cases spells with
    | universal isName => exact if_pos isName
    | ahead areHours stands areMinutes inHour =>
      refine (scanOffset_signed_eq_ok_iff takes).mpr
        ⟨_, _, _, _, _, areHours, stands, areMinutes, inHour, (Int.one_mul _).symm, rfl⟩
    | @behind _ hours minutes front between behind isMinus areHours stands areMinutes inHour =>
      have signed : scanOffset.signed scanBetween (-1) (front ++ (between ++ behind) ++ rest) =
          .ok (-(60 * hours + minutes), rest) := (scanOffset_signed_eq_ok_iff takes).mpr
        ⟨hours, minutes, front, between, behind, areHours, stands, areMinutes, inHour, (Int.neg_one_mul _).symm, rfl⟩
      rcases isMinus with rfl | rfl <;> exact signed

end SecretSource.Time
