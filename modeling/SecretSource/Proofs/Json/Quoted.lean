/-
**What a quoted text of JSON stands for.**

`Quotes` relates what stands behind an opening quotation mark to the characters that it stands for and to
what follows the closing mark. `Passes` only says where the text ends: it does not mind halves of surrogate
pairs that stand alone. Readers do what the two relations say.

* `Quotes.readFrom`, `exists_quotes_of_readFrom`: a text is read exactly if it stands for characters, and as
  these.
* `Passes.skipFrom`, `exists_passes_of_skipFrom`: a text is passed exactly if it ends.
* `Passes.unique`: a text ends at one place.
-/

import SecretSource.Json.Literal

namespace SecretSource.Json

open SecretSource.Text

/-- A character that stands for itself between quotation marks. -/
def IsPlain (letter : Char) : Prop := letter ≠ '"' ∧ letter ≠ '\\' ∧ ¬ letter.toNat < 0x20

/-- Half of a surrogate pair that comes first. -/
def IsHigh (value : Nat) : Prop := 0xD800 ≤ value ∧ value ≤ 0xDBFF

/-- Half of a surrogate pair that comes second. -/
def IsLow (value : Nat) : Prop := 0xDC00 ≤ value ∧ value ≤ 0xDFFF

/-- A text starts with the four digits of a number. -/
inductive FourDigits : Nat → List Char → List Char → Prop where
  | intro {first second third fourth : Char} {a b c d : Nat} {rest : List Char}
      (isFirst : Hex.digitValue? first = some a) (isSecond : Hex.digitValue? second = some b)
      (isThird : Hex.digitValue? third = some c) (isFourth : Hex.digitValue? fourth = some d) :
      FourDigits (16 * (16 * (16 * (16 * 0 + a) + b) + c) + d)
        (first :: second :: third :: fourth :: rest) rest

/-- Up to its closing quotation mark, a text stands for some characters; the last text is what follows. -/
inductive Quotes : List Char → List Char → List Char → Prop where
  | closed {rest : List Char} : Quotes [] ('"' :: rest) rest
  | plain {letter : Char} {letters text rest : List Char} (isPlain : IsPlain letter)
      (behind : Quotes letters text rest) : Quotes (letter :: letters) (letter :: text) rest
  | escape {mark letter : Char} {letters text rest : List Char}
      (escapes : escapedChar? mark = some letter) (behind : Quotes letters text rest) :
      Quotes (letter :: letters) ('\\' :: mark :: text) rest
  | point {value : Nat} {letters text text' rest : List Char} (digits : FourDigits value text text')
      (notHigh : ¬ IsHigh value) (notLow : ¬ IsLow value) (behind : Quotes letters text' rest) :
      Quotes (Char.ofNat value :: letters) ('\\' :: 'u' :: text) rest
  | pair {high low : Nat} {letters text text' text'' rest : List Char}
      (digits : FourDigits high text ('\\' :: 'u' :: text')) (isHigh : IsHigh high)
      (digits' : FourDigits low text' text'') (isLow : IsLow low) (behind : Quotes letters text'' rest) :
      Quotes (Char.ofNat (0x10000 + (high - 0xD800) * 1024 + (low - 0xDC00)) :: letters)
        ('\\' :: 'u' :: text) rest

/-- A text goes on to a closing quotation mark; the second text is what follows. -/
inductive Passes : List Char → List Char → Prop where
  | closed {rest : List Char} : Passes ('"' :: rest) rest
  | plain {letter : Char} {text rest : List Char} (isPlain : IsPlain letter)
      (behind : Passes text rest) : Passes (letter :: text) rest
  | escape {mark letter : Char} {text rest : List Char} (escapes : escapedChar? mark = some letter)
      (behind : Passes text rest) : Passes ('\\' :: mark :: text) rest
  | digits {value : Nat} {text text' rest : List Char} (digits : FourDigits value text text')
      (behind : Passes text' rest) : Passes ('\\' :: 'u' :: text) rest

/-! ### Four digits -/

/-- A digit is a plain character of one byte. -/
theorem isPlain_of_digitValue? {letter : Char} {value : Nat} (digit : Hex.digitValue? letter = some value) :
    IsPlain letter ∧ letter.utf8Size = 1 := by
  have bounds : 48 ≤ letter.toNat ∧ letter.toNat ≤ 102 ∧ letter.toNat ≠ 92 := by
    simp only [Hex.digitValue?, Char.le_def, UInt32.le_iff_toNat_le] at digit
    have zero : ('0' : Char).val.toNat = 48 := rfl
    have nine : ('9' : Char).val.toNat = 57 := rfl
    have capitalA : ('A' : Char).val.toNat = 65 := rfl
    have capitalF : ('F' : Char).val.toNat = 70 := rfl
    have smallA : ('a' : Char).val.toNat = 97 := rfl
    have smallF : ('f' : Char).val.toNat = 102 := rfl
    have code : letter.toNat = letter.val.toNat := rfl
    split at digit
    · omega
    · split at digit
      · omega
      · split at digit
        · omega
        · cases digit
  refine ⟨⟨?_, ?_, by omega⟩, ?_⟩
  · rintro rfl
    exact absurd bounds.1 (by decide)
  · rintro rfl
    exact bounds.2.2 rfl
  · have code : letter.val.toNat = letter.toNat := rfl
    have small : letter.val ≤ 127 := by
      rw [UInt32.le_iff_toNat_le]
      show letter.toNat ≤ 127
      omega
    exact if_pos small

/-- Four digits that are there are found. -/
theorem FourDigits.checkDigits {value : Nat} {text rest : List Char} (digits : FourDigits value text rest)
    (place : Place) : checkDigits place text = .ok () := by
  obtain ⟨isFirst, isSecond, isThird, isFourth⟩ := digits
  have size := fun {letter : Char} {value : Nat} (digit : Hex.digitValue? letter = some value) =>
    (isPlain_of_digitValue? digit).2
  unfold Json.checkDigits
  simp [Cursor.placeAfter, size isFirst, size isSecond, size isThird, size isFourth, isFirst, isSecond,
    isThird, isFourth]

/-- Digits that are found are four and there. -/
theorem exists_fourDigits_of_checkDigits {place : Place} {text : List Char}
    (found : checkDigits place text = .ok ()) : ∃ value rest, FourDigits value text rest := by
  have value : ∀ {letter : Char}, (Hex.digitValue? letter).isSome = true →
      ∃ value, Hex.digitValue? letter = some value := fun known => Option.isSome_iff_exists.mp known
  unfold Json.checkDigits at found
  split at found
  · cases found
  · rename_i beyond reached
    split at found
    · rename_i digits
      match text, reached, digits with
      | [], reached, _ => simp [Cursor.placeAfter] at reached
      | [a], reached, digits =>
        obtain ⟨_, isA⟩ := value (List.all_eq_true.mp digits a (by simp))
        simp [Cursor.placeAfter, (isPlain_of_digitValue? isA).2] at reached
      | [a, b], reached, digits =>
        obtain ⟨_, isA⟩ := value (List.all_eq_true.mp digits a (by simp))
        obtain ⟨_, isB⟩ := value (List.all_eq_true.mp digits b (by simp))
        simp [Cursor.placeAfter, (isPlain_of_digitValue? isA).2, (isPlain_of_digitValue? isB).2] at reached
      | [a, b, c], reached, digits =>
        obtain ⟨_, isA⟩ := value (List.all_eq_true.mp digits a (by simp))
        obtain ⟨_, isB⟩ := value (List.all_eq_true.mp digits b (by simp))
        obtain ⟨_, isC⟩ := value (List.all_eq_true.mp digits c (by simp))
        simp [Cursor.placeAfter, (isPlain_of_digitValue? isA).2, (isPlain_of_digitValue? isB).2,
          (isPlain_of_digitValue? isC).2] at reached
      | a :: b :: c :: d :: rest, _, digits =>
        obtain ⟨_, isA⟩ := value (List.all_eq_true.mp digits a (by simp))
        obtain ⟨_, isB⟩ := value (List.all_eq_true.mp digits b (by simp))
        obtain ⟨_, isC⟩ := value (List.all_eq_true.mp digits c (by simp))
        obtain ⟨_, isD⟩ := value (List.all_eq_true.mp digits d (by simp))
        exact ⟨_, rest, .intro isA isB isC isD⟩
    · cases found

/-- A text behind four digits is shorter. -/
theorem FourDigits.length_lt {value : Nat} {text rest : List Char} (digits : FourDigits value text rest) :
    rest.length < text.length := by
  obtain ⟨_, _, _, _⟩ := digits
  simp only [List.length_cons]
  omega

/-! ### Reading -/

theorem numbered_of_point {value : Nat} (notHigh : ¬ IsHigh value) (notLow : ¬ IsLow value) :
    numbered none value = .ok (.plain, some (Char.ofNat value)) := by
  unfold IsHigh at notHigh
  unfold IsLow at notLow
  simp [numbered, notHigh, notLow]

theorem numbered_of_isHigh {value : Nat} (isHigh : IsHigh value) :
    numbered none value = .ok (.pairSlash value, none) := by
  have notLow : ¬ (0xDC00 ≤ value ∧ value ≤ 0xDFFF) := by
    unfold IsHigh at isHigh
    omega
  unfold IsHigh at isHigh
  simp [numbered, isHigh, notLow]

theorem numbered_of_isLow {value : Nat} (isLow : IsLow value) :
    numbered none value = .error .loneSurrogate := by
  unfold IsLow at isLow
  simp [numbered, isLow]

theorem numbered_of_pair {value : Nat} (isLow : IsLow value) (high : Nat) :
    numbered (some high) value =
      .ok (.plain, some (Char.ofNat (0x10000 + (high - 0xD800) * 1024 + (value - 0xDC00)))) := by
  unfold IsLow at isLow
  simp [numbered, isLow]

theorem numbered_of_unpaired {value : Nat} (notLow : ¬ IsLow value) (high : Nat) :
    numbered (some high) value = .error .loneSurrogate := by
  unfold IsLow at notLow
  simp [numbered, notLow]

/-! One step of a reader at a time, so that the proofs below need not look into it. -/

theorem readFrom_plain {letter : Char} (isPlain : IsPlain letter) (done : List Char) (place : Place)
    (text : List Char) :
    readFrom .plain done place (letter :: text) =
      readFrom .plain (letter :: done) (place.after letter) text := by
  rw [readFrom, if_neg isPlain.1, if_neg isPlain.2.1, if_neg isPlain.2.2]

example : (readFrom .plain [] .start ['a', '"', 'b']).toOption.map Prod.fst = some ['a'] := by
  cbv

theorem readFrom_slash (done : List Char) (place : Place) (text : List Char) :
    readFrom .plain done place ('\\' :: text) = readFrom .escaped done (place.after '\\') text := by
  rw [readFrom, if_neg (by decide), if_pos rfl]

theorem readFrom_escape {mark letter : Char} (escapes : escapedChar? mark = some letter)
    (done : List Char) (place : Place) (text : List Char) :
    readFrom .escaped done place (mark :: text) =
      readFrom .plain (letter :: done) (place.after mark) text := by
  rw [readFrom, escapes]

theorem readFrom_digits {value : Nat} {text rest : List Char} (digits : FourDigits value text rest)
    (done : List Char) (place : Place) :
    readFrom .escaped done place ('u' :: text) =
      readFrom (.digits 4 0 none) done (place.after 'u') text := by
  have noEscape : escapedChar? 'u' = none := rfl
  simp only [readFrom, noEscape, digits.checkDigits, if_true]

theorem readFrom_pair {value : Nat} {text rest : List Char} (digits : FourDigits value text rest)
    (high : Nat) (done : List Char) (place : Place) :
    readFrom (.pairSlash high) done place ('\\' :: 'u' :: text) =
      readFrom (.digits 4 0 (some high)) done ((place.after '\\').after 'u') text := by
  simp only [readFrom, digits.checkDigits, if_true]

theorem skipFrom_plain {letter : Char} (isPlain : IsPlain letter) (place : Place) (text : List Char) :
    skipFrom false place (letter :: text) = skipFrom false (place.after letter) text := by
  rw [skipFrom, if_neg Bool.false_ne_true, if_neg isPlain.1, if_neg isPlain.2.1, if_neg isPlain.2.2]

example : (skipFrom false .start ['a', '"', 'b']).toOption.map Cursor.rest = some ['b'] := by
  cbv

theorem skipFrom_slash (place : Place) (text : List Char) :
    skipFrom false place ('\\' :: text) = skipFrom true (place.after '\\') text := by
  rw [skipFrom, if_neg Bool.false_ne_true, if_neg (by decide), if_pos rfl]

theorem skipFrom_escape {mark letter : Char} (escapes : escapedChar? mark = some letter)
    (place : Place) (text : List Char) :
    skipFrom true place (mark :: text) = skipFrom false (place.after mark) text := by
  rw [skipFrom, if_pos rfl, escapes, Option.isSome_some, if_pos rfl]

/-- The digits of a numbered escape are passed like plain characters. -/
theorem skipFrom_digits {value : Nat} {text rest : List Char} (digits : FourDigits value text rest)
    (place : Place) :
    ∃ place', skipFrom true place ('u' :: text) = skipFrom false place' rest := by
  have noEscape : escapedChar? 'u' = none := rfl
  have found : skipFrom true place ('u' :: text) = skipFrom false (place.after 'u') text := by
    rw [skipFrom, if_pos rfl, noEscape, if_neg (by decide), if_pos rfl, digits.checkDigits]
  cases digits with
  | intro isFirst isSecond isThird isFourth =>
    rw [found, skipFrom_plain (isPlain_of_digitValue? isFirst).1,
      skipFrom_plain (isPlain_of_digitValue? isSecond).1,
      skipFrom_plain (isPlain_of_digitValue? isThird).1,
      skipFrom_plain (isPlain_of_digitValue? isFourth).1]
    exact ⟨_, rfl⟩

/-- Reading four digits makes their number, which then stands for a character or for half of a pair. -/
theorem FourDigits.readFrom {value : Nat} {text rest : List Char} (digits : FourDigits value text rest)
    (lead : Option Nat) (done : List Char) (place : Place) :
    ∃ place', readFrom (.digits 4 0 lead) done place text =
      match numbered lead value with
      | .error problem => .error ⟨problem, place'⟩
      | .ok (next, none) => readFrom next done place' rest
      | .ok (next, some plain) => readFrom next (plain :: done) place' rest := by
  cases digits with
  | @intro first second third fourth a b c d rest isFirst isSecond isThird isFourth =>
    refine ⟨(((place.after first).after second).after third).after fourth, ?_⟩
    generalize made : 16 * (16 * (16 * (16 * 0 + a) + b) + c) + d = value
    rcases result : numbered lead value with problem | ⟨next, _ | plain⟩ <;>
      simp only [Json.readFrom, isFirst, isSecond, isThird, isFourth, Option.getD_some, Nat.reduceLT,
        Nat.reduceSub, if_true, if_false, made, result]

/-- **What a text stands for is read from it**, whatever has been read before and wherever it stands. -/
theorem Quotes.readFrom {letters text rest : List Char} (quotes : Quotes letters text rest)
    (done : List Char) (place : Place) :
    ∃ stop, readFrom .plain done place text = .ok (done.reverse ++ letters, ⟨stop, rest⟩) := by
  induction quotes generalizing done place with
  | closed => exact ⟨place.after '"', by simp [Json.readFrom]⟩
  | @plain letter letters text rest isPlain behind ih =>
    obtain ⟨stop, reads⟩ := ih (letter :: done) (place.after letter)
    exact ⟨stop, by rw [readFrom_plain isPlain, reads]; simp⟩
  | @escape mark letter letters text rest escapes behind ih =>
    obtain ⟨stop, reads⟩ := ih (letter :: done) ((place.after '\\').after mark)
    exact ⟨stop, by rw [readFrom_slash, readFrom_escape escapes, reads]; simp⟩
  | @point value letters text text' rest digits notHigh notLow behind ih =>
    obtain ⟨place', steps⟩ := digits.readFrom none done ((place.after '\\').after 'u')
    obtain ⟨stop, reads⟩ := ih (Char.ofNat value :: done) place'
    refine ⟨stop, ?_⟩
    rw [readFrom_slash, readFrom_digits digits, steps, numbered_of_point notHigh notLow]
    simpa using reads
  | @pair high low letters text text' text'' rest digits isHigh digits' isLow behind ih =>
    obtain ⟨middle, steps⟩ := digits.readFrom none done ((place.after '\\').after 'u')
    obtain ⟨place', steps'⟩ := digits'.readFrom (some high) done ((middle.after '\\').after 'u')
    obtain ⟨stop, reads⟩ := ih (_ :: done) place'
    refine ⟨stop, ?_⟩
    rw [readFrom_slash, readFrom_digits digits, steps, numbered_of_isHigh isHigh]
    show Json.readFrom (.pairSlash high) done middle _ = _
    rw [readFrom_pair digits', steps', numbered_of_pair isLow]
    simpa using reads

/-! ### What was read

Each step of a reader that succeeds is inverted on its own; the induction below only puts them together. -/

/-- A reader that succeeds behind a backslash found the mark of an escape or four digits. -/
theorem escaped_cases {text done letters : List Char} {place : Place} {next : Cursor}
    (reads : readFrom .escaped done place text = .ok (letters, next)) :
    (∃ mark letter rest place', text = mark :: rest ∧ escapedChar? mark = some letter ∧
      readFrom .plain (letter :: done) place' rest = .ok (letters, next)) ∨
    ∃ value text' rest place', text = 'u' :: text' ∧ FourDigits value text' rest ∧
      readFrom (.digits 4 0 none) done place' text' = .ok (letters, next) := by
  cases text with
  | nil => cases reads
  | cons mark rest =>
    cases escapes : escapedChar? mark with
    | some letter =>
      rw [readFrom_escape escapes] at reads
      exact Or.inl ⟨mark, letter, rest, _, rfl, escapes, reads⟩
    | none =>
      rw [readFrom, escapes] at reads
      by_cases isUnit : mark = 'u'
      · subst isUnit
        simp only [if_true] at reads
        cases found : checkDigits (place.after 'u') rest with
        | error fault =>
          rw [found] at reads
          cases reads
        | ok checked =>
          rw [found] at reads
          obtain ⟨value, behind, digits⟩ := exists_fourDigits_of_checkDigits found
          exact Or.inr ⟨value, rest, behind, _, rfl, digits, reads⟩
      · simp only [if_neg isUnit] at reads
        cases reads

/-- A reader that succeeds behind the first half of a pair found the second half. -/
theorem exists_low_of_readFrom {high : Nat} {text done letters : List Char} {place : Place} {next : Cursor}
    (reads : readFrom (.pairSlash high) done place text = .ok (letters, next)) :
    ∃ low text' rest place', text = '\\' :: 'u' :: text' ∧ FourDigits low text' rest ∧ IsLow low ∧
      readFrom .plain (Char.ofNat (0x10000 + (high - 0xD800) * 1024 + (low - 0xDC00)) :: done) place' rest =
        .ok (letters, next) := by
  match text with
  | [] => cases reads
  | [slash] =>
    rw [readFrom] at reads
    split at reads <;> cases reads
  | slash :: mark :: text' =>
    rw [readFrom] at reads
    split at reads
    · rename_i isSlash
      subst isSlash
      rw [readFrom] at reads
      split at reads
      · rename_i isUnit
        subst isUnit
        cases found : checkDigits ((place.after '\\').after 'u') text' with
        | error fault =>
          rw [found] at reads
          cases reads
        | ok checked =>
          rw [found] at reads
          obtain ⟨low, rest, digits⟩ := exists_fourDigits_of_checkDigits found
          obtain ⟨place', steps⟩ := digits.readFrom (some high) done ((place.after '\\').after 'u')
          simp only [steps] at reads
          by_cases isLow : IsLow low
          · rw [numbered_of_pair isLow] at reads
            exact ⟨low, text', rest, place', rfl, digits, isLow, reads⟩
          · rw [numbered_of_unpaired isLow] at reads
            cases reads
      · cases reads
    · cases reads

/-- **What is read from a text is what it stands for.** -/
theorem exists_quotes_of_readFrom {text done letters : List Char} {place : Place} {next : Cursor}
    (reads : readFrom .plain done place text = .ok (letters, next)) :
    ∃ own, Quotes own text next.rest ∧ letters = done.reverse ++ own := by
  -- Escapes take several characters at once, so the induction is on the length of the text.
  induction size : text.length using Nat.strongRecOn generalizing text done place with
  | ind length ih =>
    cases text with
    | nil => cases reads
    | cons letter behind =>
      by_cases quote : letter = '"'
      · subst quote
        rw [readFrom, if_pos rfl] at reads
        cases reads
        exact ⟨[], .closed, (List.append_nil _).symm⟩
      · by_cases slash : letter = '\\'
        · subst slash
          rw [readFrom_slash] at reads
          rcases escaped_cases reads with
            ⟨mark, letter, rest, place', rfl, escapes, reads⟩ |
            ⟨value, text', rest, place', rfl, digits, reads⟩
          · obtain ⟨own, quotes, rfl⟩ := ih rest.length (by simp at size; omega) reads rfl
            exact ⟨letter :: own, .escape escapes quotes, by simp⟩
          · have shorter := digits.length_lt
            obtain ⟨middle, steps⟩ := digits.readFrom none done place'
            rw [steps] at reads
            by_cases isLow : IsLow value
            · rw [numbered_of_isLow isLow] at reads
              cases reads
            · by_cases isHigh : IsHigh value
              · rw [numbered_of_isHigh isHigh] at reads
                obtain ⟨low, text'', rest', _, rfl, digits', isLow', reads⟩ := exists_low_of_readFrom reads
                have shorter' := digits'.length_lt
                obtain ⟨own, quotes, rfl⟩ := ih rest'.length (by simp at size shorter; omega) reads rfl
                exact ⟨_ :: own, .pair digits isHigh digits' isLow' quotes, by simp⟩
              · rw [numbered_of_point isHigh isLow] at reads
                obtain ⟨own, quotes, rfl⟩ := ih rest.length (by simp at size; omega) reads rfl
                exact ⟨_ :: own, .point digits isHigh isLow quotes, by simp⟩
        · by_cases control : letter.toNat < 0x20
          · rw [readFrom, if_neg quote, if_neg slash, if_pos control] at reads
            cases reads
          · have isPlain : IsPlain letter := ⟨quote, slash, control⟩
            rw [readFrom_plain isPlain] at reads
            obtain ⟨own, quotes, rfl⟩ := ih behind.length (by simp at size; omega) reads rfl
            exact ⟨letter :: own, .plain isPlain quotes, by simp⟩

/-! ### Passing -/

/-- **A text that ends is passed.** -/
theorem Passes.skipFrom {text rest : List Char} (passes : Passes text rest) (place : Place) :
    ∃ stop, skipFrom false place text = .ok ⟨stop, rest⟩ := by
  induction passes generalizing place with
  | closed => exact ⟨place.after '"', by simp [Json.skipFrom]⟩
  | plain isPlain behind ih =>
    rw [skipFrom_plain isPlain]
    exact ih _
  | escape escapes behind ih =>
    rw [skipFrom_slash, skipFrom_escape escapes]
    exact ih _
  | digits digits behind ih =>
    obtain ⟨place', steps⟩ := skipFrom_digits digits (place.after '\\')
    rw [skipFrom_slash, steps]
    exact ih _

/-- **A text that is passed ends.** -/
theorem exists_passes_of_skipFrom {text : List Char} {place : Place} {next : Cursor}
    (skips : skipFrom false place text = .ok next) : Passes text next.rest := by
  induction size : text.length using Nat.strongRecOn generalizing text place with
  | ind length ih =>
    cases text with
    | nil => cases skips
    | cons letter behind =>
      by_cases quote : letter = '"'
      · subst quote
        rw [skipFrom, if_neg Bool.false_ne_true, if_pos rfl] at skips
        cases skips
        exact .closed
      · by_cases slash : letter = '\\'
        · subst slash
          rw [skipFrom_slash] at skips
          cases behind with
          | nil => cases skips
          | cons mark rest =>
            cases escapes : escapedChar? mark with
            | some letter =>
              rw [skipFrom_escape escapes] at skips
              exact .escape escapes (ih rest.length (by simp at size; omega) skips rfl)
            | none =>
              rw [skipFrom, if_pos rfl, escapes, if_neg (by decide)] at skips
              by_cases isUnit : mark = 'u'
              · subst isUnit
                rw [if_pos rfl] at skips
                cases found : checkDigits ((place.after '\\').after 'u') rest with
                | error fault =>
                  rw [found] at skips
                  cases skips
                | ok checked =>
                  obtain ⟨value, rest', digits⟩ := exists_fourDigits_of_checkDigits found
                  have shorter := digits.length_lt
                  have found' : Json.skipFrom true (place.after '\\') ('u' :: rest) = .ok next := by
                    rw [skipFrom, if_pos rfl, escapes, if_neg (by decide), if_pos rfl]
                    exact skips
                  obtain ⟨place', steps⟩ := skipFrom_digits digits (place.after '\\')
                  rw [steps] at found'
                  exact .digits digits (ih rest'.length (by simp at size; omega) found' rfl)
              · rw [if_neg isUnit] at skips
                cases skips
        · by_cases control : letter.toNat < 0x20
          · rw [skipFrom, if_neg Bool.false_ne_true, if_neg quote, if_neg slash, if_pos control] at skips
            cases skips
          · have isPlain : IsPlain letter := ⟨quote, slash, control⟩
            rw [skipFrom_plain isPlain] at skips
            exact .plain isPlain (ih behind.length (by simp at size; omega) skips rfl)

/-- A text that stands for characters ends where they end. -/
theorem Quotes.passes {letters text rest : List Char} (quotes : Quotes letters text rest) :
    Passes text rest := by
  induction quotes with
  | closed => exact .closed
  | plain isPlain _ ih => exact .plain isPlain ih
  | escape escapes _ ih => exact .escape escapes ih
  | point digits _ _ _ ih => exact .digits digits ih
  | pair digits _ digits' _ _ ih => exact .digits digits (.digits digits' ih)

/-- A text ends at one place. -/
theorem Passes.unique {text rest rest' : List Char} (passes : Passes text rest)
    (passes' : Passes text rest') : rest = rest' := by
  obtain ⟨stop, skips⟩ := passes.skipFrom .start
  obtain ⟨stop', skips'⟩ := passes'.skipFrom .start
  cases skips.symm.trans skips'
  rfl

/-! ### Whole texts -/

/-- A text goes on to a closing quotation mark and stands for a value, or for none if it holds half of a pair
that stands alone. -/
inductive SpellsText : Option String → List Char → List Char → Prop where
  | whole {letters text rest : List Char} (quotes : Quotes letters text rest) :
      SpellsText (some (String.ofList letters)) text rest
  | halves {text rest : List Char} (passes : Passes text rest)
      (noText : ∀ letters rest', ¬ Quotes letters text rest') : SpellsText none text rest

theorem SpellsText.passes {value : Option String} {text rest : List Char}
    (spells : SpellsText value text rest) : Passes text rest := by
  cases spells with
  | whole quotes => exact quotes.passes
  | halves passes _ => exact passes

/-- Reading gives what a text stands for, wherever it stands. -/
theorem SpellsText.readText {value : Option String} {text rest : List Char}
    (spells : SpellsText value text rest) (place : Place) :
    ((readText ⟨place, text⟩).map (·.1)).toOption = value := by
  cases spells with
  | whole quotes =>
    obtain ⟨stop, reads⟩ := quotes.readFrom [] place
    simp [Json.readText, reads, Except.map, Except.toOption]
  | halves passes noText =>
    cases reads : Json.readFrom .plain [] place text with
    | error fault => simp [Json.readText, reads, Except.map, Except.toOption]
    | ok read =>
      obtain ⟨own, quotes, -⟩ := exists_quotes_of_readFrom reads
      exact absurd quotes (noText _ _)

/-- A text that goes on to a closing quotation mark stands for a value or for none. -/
theorem Passes.exists_spellsText {text rest : List Char} (passes : Passes text rest) :
    ∃ value, SpellsText value text rest := by
  by_cases quotes : ∃ letters rest', Quotes letters text rest'
  · obtain ⟨letters, rest', quotes⟩ := quotes
    rw [passes.unique quotes.passes]
    exact ⟨_, .whole quotes⟩
  · exact ⟨none, .halves passes fun letters rest' own => quotes ⟨letters, rest', own⟩⟩

end SecretSource.Json
