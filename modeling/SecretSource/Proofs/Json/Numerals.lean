/-
**How numbers are spelled in JSON.**

`SpellsNumeral` takes a numeral off the start of a text: a sign, whole digits without a leading zero, and
perhaps a fraction and an exponent. What a numeral is worth does not depend on where it stands.

* `SpellsNumeral.readNumeral`, `spellsNumeral_of_readNumeral`: a numeral is read exactly if it is spelled.
* `Numeral.toOption_value`: the worth of a numeral is the same at every place.
* `spellsNumeral_toString`, `Numeral.worth_ofInt`: the text of a whole number is a numeral that is worth it.
-/

import Mathlib.Data.List.TakeWhile
import SecretSource.Json.Numeral
import SecretSource.Proofs.Except

namespace SecretSource.Json

open SecretSource.Number

/-! ### Passing characters -/

/-- What is left behind the characters of a class. -/
theorem Cursor.rest_passWhile (isPassed : Char → Bool) (place : Place) (text : List Char) :
    (passWhile isPassed place text).rest = text.dropWhile isPassed := by
  induction text generalizing place with
  | nil => rfl
  | cons letter rest ih =>
    rw [passWhile, List.dropWhile_cons]
    split
    · exact ih _
    · rfl

/-- A text that starts with no digit. -/
def NoDigit (text : List Char) : Prop := ∀ letter rest, text = letter :: rest → letter.isDigit = false

/-- A text with which no numeral goes on. -/
def EndsNumeral (text : List Char) : Prop :=
  ∀ letter rest, text = letter :: rest →
    letter.isDigit = false ∧ letter ≠ '.' ∧ letter ≠ 'e' ∧ letter ≠ 'E'

theorem noDigit_cons {letter : Char} (other : letter.isDigit = false) (rest : List Char) :
    NoDigit (letter :: rest) := by
  intro first behind same
  cases same
  exact other

/-- Digits are taken up to the first character that is none. -/
theorem takeDigits_of_rest_eq {digits rest : List Char} (cursor : Cursor)
    (here : cursor.rest = digits ++ rest) (areDigits : ∀ letter ∈ digits, letter.isDigit = true)
    (ended : NoDigit rest) :
    ∃ next, takeDigits cursor = (digits, next) ∧ next.rest = rest := by
  have nothing : rest.takeWhile Char.isDigit = [] ∧ rest.dropWhile Char.isDigit = rest := by
    cases rest with
    | nil => exact ⟨rfl, rfl⟩
    | cons letter behind =>
      have other := ended letter behind rfl
      exact ⟨List.takeWhile_cons_of_neg (by simp [other]), List.dropWhile_cons_of_neg (by simp [other])⟩
  refine ⟨_, Prod.ext ?_ rfl, ?_⟩
  · show cursor.rest.takeWhile Char.isDigit = digits
    rw [here, List.takeWhile_append_of_pos areDigits, nothing.1, List.append_nil]
  · show (Cursor.passWhile Char.isDigit cursor.place cursor.rest).rest = rest
    rw [Cursor.rest_passWhile, here, List.dropWhile_append_of_pos areDigits, nothing.2]

/-- What is taken are digits, and they stand before what is left. -/
theorem takeDigits_eq {cursor next : Cursor} {digits : List Char}
    (taken : takeDigits cursor = (digits, next)) :
    cursor.rest = digits ++ next.rest ∧ ∀ letter ∈ digits, letter.isDigit = true := by
  obtain ⟨rfl, rfl⟩ := Prod.mk.inj taken
  refine ⟨?_, fun letter member => List.mem_takeWhile_imp member⟩
  rw [Cursor.rest_passWhile, List.takeWhile_append_dropWhile]

/-! ### Parts of a numeral -/

/-- The digits before the point: a leading zero stands alone. -/
inductive IsWhole : List Char → Prop where
  | zero : IsWhole ['0']
  | long {first : Char} {others : List Char} (notZero : first ≠ '0')
      (areDigits : ∀ letter ∈ first :: others, letter.isDigit = true) : IsWhole (first :: others)

/-- A point and the digits behind it, or nothing. -/
inductive SpellsFraction : Option (List Char) → List Char → List Char → Prop where
  | absent {rest : List Char} : SpellsFraction none rest rest
  | present {digits rest : List Char} (someDigit : digits ≠ [])
      (areDigits : ∀ letter ∈ digits, letter.isDigit = true) :
      SpellsFraction (some digits) ('.' :: (digits ++ rest)) rest

/-- The sign of an exponent; without one it is positive. -/
inductive SpellsSign : Bool → List Char → List Char → Prop where
  | absent {text : List Char} : SpellsSign false text text
  | plus {text : List Char} : SpellsSign false ('+' :: text) text
  | minus {text : List Char} : SpellsSign true ('-' :: text) text

/-- An exponent, or nothing; where it stands does not count. -/
inductive SpellsExponent : Option Exponent → List Char → List Char → Prop where
  | absent {rest : List Char} : SpellsExponent none rest rest
  | present {mark : Char} {negative : Bool} {digits text rest : List Char}
      (marks : mark = 'e' ∨ mark = 'E') (signed : SpellsSign negative text (digits ++ rest))
      (someDigit : digits ≠ []) (areDigits : ∀ letter ∈ digits, letter.isDigit = true) :
      SpellsExponent (some ⟨negative, digits, .start⟩) (mark :: text) rest

/-- The sign of a numeral, which is a minus or nothing. -/
inductive SpellsMinus : Bool → List Char → List Char → Prop where
  | absent {text : List Char} : SpellsMinus false text text
  | minus {text : List Char} : SpellsMinus true ('-' :: text) text

/-- A numeral with its sign; where its exponent stands does not count. -/
inductive SpellsNumeral : Numeral → List Char → List Char → Prop where
  | intro {negative : Bool} {digits text text' text'' rest : List Char} {fraction : Option (List Char)}
      {exponent : Option Exponent} (signed : SpellsMinus negative text (digits ++ text'))
      (isWhole : IsWhole digits) (spellsFraction : SpellsFraction fraction text' text'')
      (spellsExponent : SpellsExponent exponent text'' rest) :
      SpellsNumeral ⟨negative, digits, fraction, exponent⟩ text rest

/-- An exponent without its place. -/
def Exponent.unplaced (exponent : Exponent) : Exponent := { exponent with place := .start }

namespace Numeral

/-- A numeral without the place of its exponent. -/
def unplaced (numeral : Numeral) : Numeral :=
  { numeral with exponent := numeral.exponent.map Exponent.unplaced }

/-- What a numeral is worth, if it is in range. -/
def worth (numeral : Numeral) : Option Number := (numeral.value .start).toOption

/-- A value of floating point does not depend on where its numeral ends. -/
theorem toOption_real (negative : Bool) (digits : Nat) (power : Int) (stop stop' : Place) :
    (match realValue negative digits power with
      | some number => (.ok number : Except Fault Number)
      | none => .error ⟨.numberOutOfRange, stop⟩).toOption =
    (match realValue negative digits power with
      | some number => (.ok number : Except Fault Number)
      | none => .error ⟨.numberOutOfRange, stop'⟩).toOption := by
  cases realValue negative digits power <;> rfl

/-- The place of an exponent is where a fault lies, and only there. -/
theorem toOption_shifted (negative below : Bool) (places : List Char) (digits : Nat) (power : Int)
    (stop stop' start start' : Place) :
    (match exponentValue 0 0 places with
      | .ok shift =>
        (match realValue negative digits (if below then power - shift else power + shift) with
          | some number => (.ok number : Except Fault Number)
          | none => .error ⟨.numberOutOfRange, stop⟩)
      | .error count =>
        if digits ≠ 0 ∧ ! below then .error ⟨.numberOutOfRange, ⟨start.line, start.column + count⟩⟩
        else .ok (.real (Binary64.zero.withSign negative))).toOption =
    (match exponentValue 0 0 places with
      | .ok shift =>
        (match realValue negative digits (if below then power - shift else power + shift) with
          | some number => (.ok number : Except Fault Number)
          | none => .error ⟨.numberOutOfRange, stop'⟩)
      | .error count =>
        if digits ≠ 0 ∧ ! below then .error ⟨.numberOutOfRange, ⟨start'.line, start'.column + count⟩⟩
        else .ok (.real (Binary64.zero.withSign negative))).toOption := by
  cases exponentValue 0 0 places with
  | ok shift => exact toOption_real _ _ _ _ _
  | error count =>
    dsimp only
    split <;> rfl

/-- The worth of a numeral is the same at every place. -/
theorem toOption_value (numeral : Numeral) (stop : Place) :
    (numeral.value stop).toOption = numeral.unplaced.worth := by
  obtain ⟨negative, digits, fraction, exponent⟩ := numeral
  unfold worth unplaced value
  rcases exponent with _ | ⟨below, places, place⟩
  · rcases fraction with _ | decimals
    · generalize absorb 0 digits = taken
      obtain ⟨whole, _ | ⟨first, others⟩⟩ := taken
      · simp only [Option.map_none]
        split
        · rfl
        · split
          · exact toOption_real _ _ _ _ _
          · rfl
      · exact toOption_real _ _ _ _ _
    · exact toOption_real _ _ _ _ _
  · cases fraction <;> exact toOption_shifted _ _ _ _ _ _ _ _ _

end Numeral

/-! ### Reading what is spelled -/

theorem IsWhole.areDigits {digits : List Char} (isWhole : IsWhole digits) :
    ∀ letter ∈ digits, letter.isDigit = true := by
  cases isWhole with
  | zero => exact List.forall_mem_singleton.mpr rfl
  | long _ areDigits => exact areDigits

theorem IsWhole.readWhole {digits rest : List Char} (isWhole : IsWhole digits) {cursor : Cursor}
    (here : cursor.rest = digits ++ rest) (ended : NoDigit rest) :
    ∃ next, readWhole cursor = .ok (digits, next) ∧ next.rest = rest := by
  obtain ⟨place, text⟩ := cursor
  subst here
  cases isWhole with
  | zero =>
    refine ⟨step ⟨place, '0' :: rest⟩ rest, ?_, rfl⟩
    cases rest with
    | nil => rfl
    | cons letter behind => simp [Json.readWhole, ended letter behind rfl]
  | @long first others notZero areDigits =>
    obtain ⟨next, taken, left⟩ := takeDigits_of_rest_eq ⟨place, first :: others ++ rest⟩ rfl areDigits ended
    refine ⟨next, ?_, left⟩
    simp [Json.readWhole, areDigits first (by simp), ← taken]

theorem SpellsFraction.readFraction {fraction : Option (List Char)} {text rest : List Char}
    (spells : SpellsFraction fraction text rest) {cursor : Cursor} (here : cursor.rest = text)
    (ended : NoDigit rest) (noPoint : ∀ behind, rest ≠ '.' :: behind) :
    ∃ next, readFraction cursor = .ok (fraction, next) ∧ next.rest = rest := by
  obtain ⟨place, text⟩ := cursor
  subst here
  cases spells with
  | absent =>
    refine ⟨⟨place, text⟩, ?_, rfl⟩
    unfold Json.readFraction
    split
    · rename_i behind point
      exact absurd point (noPoint behind)
    · rfl
  | @present digits rest someDigit areDigits =>
    obtain ⟨next, taken, left⟩ :=
      takeDigits_of_rest_eq (step ⟨place, '.' :: (digits ++ rest)⟩ (digits ++ rest)) rfl areDigits ended
    refine ⟨next, ?_, left⟩
    obtain ⟨first, others, rfl⟩ := List.exists_cons_of_ne_nil someDigit
    simp only [Json.readFraction, taken]

/-- Reads an exponent behind its sign. -/
def exponentFrom (negative : Bool) (cursor : Cursor) : Except NumeralFault (Option Exponent × Cursor) :=
  match takeDigits cursor with
  | ([], _) =>
    if cursor.rest.isEmpty then .error (.atEnd cursor)
    else .error (.both (cursor.faultAhead .invalidNumber))
  | (digits, beyond) => .ok (some ⟨negative, digits, cursor.place⟩, beyond)

/-- Behind the mark of an exponent its sign is passed. -/
theorem SpellsSign.readExponent {negative : Bool} {text others : List Char} {first mark : Char}
    (signed : SpellsSign negative text (first :: others)) (isDigit : first.isDigit = true)
    (marks : mark = 'e' ∨ mark = 'E') (place : Place) :
    ∃ next, readExponent ⟨place, mark :: text⟩ = exponentFrom negative next ∧
      next.rest = first :: others := by
  cases signed with
  | absent =>
    refine ⟨step ⟨place, mark :: first :: others⟩ (first :: others), ?_, rfl⟩
    simp only [Json.readExponent, if_pos marks]
    split
    · rename_i same
      cases same
      cases isDigit
    · rename_i same
      cases same
      cases isDigit
    · rfl
  | plus =>
    exact ⟨step (step ⟨place, mark :: '+' :: first :: others⟩ ('+' :: first :: others)) (first :: others),
      by simp only [Json.readExponent, if_pos marks]; rfl, rfl⟩
  | minus =>
    exact ⟨step (step ⟨place, mark :: '-' :: first :: others⟩ ('-' :: first :: others)) (first :: others),
      by simp only [Json.readExponent, if_pos marks]; rfl, rfl⟩

theorem SpellsExponent.readExponent {exponent : Option Exponent} {text rest : List Char}
    (spells : SpellsExponent exponent text rest) {cursor : Cursor} (here : cursor.rest = text)
    (ends : EndsNumeral rest) :
    ∃ exponent' next, readExponent cursor = .ok (exponent', next) ∧
      exponent'.map Exponent.unplaced = exponent ∧ next.rest = rest := by
  obtain ⟨place, text⟩ := cursor
  subst here
  cases spells with
  | absent =>
    refine ⟨none, ⟨place, text⟩, ?_, rfl, rfl⟩
    cases text with
    | nil => rfl
    | cons letter behind =>
      obtain ⟨-, -, notSmall, notCapital⟩ := ends letter behind rfl
      simp [Json.readExponent, notSmall, notCapital]
  | @present mark negative digits text rest marks signed someDigit areDigits =>
    have ended : NoDigit rest := fun letter behind same => (ends letter behind same).1
    obtain ⟨first, others, rfl⟩ := List.exists_cons_of_ne_nil someDigit
    obtain ⟨cursor, passed, here⟩ := signed.readExponent (areDigits first (by simp)) marks place
    obtain ⟨next, taken, left⟩ := takeDigits_of_rest_eq cursor here areDigits ended
    refine ⟨some ⟨negative, first :: others, cursor.place⟩, next, ?_, rfl, left⟩
    simp only [passed, exponentFrom, taken]

/-- Before an exponent no fraction goes on. -/
theorem SpellsExponent.ends {exponent : Option Exponent} {text rest : List Char}
    (spells : SpellsExponent exponent text rest) (ends : EndsNumeral rest) :
    NoDigit text ∧ ∀ behind, text ≠ '.' :: behind := by
  cases spells with
  | absent =>
    exact ⟨fun letter behind same => (ends letter behind same).1,
      fun behind same => (ends '.' behind same).2.1 rfl⟩
  | present marks signed someDigit areDigits =>
    rcases marks with rfl | rfl
    · exact ⟨noDigit_cons rfl _, fun behind => by simp⟩
    · exact ⟨noDigit_cons rfl _, fun behind => by simp⟩

/-- Before a fraction no digit goes on. -/
theorem SpellsFraction.noDigit {fraction : Option (List Char)} {text rest : List Char}
    (spells : SpellsFraction fraction text rest) (ended : NoDigit rest) : NoDigit text := by
  cases spells with
  | absent => exact ended
  | present someDigit areDigits => exact noDigit_cons rfl _

theorem IsWhole.exists_cons {digits : List Char} (isWhole : IsWhole digits) :
    ∃ first others, digits = first :: others ∧ first.isDigit = true := by
  cases isWhole with
  | zero => exact ⟨'0', [], rfl, rfl⟩
  | @long first others notZero areDigits => exact ⟨first, others, rfl, areDigits first (by simp)⟩

/-- Passes the sign of a numeral. -/
def passMinus (cursor : Cursor) : Bool × Cursor :=
  match cursor.rest with
  | '-' :: rest => (true, step cursor rest)
  | _ => (false, cursor)

/-- Behind the sign, the parts of a numeral are read one after the other. -/
theorem readNumeral_eq (cursor : Cursor) : readNumeral cursor = (do
    let (digits, cursor₁) ← readWhole (passMinus cursor).2
    let (fraction, cursor₂) ← readFraction cursor₁
    let (exponent, cursor₃) ← readExponent cursor₂
    pure (⟨(passMinus cursor).1, digits, fraction, exponent⟩, cursor₃)) := by
  unfold readNumeral passMinus
  cases cursor.rest with
  | nil => rfl
  | cons letter behind => by_cases minus : letter = '-' <;> simp [minus]

/-- The sign of a numeral is passed. -/
theorem SpellsMinus.passMinus {negative : Bool} {text others : List Char} {first : Char}
    (signed : SpellsMinus negative text (first :: others)) (isDigit : first.isDigit = true) {cursor : Cursor}
    (here : cursor.rest = text) :
    (passMinus cursor).1 = negative ∧ (passMinus cursor).2.rest = first :: others := by
  obtain ⟨place, text⟩ := cursor
  subst here
  cases signed with
  | absent =>
    have notMinus : first ≠ '-' := by
      rintro rfl
      cases isDigit
    simp [Json.passMinus, notMinus]
  | minus => exact ⟨rfl, rfl⟩

/-- What was passed is the sign of a numeral. -/
theorem spellsMinus_passMinus (cursor : Cursor) :
    SpellsMinus (passMinus cursor).1 cursor.rest (passMinus cursor).2.rest := by
  unfold passMinus
  split
  · rename_i rest here
    exact here ▸ .minus
  · exact .absent

/-- **A numeral that is spelled is read**, where no numeral goes on behind it. -/
theorem SpellsNumeral.readNumeral {numeral : Numeral} {text rest : List Char}
    (spells : SpellsNumeral numeral text rest) {cursor : Cursor} (here : cursor.rest = text)
    (ends : EndsNumeral rest) :
    ∃ numeral' next, readNumeral cursor = .ok (numeral', next) ∧ numeral'.unplaced = numeral ∧
      next.rest = rest := by
  cases spells with
  | @intro negative digits _ _ _ _ fraction exponent signed isWhole spellsFraction spellsExponent =>
  obtain ⟨ended, noPoint⟩ := spellsExponent.ends ends
  obtain ⟨first, others, rfl, isDigit⟩ := isWhole.exists_cons
  obtain ⟨passed, here₁⟩ := signed.passMinus isDigit here
  obtain ⟨cursor₂, reads₂, here₂⟩ := isWhole.readWhole here₁ (spellsFraction.noDigit ended)
  obtain ⟨cursor₃, reads₃, here₃⟩ := spellsFraction.readFraction here₂ ended noPoint
  obtain ⟨exponent', cursor₄, reads₄, unplaced, here₄⟩ := spellsExponent.readExponent here₃ ends
  refine ⟨⟨negative, first :: others, fraction, exponent'⟩, cursor₄, ?_, ?_, here₄⟩
  · rw [readNumeral_eq, reads₂, passed]
    simp only [reads₃, reads₄, bind, Except.bind, pure, Except.pure]
  · simp only [Numeral.unplaced, unplaced]

/-! ### What was read -/

theorem readWhole_cases {cursor next : Cursor} {digits : List Char}
    (reads : readWhole cursor = .ok (digits, next)) :
    cursor.rest = digits ++ next.rest ∧ IsWhole digits := by
  unfold readWhole at reads
  split at reads
  · cases reads
  · rename_i rest here
    dsimp only at reads
    split at reads
    · split at reads
      · cases reads
      · cases reads
        exact ⟨here, .zero⟩
    · cases reads
      exact ⟨here, .zero⟩
  · rename_i letter rest notZero here
    split at reads
    · rename_i isDigit
      obtain ⟨same, areDigits⟩ := takeDigits_eq (Except.ok.inj reads)
      refine ⟨same, ?_⟩
      cases digits with
      | nil =>
        obtain ⟨taken, -⟩ := Prod.mk.inj (Except.ok.inj reads)
        rw [here, List.takeWhile_cons_of_pos isDigit] at taken
        cases taken
      | cons first others =>
        rw [here, List.cons_append] at same
        obtain ⟨rfl, -⟩ := List.cons.inj same
        exact .long (fun isZero => notZero isZero) areDigits
    · cases reads

theorem readFraction_cases {cursor next : Cursor} {fraction : Option (List Char)}
    (reads : readFraction cursor = .ok (fraction, next)) :
    SpellsFraction fraction cursor.rest next.rest := by
  unfold readFraction at reads
  split at reads
  · rename_i rest here
    dsimp only at reads
    split at reads
    · split at reads <;> cases reads
    · rename_i digits beyond notEmpty taken
      cases reads
      obtain ⟨same, areDigits⟩ := takeDigits_eq taken
      rw [here, show rest = digits ++ next.rest from same]
      exact .present (fun empty => notEmpty empty) areDigits
  · cases reads
    exact .absent

theorem exponentFrom_cases {cursor next : Cursor} {negative : Bool} {exponent : Option Exponent}
    (reads : exponentFrom negative cursor = .ok (exponent, next)) :
    ∃ digits, exponent = some ⟨negative, digits, cursor.place⟩ ∧ cursor.rest = digits ++ next.rest ∧
      digits ≠ [] ∧ ∀ letter ∈ digits, letter.isDigit = true := by
  unfold exponentFrom at reads
  split at reads
  · split at reads <;> cases reads
  · rename_i digits beyond notEmpty taken
    cases reads
    obtain ⟨same, areDigits⟩ := takeDigits_eq taken
    exact ⟨digits, rfl, same, fun empty => notEmpty empty, areDigits⟩

theorem readExponent_cases {cursor next : Cursor} {exponent : Option Exponent}
    (reads : readExponent cursor = .ok (exponent, next)) :
    SpellsExponent (exponent.map Exponent.unplaced) cursor.rest next.rest := by
  have spelled : ∀ {mark : Char} {negative : Bool} {text : List Char} (middle : Cursor),
      mark = 'e' ∨ mark = 'E' → SpellsSign negative text middle.rest →
      exponentFrom negative middle = .ok (exponent, next) →
      SpellsExponent (exponent.map Exponent.unplaced) (mark :: text) next.rest := by
    intro mark negative text middle marks signed reads
    obtain ⟨digits, rfl, same, someDigit, areDigits⟩ := exponentFrom_cases reads
    exact .present marks (same ▸ signed) someDigit areDigits
  unfold readExponent at reads
  dsimp only at reads
  split at reads
  · rename_i letter rest here
    rw [here]
    split at reads
    · rename_i marks
      split at reads
      · exact spelled _ marks .plus reads
      · exact spelled _ marks .minus reads
      · exact spelled (step cursor rest) marks .absent reads
    · cases reads
      rw [here]
      exact .absent
  · cases reads
    exact .absent

/-- **What is read as a numeral is spelled.** -/
theorem spellsNumeral_of_readNumeral {cursor next : Cursor} {numeral : Numeral}
    (reads : readNumeral cursor = .ok (numeral, next)) :
    SpellsNumeral numeral.unplaced cursor.rest next.rest := by
  rw [readNumeral_eq] at reads
  obtain ⟨⟨digits, cursor₂⟩, reads₂, reads⟩ := exists_of_bind_eq_ok reads
  obtain ⟨⟨fraction, cursor₃⟩, reads₃, reads⟩ := exists_of_bind_eq_ok reads
  obtain ⟨⟨exponent, cursor₄⟩, reads₄, reads⟩ := exists_of_bind_eq_ok reads
  cases reads
  obtain ⟨here₂, isWhole⟩ := readWhole_cases reads₂
  exact .intro (here₂ ▸ spellsMinus_passMinus cursor) isWhole (readFraction_cases reads₃) (readExponent_cases reads₄)

/-! ### Whole numbers -/

/-- The digits of a natural number have no leading zero. -/
theorem isWhole_toDigits (number : Nat) : IsWhole (Nat.toDigits 10 number) := by
  have head : 0 < number → ∃ first others, Nat.toDigits 10 number = first :: others ∧ first ≠ '0' := by
    induction number using Nat.strongRecOn with
    | ind number ih =>
      intro positive
      by_cases small : number < 10
      · refine ⟨number.digitChar, [], Nat.toDigits_of_lt_base small, fun isZero => ?_⟩
        have notZero : ∀ number < 10, 0 < number → number.digitChar ≠ '0' := by decide
        exact notZero number small positive isZero
      · obtain ⟨first, others, same, notZero⟩ := ih (number / 10) (by omega) (by omega)
        refine ⟨first, others ++ [(number % 10).digitChar], ?_, notZero⟩
        rw [Nat.toDigits_of_base_le (by decide) (by omega), same, List.cons_append]
  cases number with
  | zero => exact .zero
  | succ number =>
    obtain ⟨first, others, same, notZero⟩ := head (Nat.succ_pos number)
    rw [same]
    exact .long notZero fun letter member =>
      Nat.isDigit_of_mem_toDigits (by decide) (by decide) (same ▸ member)

/-- Digits do not make a number smaller. -/
theorem le_ofDigitChars (number : Nat) (digits : List Char) :
    number ≤ Nat.ofDigitChars 10 digits number := by
  induction digits generalizing number with
  | nil => exact Nat.le_refl number
  | cons letter rest ih =>
    refine Nat.le_trans ?_ (ih (10 * number + (letter.toNat - '0'.toNat)))
    omega

/-- All digits are taken if their number is one of 64 bits. -/
theorem absorb_eq_of_le {number : Nat} {digits : List Char}
    (bounded : Nat.ofDigitChars 10 digits number ≤ largestWord) :
    absorb number digits = (Nat.ofDigitChars 10 digits number, []) := by
  induction digits generalizing number with
  | nil => rfl
  | cons letter rest ih =>
    have fits : 10 * number + digitOf letter ≤ largestWord :=
      Nat.le_trans (le_ofDigitChars _ rest) bounded
    unfold absorb
    dsimp only
    rw [if_pos fits]
    exact ih bounded

namespace Numeral

/-- The numeral of a whole number. -/
def ofInt (number : Int) : Numeral := ⟨decide (number < 0), Nat.toDigits 10 number.natAbs, none, none⟩

/-- A whole number of 64 bits is worth what its numeral says. -/
theorem worth_ofInt {number : Int} (lower : -9223372036854775808 ≤ number)
    (upper : number ≤ 18446744073709551615) : (ofInt number).worth = some (.integer number) := by
  have absorbed : absorb 0 (Nat.toDigits 10 number.natAbs) = (number.natAbs, []) := by
    have same : Nat.ofDigitChars 10 (Nat.toDigits 10 number.natAbs) 0 = number.natAbs :=
      Nat.ofDigitChars_toDigits (by decide) (by decide)
    rw [absorb_eq_of_le (by rw [same, largestWord]; omega), same]
  unfold worth ofInt value
  dsimp only
  rw [absorbed]
  by_cases negative : number < 0
  · have inside : ¬ (number.natAbs = 0 ∨ 9223372036854775808 < number.natAbs) := by omega
    have same : -(number.natAbs : Int) = number := by omega
    simp only [negative, decide_true, Bool.not_true, Bool.false_eq_true, if_false, if_neg inside, same,
      Except.toOption]
  · simp [negative, Except.toOption]
    omega

end Numeral

/-- The text of a whole number is its numeral. -/
theorem spellsNumeral_toString (number : Int) (rest : List Char) :
    SpellsNumeral (.ofInt number) ((toString number).toList ++ rest) rest := by
  cases number with
  | ofNat number =>
    have text : (toString (Int.ofNat number)).toList = Nat.toDigits 10 number := by
      rw [Int.toString_eq_repr]
      exact Nat.toList_repr
    rw [text]
    exact .intro .absent (isWhole_toDigits number) .absent .absent
  | negSucc number =>
    have text : (toString (Int.negSucc number)).toList = '-' :: Nat.toDigits 10 (number + 1) := by
      rw [Int.toString_eq_repr]
      show ("-" ++ (number + 1).repr).toList = _
      rw [String.toList_append, Nat.toList_repr]
      rfl
    rw [text, Numeral.ofInt, decide_eq_true (Int.negSucc_lt_zero number)]
    exact .intro .minus (isWhole_toDigits (number + 1)) .absent .absent

end SecretSource.Json
