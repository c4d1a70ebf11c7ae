/-
**How JSON is spelled.**

`Spells` takes a value off the start of a text: what the value is, and what is left behind it. The texts that
may stand between the parts of a value are a parameter: any white space, or none at all. Every text that is
read to its end spells one tree, and what a text spells is read from it.

* `Spells.readNode`, `exists_spells_of_readNode`: a value is read exactly if it is spelled.
* `SpellsDocument.exists_root`, `exists_spellsDocument`: the same for whole texts.
* `SpellsDocument.unique`: a text spells one tree.
-/

import Mathlib.Data.List.DropRight
import SecretSource.Proofs.Json.Numerals
import SecretSource.Proofs.Json.Quoted
import SecretSource.Proofs.Json.Tree

namespace SecretSource.Json

/-- White space. -/
def IsBlank (text : List Char) : Prop := ∀ letter ∈ text, Cursor.isBlank letter = true

mutual

/-- A text starts with a value; the second text is what follows it. `gap` says what may stand between the
parts of a value. -/
inductive Spells (gap : List Char → Prop) : Tree → List Char → List Char → Prop where
  | null {rest : List Char} : Spells gap .null ('n' :: 'u' :: 'l' :: 'l' :: rest) rest
  | yes {rest : List Char} : Spells gap (.truth true) ('t' :: 'r' :: 'u' :: 'e' :: rest) rest
  | no {rest : List Char} : Spells gap (.truth false) ('f' :: 'a' :: 'l' :: 's' :: 'e' :: rest) rest
  | number {numeral : Numeral} {text rest : List Char} (spells : SpellsNumeral numeral text rest) :
      Spells gap (.number numeral.worth) text rest
  | text {value : Option String} {text rest : List Char} (spells : SpellsText value text rest) :
      Spells gap (.text value) ('"' :: text) rest
  | noItems {blanks rest : List Char} (blank : gap blanks) :
      Spells gap (.list []) ('[' :: (blanks ++ ']' :: rest)) rest
  | list {blanks text rest : List Char} {items : List Tree} (blank : gap blanks)
      (spells : SpellsItems gap items text rest) : Spells gap (.list items) ('[' :: (blanks ++ text)) rest
  | noMembers {blanks rest : List Char} (blank : gap blanks) :
      Spells gap (.object []) ('\x7b' :: (blanks ++ '\x7d' :: rest)) rest
  | object {blanks text rest : List Char} {rows : List (Option String × Tree)} (blank : gap blanks)
      (spells : SpellsMembers gap rows text rest) :
      Spells gap (.object rows) ('\x7b' :: (blanks ++ text)) rest

/-- A text starts with the items of a list and the closing bracket. -/
inductive SpellsItems (gap : List Char → Prop) : List Tree → List Char → List Char → Prop where
  | last {item : Tree} {text blanks rest : List Char} (spells : Spells gap item text (blanks ++ ']' :: rest))
      (blank : gap blanks) : SpellsItems gap [item] text rest
  | more {item : Tree} {items : List Tree} {text text' blanks blanks' rest : List Char}
      (spells : Spells gap item text (blanks ++ ',' :: (blanks' ++ text'))) (blank : gap blanks)
      (blank' : gap blanks') (behind : SpellsItems gap items text' rest) :
      SpellsItems gap (item :: items) text rest

/-- A text starts with a member of an object: its name and its value. -/
inductive SpellsMember (gap : List Char → Prop) :
    Option String → Tree → List Char → List Char → Prop where
  | intro {name : Option String} {value : Tree} {text text' blanks blanks' rest : List Char}
      (named : SpellsText name text (blanks ++ ':' :: (blanks' ++ text'))) (blank : gap blanks)
      (blank' : gap blanks') (spells : Spells gap value text' rest) :
      SpellsMember gap name value ('"' :: text) rest

/-- A text starts with the members of an object and the closing bracket. -/
inductive SpellsMembers (gap : List Char → Prop) :
    List (Option String × Tree) → List Char → List Char → Prop where
  | last {name : Option String} {value : Tree} {text blanks rest : List Char}
      (spells : SpellsMember gap name value text (blanks ++ '\x7d' :: rest)) (blank : gap blanks) :
      SpellsMembers gap [(name, value)] text rest
  | more {name : Option String} {value : Tree} {rows : List (Option String × Tree)}
      {text text' blanks blanks' rest : List Char}
      (spells : SpellsMember gap name value text (blanks ++ ',' :: (blanks' ++ text'))) (blank : gap blanks)
      (blank' : gap blanks') (behind : SpellsMembers gap rows text' rest) :
      SpellsMembers gap ((name, value) :: rows) text rest

end

/-- A whole text spells a value, with nothing but white space around it. -/
def SpellsDocument (tree : Tree) (text : String) : Prop :=
  ∃ before behind value, IsBlank before ∧ IsBlank behind ∧ text.toList = before ++ value ∧
    Spells IsBlank tree value behind

mutual

/-- A value that is spelled with one kind of gaps is spelled with any wider kind. -/
theorem Spells.mono {gap gap' : List Char → Prop} (wider : ∀ text, gap text → gap' text) {tree : Tree}
    {text rest : List Char} (spells : Spells gap tree text rest) : Spells gap' tree text rest := by
  cases spells with
  | null => exact .null
  | yes => exact .yes
  | no => exact .no
  | number spells => exact .number spells
  | text spells => exact .text spells
  | noItems blank => exact .noItems (wider _ blank)
  | list blank spells => exact .list (wider _ blank) (spells.mono wider)
  | noMembers blank => exact .noMembers (wider _ blank)
  | object blank spells => exact .object (wider _ blank) (spells.mono wider)
termination_by (sizeOf tree, 0)

theorem SpellsItems.mono {gap gap' : List Char → Prop} (wider : ∀ text, gap text → gap' text)
    {items : List Tree} {text rest : List Char} (spells : SpellsItems gap items text rest) :
    SpellsItems gap' items text rest := by
  cases spells with
  | last spells blank => exact .last (spells.mono wider) (wider _ blank)
  | more spells blank blank' behind =>
    exact .more (spells.mono wider) (wider _ blank) (wider _ blank') (behind.mono wider)
termination_by (sizeOf items, 0)

theorem SpellsMember.mono {gap gap' : List Char → Prop} (wider : ∀ text, gap text → gap' text)
    {name : Option String} {value : Tree} {text rest : List Char}
    (spells : SpellsMember gap name value text rest) : SpellsMember gap' name value text rest := by
  match spells with
  | .intro named blank blank' spells => exact .intro named (wider _ blank) (wider _ blank') (spells.mono wider)
termination_by (sizeOf value, 1)

theorem SpellsMembers.mono {gap gap' : List Char → Prop} (wider : ∀ text, gap text → gap' text)
    {rows : List (Option String × Tree)} {text rest : List Char} (spells : SpellsMembers gap rows text rest) :
    SpellsMembers gap' rows text rest := by
  cases spells with
  | last spells blank => exact .last (spells.mono wider) (wider _ blank)
  | more spells blank blank' behind =>
    exact .more (spells.mono wider) (wider _ blank) (wider _ blank') (behind.mono wider)
termination_by (sizeOf rows, 0)

end

/-! ### Where a value starts -/

/-- A text that starts with no white space. -/
def NoBlank (text : List Char) : Prop :=
  ∀ letter rest, text = letter :: rest → Cursor.isBlank letter = false

theorem noBlank_cons {letter : Char} (other : Cursor.isBlank letter = false) (rest : List Char) :
    NoBlank (letter :: rest) := by
  intro first behind same
  cases same
  exact other

/-- White space is passed up to the first character that is none. -/
theorem Cursor.rest_blanks {cursor : Cursor} {blanks text : List Char} (here : cursor.rest = blanks ++ text)
    (blank : IsBlank blanks) (noBlank : NoBlank text) : cursor.blanks.rest = text := by
  have nothing : text.dropWhile Cursor.isBlank = text := by
    cases text with
    | nil => rfl
    | cons letter behind => exact List.dropWhile_cons_of_neg (by simp [noBlank letter behind rfl])
  rw [Cursor.blanks, Cursor.rest_passWhile, here, List.dropWhile_append_of_pos blank, nothing]

theorem Cursor.rest_blanks_of_noBlank {cursor : Cursor} {text : List Char} (here : cursor.rest = text)
    (noBlank : NoBlank text) : cursor.blanks.rest = text :=
  rest_blanks (List.nil_append text ▸ here) (List.forall_mem_nil _) noBlank

/-- A digit is neither white space nor a bracket. -/
theorem of_isDigit {letter : Char} (isDigit : letter.isDigit = true) :
    Cursor.isBlank letter = false ∧ letter ≠ ']' := by
  refine ⟨?_, ?_⟩
  · by_contra isBlank
    simp only [Cursor.isBlank, Bool.not_eq_false, Bool.or_eq_true, beq_iff_eq] at isBlank
    rcases isBlank with ((rfl | rfl) | rfl) | rfl <;> cases isDigit
  · rintro rfl
    cases isDigit

/-- A numeral starts with a minus or a digit. -/
theorem SpellsNumeral.exists_cons {numeral : Numeral} {text rest : List Char}
    (spells : SpellsNumeral numeral text rest) :
    ∃ letter behind, text = letter :: behind ∧ (letter = '-' ∨ letter.isDigit = true) := by
  cases spells with
  | intro signed isWhole spellsFraction spellsExponent =>
    cases signed with
    | absent =>
      obtain ⟨first, others, rfl, isDigit⟩ := isWhole.exists_cons
      exact ⟨first, _, rfl, Or.inr isDigit⟩
    | minus => exact ⟨'-', _, rfl, Or.inl rfl⟩

/-- A value starts with neither white space nor the closing bracket of a list. -/
theorem Spells.exists_cons {gap : List Char → Prop} {tree : Tree} {text rest : List Char}
    (spells : Spells gap tree text rest) :
    ∃ letter behind, text = letter :: behind ∧ Cursor.isBlank letter = false ∧ letter ≠ ']' := by
  cases spells with
  | null => exact ⟨'n', _, rfl, rfl, by decide⟩
  | yes => exact ⟨'t', _, rfl, rfl, by decide⟩
  | no => exact ⟨'f', _, rfl, rfl, by decide⟩
  | number spells =>
    obtain ⟨letter, behind, rfl, rfl | isDigit⟩ := spells.exists_cons
    · exact ⟨'-', behind, rfl, rfl, by decide⟩
    · exact ⟨letter, behind, rfl, of_isDigit isDigit⟩
  | text spells => exact ⟨'"', _, rfl, rfl, by decide⟩
  | noItems blank => exact ⟨'[', _, rfl, rfl, by decide⟩
  | list blank spells => exact ⟨'[', _, rfl, rfl, by decide⟩
  | noMembers blank => exact ⟨'\x7b', _, rfl, rfl, by decide⟩
  | object blank spells => exact ⟨'\x7b', _, rfl, rfl, by decide⟩

theorem Spells.noBlank {gap : List Char → Prop} {tree : Tree} {text rest : List Char}
    (spells : Spells gap tree text rest) : NoBlank text := by
  obtain ⟨letter, behind, rfl, other, -⟩ := spells.exists_cons
  exact noBlank_cons other behind

theorem SpellsItems.exists_cons {gap : List Char → Prop} {items : List Tree} {text rest : List Char}
    (spells : SpellsItems gap items text rest) :
    ∃ letter behind, text = letter :: behind ∧ Cursor.isBlank letter = false ∧ letter ≠ ']' := by
  cases spells with
  | last spells _ => exact spells.exists_cons
  | more spells _ _ _ => exact spells.exists_cons

/-- Members start with the quotation mark of a name. -/
theorem SpellsMembers.exists_cons {gap : List Char → Prop} {rows : List (Option String × Tree)}
    {text rest : List Char} (spells : SpellsMembers gap rows text rest) : ∃ behind, text = '"' :: behind := by
  cases spells with
  | last spells _ =>
    cases spells with
    | intro => exact ⟨_, rfl⟩
  | more spells _ _ _ =>
    cases spells with
    | intro => exact ⟨_, rfl⟩

/-- Where white space and then a sign follow, no numeral goes on. -/
theorem endsNumeral_append {blanks rest : List Char} {sign : Char} (blank : IsBlank blanks)
    (isSign : sign = ']' ∨ sign = ',' ∨ sign = '\x7d') : EndsNumeral (blanks ++ sign :: rest) := by
  cases blanks with
  | nil =>
    intro letter behind same
    cases same
    rcases isSign with rfl | rfl | rfl <;> decide
  | cons first others =>
    intro letter behind same
    cases same
    have isBlank := blank first (by simp)
    simp only [Cursor.isBlank, Bool.or_eq_true, beq_iff_eq] at isBlank
    rcases isBlank with ((rfl | rfl) | rfl) | rfl <;> decide

theorem IsBlank.endsNumeral {blanks : List Char} (blank : IsBlank blanks) : EndsNumeral blanks := by
  intro letter behind same
  subst same
  have isBlank := blank letter (by simp)
  simp only [Cursor.isBlank, Bool.or_eq_true, beq_iff_eq] at isBlank
  rcases isBlank with ((rfl | rfl) | rfl) | rfl <;> decide

/-! ### How much a value takes -/

theorem SpellsFraction.length_le {fraction : Option (List Char)} {text rest : List Char}
    (spells : SpellsFraction fraction text rest) : rest.length ≤ text.length := by
  cases spells with
  | absent => exact Nat.le_refl _
  | present => simp; omega

theorem SpellsExponent.length_le {exponent : Option Exponent} {text rest : List Char}
    (spells : SpellsExponent exponent text rest) : rest.length ≤ text.length := by
  cases spells with
  | absent => exact Nat.le_refl _
  | present _ signed _ _ => cases signed <;> simp <;> omega

theorem SpellsNumeral.length_lt {numeral : Numeral} {text rest : List Char}
    (spells : SpellsNumeral numeral text rest) : rest.length < text.length := by
  cases spells with
  | intro signed isWhole spellsFraction spellsExponent =>
    obtain ⟨first, others, rfl, -⟩ := isWhole.exists_cons
    have fraction := spellsFraction.length_le
    have exponent := spellsExponent.length_le
    cases signed <;> simp <;> omega

theorem Passes.length_lt {text rest : List Char} (passes : Passes text rest) : rest.length < text.length := by
  induction passes with
  | closed => simp
  | plain _ _ ih => simp; omega
  | escape _ _ ih => simp; omega
  | digits digits _ ih =>
    have shorter := digits.length_lt
    simp
    omega

mutual

/-- What follows a value is shorter than the value with what follows it. -/
theorem Spells.length_lt {gap : List Char → Prop} {tree : Tree} {text rest : List Char}
    (spells : Spells gap tree text rest) : rest.length < text.length := by
  cases spells with
  | null => simp; omega
  | yes => simp; omega
  | no => simp; omega
  | number spells => exact spells.length_lt
  | text spells =>
    have shorter := spells.passes.length_lt
    simp
    omega
  | noItems _ => simp; omega
  | list _ spells =>
    have shorter := spells.length_lt
    simp
    omega
  | noMembers _ => simp; omega
  | object _ spells =>
    have shorter := spells.length_lt
    simp
    omega
termination_by (sizeOf tree, 0)

theorem SpellsItems.length_lt {gap : List Char → Prop} {items : List Tree} {text rest : List Char}
    (spells : SpellsItems gap items text rest) : rest.length < text.length := by
  cases spells with
  | last spells _ =>
    have shorter := spells.length_lt
    simp at shorter
    omega
  | more spells _ _ behind =>
    have shorter := spells.length_lt
    have shorter' := behind.length_lt
    simp at shorter
    omega
termination_by (sizeOf items, 0)

theorem SpellsMember.length_lt {gap : List Char → Prop} {name : Option String} {value : Tree}
    {text rest : List Char} (spells : SpellsMember gap name value text rest) : rest.length < text.length := by
  match spells with
  | .intro named _ _ spells =>
    have shorter := named.passes.length_lt
    have shorter' := spells.length_lt
    simp at shorter ⊢
    omega
termination_by (sizeOf value, 1)

theorem SpellsMembers.length_lt {gap : List Char → Prop} {rows : List (Option String × Tree)}
    {text rest : List Char} (spells : SpellsMembers gap rows text rest) : rest.length < text.length := by
  cases spells with
  | last spells _ =>
    have shorter := spells.length_lt
    simp at shorter
    omega
  | more spells _ _ behind =>
    have shorter := spells.length_lt
    have shorter' := behind.length_lt
    simp at shorter
    omega
termination_by (sizeOf rows, 0)

end

/-! ### Reading what is spelled -/

/-- A reader has read a value to its end and stands before a text. -/
def Took (view : ν → Option τ) (taken : ν × Except Break Cursor) (value : τ) (rest : List Char) : Prop :=
  view taken.1 = some value ∧ ∃ next, taken.2 = .ok next ∧ next.rest = rest

/-- A quoted text that is spelled is read. -/
theorem SpellsText.textNode {value : Option String} {text rest : List Char}
    (spells : SpellsText value text rest) {cursor : Cursor} (here : cursor.rest = text) :
    Took Node.tree? (textNode cursor) (.text value) rest := by
  obtain ⟨place, text⟩ := cursor
  subst here
  obtain ⟨stop, skips⟩ := spells.passes.skipFrom place
  have skips' : skipText ⟨place, text⟩ = .ok ⟨stop, rest⟩ := skips
  unfold Json.textNode
  simp only [skips']
  exact ⟨by rw [Node.tree?, spells.readText], _, rfl, rfl⟩

/-- A number that is spelled is read. -/
theorem SpellsNumeral.readNode {numeral : Numeral} {text rest : List Char}
    (spells : SpellsNumeral numeral text rest) (ends : EndsNumeral rest) (fuel : Nat) {cursor : Cursor}
    (here : cursor.blanks.rest = text) :
    Took Node.tree? (readNode (fuel + 1) cursor) (.number numeral.worth) rest := by
  obtain ⟨letter, behind, rfl, first⟩ := spells.exists_cons
  obtain ⟨numeral', next, reads, rfl, left⟩ := spells.readNumeral here ends
  have isNumber : Json.readNode (fuel + 1) cursor = numberNode cursor.blanks := by
    unfold Json.readNode
    simp only [here]
    -- A numeral starts with none of the characters that other values start with.
    split
    all_goals first
      | exact absurd first (by decide)
      | exact if_pos first
  rw [isNumber, numberNode, reads]
  exact ⟨by rw [Node.tree?, Numeral.toOption_value], next, rfl, left⟩

mutual

/-- **A value that is spelled is read.** -/
theorem Spells.readNode {tree : Tree} {text rest : List Char} (spells : Spells IsBlank tree text rest)
    (ends : EndsNumeral rest) (fuel : Nat) (enough : 3 * text.length ≤ fuel) {cursor : Cursor}
    (here : cursor.blanks.rest = text) : Took Node.tree? (readNode fuel cursor) tree rest := by
  obtain ⟨fuel, rfl⟩ : ∃ less, fuel = less + 1 := by
    obtain ⟨letter, behind, rfl, -⟩ := spells.exists_cons
    exact ⟨fuel - 1, by simp at enough; omega⟩
  cases spells with
  | number spells => exact spells.readNode ends fuel here
  | null =>
    unfold Json.readNode
    simp only [here]
    exact ⟨rfl, _, rfl, rfl⟩
  | yes =>
    unfold Json.readNode
    simp only [here]
    exact ⟨rfl, _, rfl, rfl⟩
  | no =>
    unfold Json.readNode
    simp only [here]
    exact ⟨rfl, _, rfl, rfl⟩
  | text spells =>
    unfold Json.readNode
    simp only [here]
    exact spells.textNode rfl
  | @noItems blanks rest blank =>
    obtain ⟨fuel, rfl⟩ : ∃ less, fuel = less + 1 := ⟨fuel - 1, by simp at enough; omega⟩
    have ended : (step cursor.blanks (blanks ++ ']' :: rest)).blanks.rest = ']' :: rest :=
      Cursor.rest_blanks rfl blank (noBlank_cons rfl _)
    unfold Json.readNode
    simp only [here]
    unfold readItems
    simp only [ended]
    exact ⟨rfl, _, rfl, rfl⟩
  | @list blanks text rest items blank spells =>
    obtain ⟨fuel, rfl⟩ : ∃ less, fuel = less + 1 := ⟨fuel - 1, by simp at enough; omega⟩
    obtain ⟨letter, behind, rfl, other, notEnd⟩ := spells.exists_cons
    have first : (step cursor.blanks (blanks ++ letter :: behind)).blanks.rest = letter :: behind :=
      Cursor.rest_blanks rfl blank (noBlank_cons other behind)
    obtain ⟨areItems, next, reads, left⟩ := spells.readItem fuel (by simp at enough ⊢; omega) first
    unfold Json.readNode
    simp only [here]
    unfold readItems
    simp only [first]
    split
    · rename_i empty
      cases empty
    · rename_i ending
      cases ending
      exact absurd rfl notEnd
    · exact ⟨by rw [Node.tree?, areItems]; rfl, next, reads, left⟩
  | @noMembers blanks rest blank =>
    obtain ⟨fuel, rfl⟩ : ∃ less, fuel = less + 1 := ⟨fuel - 1, by simp at enough; omega⟩
    have ended : (step cursor.blanks (blanks ++ '\x7d' :: rest)).blanks.rest = '\x7d' :: rest :=
      Cursor.rest_blanks rfl blank (noBlank_cons rfl _)
    unfold Json.readNode
    simp only [here]
    unfold readMembers
    simp only [ended]
    exact ⟨rfl, _, rfl, rfl⟩
  | @object blanks text rest rows blank spells =>
    obtain ⟨fuel, rfl⟩ : ∃ less, fuel = less + 1 := ⟨fuel - 1, by simp at enough; omega⟩
    obtain ⟨behind, rfl⟩ := spells.exists_cons
    have first : (step cursor.blanks (blanks ++ '"' :: behind)).blanks.rest = '"' :: behind :=
      Cursor.rest_blanks rfl blank (noBlank_cons rfl _)
    unfold Json.readNode
    simp only [here]
    unfold readMembers
    simp only [first]
    obtain ⟨areRows, next, reads, left⟩ := spells.readMember fuel (by simp at enough ⊢; omega)
      (step (step cursor.blanks (blanks ++ '"' :: behind)).blanks behind) rfl
    exact ⟨by rw [Node.tree?, areRows]; rfl, next, reads, left⟩
termination_by (sizeOf tree, 0)

theorem SpellsItems.readItem {items : List Tree} {text rest : List Char}
    (spells : SpellsItems IsBlank items text rest) (fuel : Nat) (enough : 3 * text.length + 1 ≤ fuel)
    {cursor : Cursor} (here : cursor.rest = text) : Took Items.trees? (readItem fuel cursor) items rest := by
  obtain ⟨fuel, rfl⟩ : ∃ less, fuel = less + 1 := ⟨fuel - 1, by omega⟩
  cases spells with
  | @last item text blanks rest spells blank =>
    obtain ⟨isItem, next, reads, left⟩ := spells.readNode (endsNumeral_append blank (Or.inl rfl))
      fuel (by omega) (Cursor.rest_blanks_of_noBlank here spells.noBlank)
    have ended : next.blanks.rest = ']' :: rest := Cursor.rest_blanks left blank (noBlank_cons rfl _)
    unfold Json.readItem
    simp only [reads, ended]
    refine ⟨?_, _, rfl, rfl⟩
    rw [Items.trees?, isItem]
    rfl
  | @more item items text text' blanks blanks' rest spells blank blank' behind =>
    obtain ⟨isItem, next, reads, left⟩ := spells.readNode (endsNumeral_append blank (Or.inr (Or.inl rfl)))
      fuel (by omega) (Cursor.rest_blanks_of_noBlank here spells.noBlank)
    have comma : next.blanks.rest = ',' :: (blanks' ++ text') :=
      Cursor.rest_blanks left blank (noBlank_cons rfl _)
    obtain ⟨letter, others, same, other, notEnd⟩ := behind.exists_cons
    have following : (step next.blanks (blanks' ++ text')).blanks.rest = text' :=
      Cursor.rest_blanks rfl blank' (same ▸ noBlank_cons other others)
    have shorter := spells.length_lt
    obtain ⟨areItems, next', reads', left'⟩ := behind.readItem fuel (by simp at shorter; omega) following
    unfold Json.readItem
    simp only [reads, comma]
    split
    · rename_i empty
      rw [following, same] at empty
      cases empty
    · rename_i ending
      rw [following, same] at ending
      cases ending
      exact absurd rfl notEnd
    · refine ⟨?_, next', reads', left'⟩
      rw [Items.trees?, isItem, areItems]
      rfl
termination_by (sizeOf items, 0)

theorem SpellsMember.readNode {name : Option String} {value : Tree} {text rest : List Char}
    (spells : SpellsMember IsBlank name value text rest) (ends : EndsNumeral rest) (fuel : Nat)
    (enough : 3 * text.length ≤ fuel + 3) (cursor : Cursor) (here : '"' :: cursor.rest = text) :
    ((readText cursor).map (·.1)).toOption = name ∧ ∃ middle text', skipText cursor = .ok middle ∧
      middle.blanks.rest = ':' :: text' ∧
      Took Node.tree? (readNode fuel (step middle.blanks text')) value rest := by
  match spells with
  | @SpellsMember.intro _ _ _ text text' blanks blanks' _ named blank blank' spells =>
    obtain ⟨place, _⟩ := cursor
    cases here
    obtain ⟨stop, skips⟩ := named.passes.skipFrom place
    have shorter := named.passes.length_lt
    exact ⟨named.readText place, ⟨stop, _⟩, blanks' ++ text', skips,
      Cursor.rest_blanks rfl blank (noBlank_cons rfl _),
      spells.readNode ends fuel (by simp at shorter enough; omega)
        (Cursor.rest_blanks rfl blank' spells.noBlank)⟩
termination_by (sizeOf value, 1)

theorem SpellsMembers.readMember {rows : List (Option String × Tree)} {text rest : List Char}
    (spells : SpellsMembers IsBlank rows text rest) (fuel : Nat) (enough : 3 * text.length ≤ fuel)
    (cursor : Cursor) (here : '"' :: cursor.rest = text) :
    Took Members.rows? (readMember fuel cursor) rows rest := by
  obtain ⟨fuel, rfl⟩ : ∃ less, fuel = less + 1 := by
    refine ⟨fuel - 1, ?_⟩
    rw [← here] at enough
    simp at enough
    omega
  cases spells with
  | @last name value _ blanks _ spells blank =>
    obtain ⟨isName, middle, text', skips, colon, isValue, next, reads, left⟩ :=
      spells.readNode (endsNumeral_append blank (Or.inr (Or.inr rfl))) fuel (by omega) cursor here
    have ended : next.blanks.rest = '\x7d' :: rest := Cursor.rest_blanks left blank (noBlank_cons rfl _)
    unfold Json.readMember
    simp only [skips, colon, reads, ended]
    refine ⟨?_, _, rfl, rfl⟩
    rw [Members.rows?, isValue, isName]
    rfl
  | @more name value rows _ text' blanks blanks' _ spells blank blank' behind =>
    obtain ⟨isName, middle, text₁, skips, colon, isValue, next, reads, left⟩ :=
      spells.readNode (endsNumeral_append blank (Or.inr (Or.inl rfl))) fuel (by omega) cursor here
    have comma : next.blanks.rest = ',' :: (blanks' ++ text') :=
      Cursor.rest_blanks left blank (noBlank_cons rfl _)
    have shorter := spells.length_lt
    obtain ⟨others, rfl⟩ := behind.exists_cons
    have following : (step next.blanks (blanks' ++ '"' :: others)).blanks.rest = '"' :: others :=
      Cursor.rest_blanks rfl blank' (noBlank_cons rfl _)
    obtain ⟨areRows, next', reads', left'⟩ := behind.readMember fuel (by simp at shorter ⊢; omega)
      (step (step next.blanks (blanks' ++ '"' :: others)).blanks others) rfl
    unfold Json.readMember
    simp only [skips, colon, reads, comma, following]
    refine ⟨?_, next', reads', left'⟩
    rw [Members.rows?, isValue, isName, areRows]
    rfl
termination_by (sizeOf rows, 0)

end

/-! ### What was read -/

/-- White space is passed, and nothing else. -/
theorem Cursor.exists_blanks (cursor : Cursor) :
    ∃ blanks, IsBlank blanks ∧ cursor.rest = blanks ++ cursor.blanks.rest := by
  refine ⟨cursor.rest.takeWhile isBlank, fun letter member => List.mem_takeWhile_imp member, ?_⟩
  rw [Cursor.blanks, Cursor.rest_passWhile, List.takeWhile_append_dropWhile]

theorem Cursor.rest_blanks_blanks (cursor : Cursor) : cursor.blanks.blanks.rest = cursor.blanks.rest := by
  rw [blanks, rest_passWhile, blanks, rest_passWhile, List.dropWhile_idempotent]

theorem readWord_eq_ok {word : List Char} {cursor next : Cursor} (reads : readWord cursor word = .ok next) :
    cursor.rest = word ++ next.rest := by
  induction word generalizing cursor with
  | nil =>
    cases reads
    rfl
  | cons letter word ih =>
    unfold readWord at reads
    split at reads
    · cases reads
    · rename_i found rest here
      split at reads
      · rename_i same
        rw [here, same, List.cons_append, ← ih reads]
        rfl
      · cases reads

theorem wordNode_eq_ok {word : List Char} {value : Place → Node} {cursor next : Cursor} {node : Node}
    (reads : wordNode cursor word value = (node, .ok next)) :
    node = value next.place ∧ cursor.rest = word ++ next.rest := by
  unfold wordNode at reads
  split at reads
  · rename_i taken
    cases reads
    exact ⟨rfl, readWord_eq_ok taken⟩
  · cases reads

/-- A quoted text that was passed spells a value, and this is what a reader of the text finds. -/
theorem exists_spellsText_of_skipText {cursor next : Cursor} (skips : skipText cursor = .ok next) :
    SpellsText ((readText cursor).map (·.1)).toOption cursor.rest next.rest := by
  obtain ⟨value, spells⟩ := (exists_passes_of_skipFrom skips).exists_spellsText
  rw [spells.readText cursor.place]
  exact spells

theorem textNode_eq_ok {cursor next : Cursor} {node : Node} (reads : textNode cursor = (node, .ok next)) :
    ∃ value, node.tree? = some (.text value) ∧ SpellsText value cursor.rest next.rest := by
  unfold textNode at reads
  dsimp only at reads
  split at reads
  · rename_i skips
    cases reads
    exact ⟨_, rfl, exists_spellsText_of_skipText skips⟩
  · cases reads

theorem numberNode_eq_ok {cursor next : Cursor} {node : Node} (reads : numberNode cursor = (node, .ok next)) :
    ∃ numeral, node.tree? = some (.number (Numeral.worth numeral)) ∧
      SpellsNumeral numeral cursor.rest next.rest := by
  unfold numberNode at reads
  split at reads
  · rename_i numeral next' taken
    cases reads
    exact ⟨numeral.unplaced, by rw [Node.tree?, Numeral.toOption_value],
      spellsNumeral_of_readNumeral taken⟩
  · cases reads

mutual

/-- **A value that is read is spelled.** -/
theorem exists_spells_of_readNode (fuel : Nat) {cursor next : Cursor} {node : Node}
    (reads : readNode fuel cursor = (node, .ok next)) :
    ∃ tree, node.tree? = some tree ∧ Spells IsBlank tree cursor.blanks.rest next.rest := by
  cases fuel with
  | zero => cases reads
  | succ fuel =>
    unfold readNode at reads
    dsimp only at reads
    split at reads
    · cases reads
    · rename_i letter rest here
      rw [here]
      split at reads
      · obtain ⟨rfl, same⟩ := wordNode_eq_ok reads
        exact ⟨.null, rfl, (show rest = _ from same) ▸ .null⟩
      · obtain ⟨rfl, same⟩ := wordNode_eq_ok reads
        exact ⟨.truth true, rfl, (show rest = _ from same) ▸ .yes⟩
      · obtain ⟨rfl, same⟩ := wordNode_eq_ok reads
        exact ⟨.truth false, rfl, (show rest = _ from same) ▸ .no⟩
      · obtain ⟨value, isText, spells⟩ := textNode_eq_ok reads
        exact ⟨.text value, isText, .text spells⟩
      · obtain ⟨rfl, same⟩ := Prod.mk.inj reads
        obtain ⟨trees, areItems, spells⟩ := exists_spells_of_readItems fuel (Prod.ext rfl same)
        exact ⟨.list trees, by rw [Node.tree?, areItems]; rfl, spells⟩
      · obtain ⟨rfl, same⟩ := Prod.mk.inj reads
        obtain ⟨rows, areRows, spells⟩ := exists_spells_of_readMembers fuel (Prod.ext rfl same)
        exact ⟨.object rows, by rw [Node.tree?, areRows]; rfl, spells⟩
      · split at reads
        · obtain ⟨numeral, isNumber, spells⟩ := numberNode_eq_ok reads
          exact ⟨.number numeral.worth, isNumber, .number (here ▸ spells)⟩
        · cases reads

theorem exists_spells_of_readItems (fuel : Nat) {cursor next : Cursor} {items : Items}
    (reads : readItems fuel cursor = (items, .ok next)) :
    ∃ trees, items.trees? = some trees ∧ Spells IsBlank (.list trees) ('[' :: cursor.rest) next.rest := by
  cases fuel with
  | zero => cases reads
  | succ fuel =>
    obtain ⟨blanks, blank, whole⟩ := cursor.exists_blanks
    unfold readItems at reads
    dsimp only at reads
    rw [whole]
    split at reads
    · cases reads
    · rename_i rest here
      cases reads
      rw [here]
      exact ⟨[], rfl, .noItems blank⟩
    · obtain ⟨trees, areItems, spells⟩ := exists_spellsItems_of_readItem fuel reads
      rw [Cursor.rest_blanks_blanks] at spells
      exact ⟨trees, areItems, .list blank spells⟩

theorem exists_spellsItems_of_readItem (fuel : Nat) {cursor next : Cursor} {items : Items}
    (reads : readItem fuel cursor = (items, .ok next)) :
    ∃ trees, items.trees? = some trees ∧ SpellsItems IsBlank trees cursor.blanks.rest next.rest := by
  cases fuel with
  | zero => cases reads
  | succ fuel =>
    unfold readItem at reads
    dsimp only at reads
    split at reads
    · cases reads
    · rename_i middle taken
      obtain ⟨tree, isItem, spells⟩ := exists_spells_of_readNode fuel (Prod.ext rfl taken)
      obtain ⟨blanks, blank, whole⟩ := middle.exists_blanks
      rw [whole] at spells
      split at reads
      · rename_i rest here
        cases reads
        rw [here] at spells
        exact ⟨[tree], by rw [Items.trees?, isItem]; rfl, .last spells blank⟩
      · rename_i rest here
        obtain ⟨blanks', blank', whole'⟩ := (step middle.blanks rest).exists_blanks
        rw [here, show rest = _ from whole'] at spells
        split at reads
        · cases reads
        · cases reads
        · obtain ⟨rfl, same⟩ := Prod.mk.inj reads
          obtain ⟨trees, areItems, others⟩ := exists_spellsItems_of_readItem fuel (Prod.ext rfl same)
          rw [Cursor.rest_blanks_blanks] at others
          exact ⟨tree :: trees, by rw [Items.trees?, isItem, areItems]; rfl,
            .more spells blank blank' others⟩
      · cases reads
      · cases reads

theorem exists_spells_of_readMembers (fuel : Nat) {cursor next : Cursor} {members : Members}
    (reads : readMembers fuel cursor = (members, .ok next)) :
    ∃ rows, members.rows? = some rows ∧
      Spells IsBlank (.object rows) ('\x7b' :: cursor.rest) next.rest := by
  cases fuel with
  | zero => cases reads
  | succ fuel =>
    obtain ⟨blanks, blank, whole⟩ := cursor.exists_blanks
    unfold readMembers at reads
    dsimp only at reads
    rw [whole]
    split at reads
    · cases reads
    · rename_i rest here
      cases reads
      rw [here]
      exact ⟨[], rfl, .noMembers blank⟩
    · rename_i rest here
      rw [here]
      obtain ⟨rows, areRows, spells⟩ := exists_spellsMembers_of_readMember fuel reads
      exact ⟨rows, areRows, .object blank spells⟩
    · cases reads

theorem exists_spellsMembers_of_readMember (fuel : Nat) {cursor next : Cursor} {members : Members}
    (reads : readMember fuel cursor = (members, .ok next)) :
    ∃ rows, members.rows? = some rows ∧ SpellsMembers IsBlank rows ('"' :: cursor.rest) next.rest := by
  cases fuel with
  | zero => cases reads
  | succ fuel =>
    unfold readMember at reads
    dsimp only at reads
    split at reads
    · cases reads
    · rename_i behindName skips
      have named := exists_spellsText_of_skipText skips
      obtain ⟨blanks, blank, whole⟩ := behindName.exists_blanks
      rw [whole] at named
      split at reads
      · rename_i rest here
        obtain ⟨blanks', blank', whole'⟩ := (step behindName.blanks rest).exists_blanks
        rw [here, show rest = _ from whole'] at named
        split at reads
        · cases reads
        · rename_i middle taken
          obtain ⟨tree, isValue, spells⟩ := exists_spells_of_readNode fuel (Prod.ext rfl taken)
          obtain ⟨blanks'', blank'', whole''⟩ := middle.exists_blanks
          rw [whole''] at spells
          split at reads
          · rename_i rest' here'
            cases reads
            rw [here'] at spells
            exact ⟨_, by rw [Members.rows?, isValue]; rfl, .last (.intro named blank blank' spells) blank''⟩
          · rename_i rest' here'
            obtain ⟨gap, isGap, whole₃⟩ := (step middle.blanks rest').exists_blanks
            rw [here', show rest' = _ from whole₃] at spells
            split at reads
            · rename_i rest₃ here₃
              rw [here₃] at spells
              obtain ⟨rfl, same⟩ := Prod.mk.inj reads
              obtain ⟨rows, areRows, others⟩ := exists_spellsMembers_of_readMember fuel (Prod.ext rfl same)
              exact ⟨_, by rw [Members.rows?, isValue, areRows]; rfl,
                .more (.intro named blank blank' spells) blank'' isGap others⟩
            · cases reads
            · cases reads
            · cases reads
          · cases reads
          · cases reads
      · cases reads
      · cases reads

end

/-! ### Whole texts -/

/-- **What a whole text spells is what its reader finds**, and nothing follows it. -/
theorem SpellsDocument.exists_root {tree : Tree} {text : String} (spells : SpellsDocument tree text) :
    ∃ root, Document.ofText text = ⟨root, .ok ()⟩ ∧ root.tree? = some tree := by
  obtain ⟨before, behind, value, blank, blank', same, spells⟩ := spells
  have first : (Cursor.ofText text).blanks.rest = value := Cursor.rest_blanks same blank spells.noBlank
  obtain ⟨isRoot, next, reads, left⟩ := spells.readNode (blank'.endsNumeral)
    (4 * (Cursor.ofText text).rest.length + 4)
    (by rw [show (Cursor.ofText text).rest = _ from same, List.length_append]; omega) first
  have ended : next.blanks.rest = [] :=
    Cursor.rest_blanks (by rw [left, List.append_nil]) blank' (by simp [NoBlank])
  refine ⟨_, ?_, isRoot⟩
  unfold Document.ofText
  simp only [reads, ended]

/-- **A text that is read to its end spells a tree.** -/
theorem exists_spellsDocument {text : String} (ended : (Document.ofText text).ending = .ok ()) :
    ∃ tree, SpellsDocument tree text := by
  unfold Document.ofText at ended
  dsimp only at ended
  split at ended
  · cases ended
  · rename_i next taken
    obtain ⟨tree, -, spells⟩ := exists_spells_of_readNode _ (Prod.ext rfl taken)
    obtain ⟨before, blank, whole⟩ := (Cursor.ofText text).exists_blanks
    obtain ⟨behind, blank', whole'⟩ := next.exists_blanks
    split at ended
    · rename_i empty
      rw [whole', empty, List.append_nil] at spells
      exact ⟨tree, before, behind, _, blank, blank', whole, spells⟩
    · cases ended

/-- A text spells the tree that its reader finds. -/
theorem SpellsDocument.of_root {text : String} {tree : Tree}
    (ended : (Document.ofText text).ending.toOption.isSome = true)
    (isRoot : (Document.ofText text).root.tree? = some tree) : SpellsDocument tree text := by
  have done : (Document.ofText text).ending = .ok () := by
    cases ending : (Document.ofText text).ending with
    | ok done => rfl
    | error fault =>
      rw [ending] at ended
      cases ended
  obtain ⟨tree', spells⟩ := exists_spellsDocument done
  obtain ⟨root, reads, isRoot'⟩ := spells.exists_root
  rw [reads] at isRoot
  cases isRoot.symm.trans isRoot'
  exact spells

/-- A text spells one tree. -/
theorem SpellsDocument.unique {tree tree' : Tree} {text : String} (spells : SpellsDocument tree text)
    (spells' : SpellsDocument tree' text) : tree = tree' := by
  obtain ⟨root, reads, isRoot⟩ := spells.exists_root
  obtain ⟨root', reads', isRoot'⟩ := spells'.exists_root
  cases reads.symm.trans reads'
  exact Option.some.inj (isRoot.symm.trans isRoot')

end SecretSource.Json
