/-
**What is written spells the value.**

The compact text of a value spells the tree of the value, with nothing between its parts, if its numbers are written as
they are spelled.

* `Value.spells_written`: the text of a value spells it, without white space.
* `Value.spellsDocument`: so the text of a value is a document of it.
-/

import SecretSource.Proofs.Json.Rearranging

namespace SecretSource.Json

open SecretSource.Text SecretSource.Number

/-! ### Values as trees -/

mutual

/-- The tree of a value. -/
def Value.tree : Value → Tree
  | .null => .null
  | .truth value => .truth value
  | .number value => .number (some value)
  | .text value => .text (some value)
  | .list items => .list (Value.trees items)
  | .object rows => .object (Value.rowTrees rows)

/-- The trees of the values of a list. -/
def Value.trees : List Value → List Tree
  | [] => []
  | item :: rest => item.tree :: Value.trees rest

/-- The trees of the rows of an object. -/
def Value.rowTrees : List (String × Value) → List (Option String × Tree)
  | [] => []
  | (name, value) :: rest => (some name, value.tree) :: Value.rowTrees rest

end

theorem Value.trees_eq (items : List Value) : Value.trees items = items.map Value.tree := by
  induction items with
  | nil => rfl
  | cons item rest ih => rw [Value.trees, ih, List.map_cons]

theorem Value.rowTrees_eq (rows : List (String × Value)) :
    Value.rowTrees rows = rows.map fun row => (some row.1, row.2.tree) := by
  induction rows with
  | nil => rfl
  | cons row rest ih => rw [Value.rowTrees, ih, List.map_cons]

/-! ### Quoted texts -/

/-- The digits of a control character spell it. -/
theorem fourDigits_control {letter : Char} (control : letter.toNat < 0x20) (rest : List Char) :
    FourDigits letter.toNat
      ('0' :: '0' :: Hex.lowerDigit (letter.toNat / 16) :: Hex.lowerDigit (letter.toNat % 16) :: rest) rest := by
  have digit : ∀ value < 16, Hex.digitValue? (Hex.lowerDigit value) = some value := fun value small =>
    Hex.digitValue?_lowerDigit ⟨value, small⟩
  have spelled : FourDigits _ (_ :: _ :: _ :: _ :: rest) rest :=
    .intro (show Hex.digitValue? '0' = some 0 from rfl) (show Hex.digitValue? '0' = some 0 from rfl)
      (digit (letter.toNat / 16) (by omega)) (digit (letter.toNat % 16) (by omega))
  have same : 16 * (16 * (16 * (16 * 0 + 0) + 0) + letter.toNat / 16) + letter.toNat % 16 = letter.toNat := by
    omega
  rwa [same] at spelled

/-- A character as it is written stands for itself. -/
theorem Quotes.writtenChar (letter : Char) {letters text rest : List Char} (behind : Quotes letters text rest) :
    Quotes (letter :: letters) (Value.writtenChar letter ++ text) rest := by
  unfold Value.writtenChar
  split
  · exact .escape rfl behind
  · exact .escape rfl behind
  · exact .escape rfl behind
  · exact .escape rfl behind
  · exact .escape rfl behind
  · exact .escape rfl behind
  · exact .escape rfl behind
  · rename_i notQuote notSlash _ _ _ _ _
    split
    · rename_i control
      have point := Quotes.point (fourDigits_control control text) (by simp [IsHigh]; omega)
        (by simp [IsLow]; omega) behind
      rw [Char.ofNat_toNat] at point
      exact point
    · rename_i notControl
      exact .plain ⟨notQuote, notSlash, notControl⟩ behind

/-- A text as it is written stands for itself. -/
theorem quotes_flatMap_writtenChar (letters rest : List Char) :
    Quotes letters (letters.flatMap Value.writtenChar ++ '"' :: rest) rest := by
  induction letters with
  | nil => exact .closed
  | cons letter letters ih =>
    rw [List.flatMap_cons, List.append_assoc]
    exact ih.writtenChar letter

theorem writtenText_append (text : String) (rest : List Char) :
    Value.writtenText text ++ rest = '"' :: (text.toList.flatMap Value.writtenChar ++ '"' :: rest) := by
  simp [Value.writtenText]

theorem spellsText_written (text : String) (rest : List Char) :
    SpellsText (some text) (text.toList.flatMap Value.writtenChar ++ '"' :: rest) rest := by
  have spelled := SpellsText.whole (quotes_flatMap_writtenChar text.toList rest)
  rwa [String.ofList_toList] at spelled

/-! ### Numbers -/

/-- The text of a number is a numeral that is worth it. -/
def Number.IsSpelled (number : Number) : Prop :=
  ∃ numeral, Numeral.worth numeral = some number ∧
    ∀ rest, SpellsNumeral numeral (number.text.toList ++ rest) rest

/-- Whole numbers of 64 bits are spelled by their texts. -/
theorem isSpelled_integer {number : Int} (lower : -9223372036854775808 ≤ number)
    (upper : number ≤ 18446744073709551615) : (Number.integer number).IsSpelled :=
  ⟨.ofInt number, Numeral.worth_ofInt lower upper, spellsNumeral_toString number⟩

/-- Minus zero is spelled by its text. -/
theorem isSpelled_minusZero : (Number.real (Binary64.zero.withSign true)).IsSpelled := by
  refine ⟨⟨true, ['0'], some ['0'], none⟩, by decide +kernel, fun rest => ?_⟩
  have text : (Number.real (Binary64.zero.withSign true)).text.toList = ['-', '0', '.', '0'] := by
    decide +kernel
  rw [text]
  have isWhole : IsWhole ['0'] := .zero
  exact .intro .minus isWhole (.present (List.cons_ne_nil _ _) isWhole.areDigits) .absent

/-! ### Without gaps -/

/-- No gap at all. -/
def NoGap (text : List Char) : Prop := text = []

section Tight

variable {item value : Tree} {items : List Tree} {rows : List (Option String × Tree)} {name : Option String}
  {text text' rest : List Char}

theorem Spells.list_tight (spells : SpellsItems NoGap items text rest) :
    Spells NoGap (.list items) ('[' :: text) rest :=
  @Spells.list NoGap [] text rest items rfl spells

theorem Spells.object_tight (spells : SpellsMembers NoGap rows text rest) :
    Spells NoGap (.object rows) ('\x7b' :: text) rest :=
  @Spells.object NoGap [] text rest rows rfl spells

theorem SpellsItems.last_tight (spells : Spells NoGap item text (']' :: rest)) :
    SpellsItems NoGap [item] text rest :=
  @SpellsItems.last NoGap item text [] rest spells rfl

theorem SpellsItems.more_tight (spells : Spells NoGap item text (',' :: text'))
    (behind : SpellsItems NoGap items text' rest) : SpellsItems NoGap (item :: items) text rest :=
  @SpellsItems.more NoGap item items text text' [] [] rest spells rfl rfl behind

theorem SpellsMember.tight (named : SpellsText name text (':' :: text')) (spells : Spells NoGap value text' rest) :
    SpellsMember NoGap name value ('"' :: text) rest :=
  @SpellsMember.intro NoGap name value text text' [] [] rest named rfl rfl spells

theorem SpellsMembers.last_tight (spells : SpellsMember NoGap name value text ('\x7d' :: rest)) :
    SpellsMembers NoGap [(name, value)] text rest :=
  @SpellsMembers.last NoGap name value text [] rest spells rfl

theorem SpellsMembers.more_tight (spells : SpellsMember NoGap name value text (',' :: text'))
    (behind : SpellsMembers NoGap rows text' rest) : SpellsMembers NoGap ((name, value) :: rows) text rest :=
  @SpellsMembers.more NoGap name value rows text text' [] [] rest spells rfl rfl behind

end Tight

/-! ### Whole values -/

/-- Every number of a value is of a kind. -/
inductive Value.AllNumbers (kind : Number → Prop) : Value → Prop where
  | null : AllNumbers kind .null
  | truth {value : Bool} : AllNumbers kind (.truth value)
  | number {value : Number} (isKind : kind value) : AllNumbers kind (.number value)
  | text {value : String} : AllNumbers kind (.text value)
  | list {items : List Value} (each : ∀ item ∈ items, AllNumbers kind item) : AllNumbers kind (.list items)
  | object {rows : List (String × Value)} (each : ∀ row ∈ rows, AllNumbers kind row.2) :
      AllNumbers kind (.object rows)

theorem spellsItems_written {items : List Value} {item : Value} (rest : List Char)
    (each : ∀ value ∈ item :: items, ∀ rest, Spells NoGap value.tree (value.written ++ rest) rest) :
    SpellsItems NoGap (Value.trees (item :: items)) (item.written ++ (Value.writtenItems items ++ rest)) rest := by
  induction items generalizing item with
  | nil => exact .last_tight (each item (by simp) (']' :: rest))
  | cons next items ih =>
    have others := ih fun value member => each value (List.mem_cons_of_mem item member)
    simp only [Value.writtenItems, List.cons_append, List.append_assoc]
    exact .more_tight (each item (by simp) _) others

theorem spellsMember_written (name : String) {value : Value} {rest : List Char}
    (spells : Spells NoGap value.tree (value.written ++ rest) rest) :
    SpellsMember NoGap (some name) value.tree (Value.writtenText name ++ ':' :: (value.written ++ rest)) rest := by
  rw [writtenText_append]
  exact .tight (spellsText_written name _) spells

theorem spellsMembers_written {rows : List (String × Value)} {name : String} {value : Value} (rest : List Char)
    (each : ∀ row ∈ (name, value) :: rows, ∀ rest, Spells NoGap row.2.tree (row.2.written ++ rest) rest) :
    SpellsMembers NoGap (Value.rowTrees ((name, value) :: rows))
      (Value.writtenText name ++ ':' :: (value.written ++ (Value.writtenRows rows ++ rest))) rest := by
  induction rows generalizing name value with
  | nil => exact .last_tight (spellsMember_written name (each (name, value) (by simp) ('\x7d' :: rest)))
  | cons next rows ih =>
    obtain ⟨name', value'⟩ := next
    have others := ih fun row member => each row (List.mem_cons_of_mem (name, value) member)
    have first := spellsMember_written name (each (name, value) (by simp)
      (',' :: (Value.writtenText name' ++ ':' :: (value'.written ++ (Value.writtenRows rows ++ rest)))))
    simp only [Value.writtenRows, List.cons_append, List.append_assoc]
    exact .more_tight first others

/-- **The text of a value spells it**, without white space, if all its numbers are spelled by their texts. -/
theorem Value.spells_written {value : Value} (numbers : value.AllNumbers Number.IsSpelled) (rest : List Char) :
    Spells NoGap value.tree (value.written ++ rest) rest := by
  induction numbers generalizing rest with
  | null => exact .null
  | @truth value =>
    cases value with
    | true => exact .yes
    | false => exact .no
  | number isKind =>
    obtain ⟨numeral, worth, spells⟩ := isKind
    rw [Value.tree, ← worth]
    exact .number (spells rest)
  | @text value =>
    rw [Value.tree, Value.written, writtenText_append]
    exact .text (spellsText_written value rest)
  | @list items each ih =>
    cases items with
    | nil => exact @Spells.noItems NoGap [] rest rfl
    | cons item items =>
      rw [Value.written, List.append_assoc]
      exact .list_tight (spellsItems_written rest ih)
  | @object rows each ih =>
    cases rows with
    | nil => exact @Spells.noMembers NoGap [] rest rfl
    | cons row rows =>
      obtain ⟨name, value⟩ := row
      have members := spellsMembers_written rest ih
      simp only [Value.written, List.cons_append, List.append_assoc]
      exact .object_tight members

/-- The text of a value is a document of it. -/
theorem Value.spellsDocument {value : Value} (numbers : value.AllNumbers Number.IsSpelled) :
    SpellsDocument value.tree value.toText := by
  have spelled : Spells IsBlank value.tree (value.written ++ []) [] :=
    (Value.spells_written numbers []).mono fun text empty => by
      rw [empty]
      exact List.forall_mem_nil _
  refine ⟨[], [], value.written ++ [], List.forall_mem_nil _, List.forall_mem_nil _, ?_, spelled⟩
  rw [Value.toText, String.toList_ofList, List.append_nil, List.nil_append]

end SecretSource.Json
