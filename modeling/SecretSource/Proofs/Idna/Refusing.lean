/-
**Names that are refused.**

A control or a space in a name is neither folded away nor joined with another character, so it stays until
the name is written, and there it is refused.

* `mem_compose`, `mem_fold`: it stays in the composed form, and in the folded name.
* `mem_written_of_label?`: it stays in the written form of its label.
* `visible_of_toAscii`: a name that is accepted has neither.
-/

import SecretSource.Idna.Domain
import SecretSource.Proofs.Text.Cutting
import SecretSource.Proofs.Text.PercentCoding

namespace SecretSource.Idna

open SecretSource.Text

/-! ### Composing -/

theorem mem_insertMark {mark letter : Char} {text : List Char} :
    letter ∈ insertMark mark text ↔ letter = mark ∨ letter ∈ text := by
  induction text with
  | nil => simp [insertMark]
  | cons other rest ih =>
    unfold insertMark
    split
    · exact List.mem_cons
    · rw [List.mem_cons, ih, List.mem_cons]
      exact or_left_comm

theorem mem_foldl_placeMark {letter : Char} {text : List Char} {state : List Char × List Char}
    (member : letter ∈ state.1 ∨ letter ∈ state.2 ∨ letter ∈ text) :
    letter ∈ (text.foldl placeMark state).1 ∨ letter ∈ (text.foldl placeMark state).2 := by
  induction text generalizing state with
  | nil =>
    rcases member with done | waiting | nothing
    · exact Or.inl done
    · exact Or.inr waiting
    · cases nothing
  | cons first rest ih =>
    refine ih ?_
    unfold placeMark
    split <;> simp only [List.mem_append, List.mem_cons, List.not_mem_nil, mem_insertMark] at member ⊢ <;> grind

/-- Marks are moved, and nothing is lost. -/
theorem mem_orderMarks {letter : Char} {text : List Char} (member : letter ∈ text) :
    letter ∈ orderMarks text :=
  List.mem_append.mpr (mem_foldl_placeMark (Or.inr (Or.inr member)))

/-- Neither a control nor a space joins with a character. -/
theorem visible_of_joined? {first second whole : Char} (joins : joined? first second = some whole) :
    0x20 < first.toNat ∧ 0x20 < second.toNat := by
  unfold joined? at joins
  dsimp only at joins
  split at joins
  · omega
  · split at joins
    · omega
    · obtain ⟨pair, found, -⟩ := Option.map_eq_some_iff.mp joins
      have same := List.find?_some found
      rw [Bool.and_eq_true, beq_iff_eq, beq_iff_eq] at same
      rw [← same.1, ← same.2]
      exact pair.visible

/-- It stays where marks are joined with starters. -/
theorem mem_joinMarks {letter : Char} (low : letter.toNat ≤ 0x20) {text kept : List Char} {starter : Char}
    {blocked : Option Nat} (member : letter = starter ∨ letter ∈ kept ∨ letter ∈ text) :
    letter ∈ joinMarks starter kept blocked text := by
  fun_induction joinMarks starter kept blocked text with
  | case1 starter kept blocked =>
    rcases member with rfl | inKept | nothing
    · exact List.mem_cons_self
    · exact List.mem_cons_of_mem _ (List.mem_reverse.mpr inKept)
    · cases nothing
  | case2 starter kept blocked other rest rank reachable whole joins ih =>
    -- What was joined is not the character.
    have visible : 0x20 < starter.toNat ∧ 0x20 < other.toNat := by
      split at joins
      · exact visible_of_joined? joins
      · cases joins
    rcases member with rfl | inKept | inText
    · omega
    · exact ih (Or.inr (Or.inl inKept))
    · rcases List.mem_cons.mp inText with rfl | later
      · omega
      · exact ih (Or.inr (Or.inr later))
  | case3 starter kept blocked other rest rank reachable apart isStarter ih =>
    rcases member with rfl | inKept | inText
    · exact List.mem_append_left _ List.mem_cons_self
    · exact List.mem_append_left _ (List.mem_cons_of_mem _ (List.mem_reverse.mpr inKept))
    · refine List.mem_append_right _ (ih ?_)
      rcases List.mem_cons.mp inText with same | later
      · exact Or.inl same
      · exact Or.inr (Or.inr later)
  | case4 starter kept blocked other rest rank reachable apart isMark ih =>
    refine ih ?_
    simp only [List.mem_cons] at member ⊢
    grind

theorem decomposeChar_of_low {letter : Char} (low : letter.toNat ≤ 0x20) (depth : Nat) :
    decomposeChar depth letter = [letter] := by
  cases depth with
  | zero => rfl
  | succ depth =>
    have simple : letter.toNat < 0xC0 := by omega
    rw [decomposeChar, if_pos simple]

/-- A control or a space stays in the composed form. -/
theorem mem_compose {letter : Char} (low : letter.toNat ≤ 0x20) {text : List Char} (member : letter ∈ text) :
    letter ∈ compose text := by
  have whole : decomposeChar 4 letter = [letter] := decomposeChar_of_low low 4
  have inParts : letter ∈ text.flatMap (decomposeChar 4) :=
    List.mem_flatMap.mpr ⟨letter, member, whole ▸ List.mem_singleton_self letter⟩
  have ordered := mem_orderMarks inParts
  unfold compose
  cases shape : orderMarks (text.flatMap (decomposeChar 4)) with
  | nil =>
    rw [shape] at ordered
    cases ordered
  | cons starter rest =>
    rw [shape] at ordered
    rcases List.mem_cons.mp ordered with same | later
    · exact mem_joinMarks low (Or.inl same)
    · exact mem_joinMarks low (Or.inr (Or.inr later))

/-! ### Folding and writing -/

/-- A control or a space stays in a folded name. -/
theorem mem_fold {name folded : List Char} (folds : fold name = some folded) {letter : Char}
    (low : letter.toNat ≤ 0x20) (member : letter ∈ name) : letter ∈ folded := by
  obtain ⟨parts, mapped, same⟩ := Option.bind_eq_some_iff.mp folds
  have itself : Idna.mapped letter = some [letter] := by
    have small : letter.toLower = letter :=
      of_forall_low (fun letter => letter.toLower = letter) (by decide) low
    rw [Idna.mapped, if_pos (by omega), small]
  have inParts : letter ∈ parts.flatten := by
    have among : Idna.mapped letter ∈ name.map Idna.mapped := List.mem_map_of_mem member
    rw [map_eq_of_mapM mapped, itself, List.mem_map] at among
    obtain ⟨part, inside, isPart⟩ := among
    exact List.mem_flatten.mpr ⟨part, inside, Option.some.inj isPart ▸ List.mem_singleton.mpr rfl⟩
  rw [← Option.some.inj same]
  split
  · exact inParts
  · exact mem_compose low inParts

/-- The ASCII characters of a label stay in its Punycode. -/
theorem Punycode.mem_encode {label : List Char} {letter : Char} (ascii : isAscii letter = true)
    (member : letter ∈ label) : letter ∈ encode label := by
  unfold encode
  exact List.mem_append_left _ (List.mem_append_left _ (List.mem_filter.mpr ⟨member, ascii⟩))

/-- A control or a space stays in the written form of a label. -/
theorem mem_written_of_label? {folded : List Char} {label : Label} (reads : label? folded = some label)
    {letter : Char} (low : letter.toNat ≤ 0x20) (member : letter ∈ folded) : letter ∈ label.written := by
  have ascii : Punycode.isAscii letter = true := by
    rw [Punycode.isAscii, decide_eq_true_eq]
    omega
  unfold label? at reads
  split at reads
  · split at reads
    · obtain ⟨spoken, -, same⟩ := Option.bind_eq_some_iff.mp reads
      cases same
      exact member
    · cases reads
      exact member
  · split at reads
    · cases reads
    · split at reads
      · cases reads
        exact List.mem_append_right _ (Punycode.mem_encode ascii member)
      · cases reads

/-- **A name with a control or a space is refused.** -/
theorem visible_of_toAscii {name written : List Char} (reads : toAscii name = some written) :
    ∀ letter ∈ name, 0x20 < letter.toNat := by
  intro letter member
  refine Nat.lt_of_not_le fun low => ?_
  obtain ⟨folded, folds, reads⟩ := Option.bind_eq_some_iff.mp reads
  obtain ⟨labels, all, reads⟩ := Option.bind_eq_some_iff.mp reads
  -- It stays in the written name, where it is refused.
  have inPiece : ∃ piece ∈ pieces '.' folded, letter ∈ piece := by
    have inFolded := mem_fold folds low member
    rw [← joined_pieces '.' folded] at inFolded
    rcases mem_of_mem_joined inFolded with rfl | inside
    · exact absurd low (by decide)
    · exact inside
  obtain ⟨piece, cut, inside⟩ := inPiece
  have inWritten : letter ∈ joined '.' (labels.map (·.written)) := by
    have among : label? piece ∈ (pieces '.' folded).map label? := List.mem_map_of_mem cut
    rw [map_eq_of_mapM all, List.mem_map] at among
    obtain ⟨label, isLabel, reads⟩ := among
    exact mem_joined_of_mem (List.mem_map_of_mem isLabel) (mem_written_of_label? reads.symm low inside)
  have refused : isRefused letter = true :=
    of_forall_low (fun letter => isRefused letter = true) (by decide) low
  dsimp only at reads
  split at reads
  · rename_i accepted
    rw [Bool.and_eq_true, Bool.not_eq_true', List.any_eq_false] at accepted
    exact accepted.2 letter inWritten refused
  · cases reads

end SecretSource.Idna
