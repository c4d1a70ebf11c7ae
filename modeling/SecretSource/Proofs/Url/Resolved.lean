/-
**Paths without dots and slashes in their segments.**

A path is resolved if no segment holds a slash or would be read as a dot segment, in whatever spelling.
Reading gives a resolved path, and pushing keeps it resolved, whatever is pushed.

* `isResolved_read`, `IsResolved.extend`: reading and pushing.
* `prefix_of_continuesAt`: for resolved paths the text of one starts the text of another, up to a slash or the
  end, only if its segments come first.
-/

import SecretSource.Proofs.Text.Cutting
import SecretSource.Proofs.Url.Pushing
import SecretSource.Url.Address

namespace SecretSource.Url.Path

open SecretSource.Text

/-- Whether a segment would be read as a dot segment, its dots escaped or not. -/
def readsAsDots (segment : List Char) : Bool :=
  plainDots segment == ['.'] || plainDots segment == ['.', '.']

/-- No segment holds a slash or would be read as a dot segment. -/
def IsResolved (path : Path) : Prop :=
  ∀ segment ∈ path, '/' ∉ segment ∧ readsAsDots segment = false

/-! ### Dots in encoded segments -/

theorem plainDots_eq_nil {segment : List Char} (nothing : plainDots segment = []) : segment = [] := by
  unfold plainDots at nothing
  split at nothing
  · split at nothing <;> cases nothing
  · cases nothing
  · rfl

/-- A dot is read from a dot or from its escaped form, and either stands for the byte of a dot. -/
theorem bytes_of_plainDots_cons {segment behind : List Char}
    (dot : plainDots segment = '.' :: behind) :
    ∃ rest, plainDots rest = behind ∧ Percent.bytes segment = 0x2E :: Percent.bytes rest := by
  unfold plainDots at dot
  split at dot
  · rename_i letter rest
    split at dot
    · rename_i small
      refine ⟨rest, (List.cons.inj dot).2, ?_⟩
      rcases small with rfl | rfl <;> rfl
    · cases (List.cons.inj dot).1
  · rename_i letter rest _
    obtain ⟨rfl, same⟩ := List.cons.inj dot
    exact ⟨rest, same, Percent.bytes_cons (by decide) rest⟩
  · cases dot

/-- The encoded form of a text is read as dots only if the text is dots. -/
theorem readsAsDots_encode {text : List Char} (single : text ≠ ['.']) (double : text ≠ ['.', '.']) :
    readsAsDots (Percent.encode isSegmentRefused text) = false := by
  have standsFor : Percent.bytes (Percent.encode isSegmentRefused text) = Utf8.encode text :=
    Percent.bytes_encode (by decide) text
  rw [readsAsDots, Bool.or_eq_false_iff, beq_eq_false_iff_ne, beq_eq_false_iff_ne]
  constructor
  · intro dot
    obtain ⟨rest, nothing, bytes⟩ := bytes_of_plainDots_cons dot
    rw [plainDots_eq_nil nothing, standsFor] at bytes
    exact single (Utf8.encode_injective (bytes.trans rfl))
  · intro dots
    obtain ⟨rest, dot, bytes⟩ := bytes_of_plainDots_cons dots
    obtain ⟨behind, nothing, more⟩ := bytes_of_plainDots_cons dot
    rw [more, plainDots_eq_nil nothing, standsFor] at bytes
    exact double (Utf8.encode_injective (bytes.trans rfl))

/-! ### Reading -/

theorem mem_of_mem_parent {path : Path} {segment : List Char} (member : segment ∈ parent path) :
    segment ∈ path := by
  unfold parent at member
  split at member
  · split at member
    · exact member
    · exact (List.dropLast_sublist path).subset member
  · exact member

/-- What is read behind a path is empty or one of the segments, unless that reads as dots. -/
theorem mem_resolve {done : Path} {segments : List (List Char)} {segment : List Char}
    (member : segment ∈ resolve done segments) :
    segment ∈ done ∨ segment = [] ∨ (segment ∈ segments ∧ readsAsDots segment = false) := by
  induction segments generalizing done with
  | nil => exact Or.inl member
  | cons head rest ih =>
    have later : ∀ {before : Path}, segment ∈ resolve before rest → (∀ old ∈ before, old ∈ done) →
        segment ∈ done ∨ segment = [] ∨ (segment ∈ head :: rest ∧ readsAsDots segment = false) := by
      intro before found old
      rcases ih found with inDone | empty | ⟨inRest, plain⟩
      · exact Or.inl (old segment inDone)
      · exact Or.inr (Or.inl empty)
      · exact Or.inr (Or.inr ⟨List.mem_cons_of_mem _ inRest, plain⟩)
    have ended : ∀ {before : Path}, segment ∈ before ++ [[]] → (∀ old ∈ before, old ∈ done) →
        segment ∈ done ∨ segment = [] ∨ (segment ∈ head :: rest ∧ readsAsDots segment = false) := by
      intro before found old
      rcases List.mem_append.mp found with inBefore | empty
      · exact Or.inl (old segment inBefore)
      · exact Or.inr (Or.inl (List.mem_singleton.mp empty))
    rw [resolve] at member
    split at member
    · split at member
      · exact ended member fun old => mem_of_mem_parent
      · exact later member fun old => mem_of_mem_parent
    · rename_i noDouble
      split at member
      · split at member
        · exact ended member fun old inDone => inDone
        · exact later member fun old inDone => inDone
      · rename_i noSingle
        rcases ih member with inDone | empty | ⟨inRest, plain⟩
        · rcases List.mem_append.mp inDone with old | new
          · exact Or.inl old
          · rw [List.mem_singleton] at new
            subst new
            exact Or.inr (Or.inr ⟨List.mem_cons_self, by simp [readsAsDots, noDouble, noSingle]⟩)
        · exact Or.inr (Or.inl empty)
        · exact Or.inr (Or.inr ⟨List.mem_cons_of_mem _ inRest, plain⟩)

/-- A path that was read is resolved. -/
theorem isResolved_read (text : List Char) : IsResolved (read text) := by
  intro segment member
  unfold read at member
  rcases mem_resolve member with absurdly | rfl | ⟨encoded, plain⟩
  · cases absurdly
  · exact ⟨by simp, rfl⟩
  · refine ⟨?_, plain⟩
    obtain ⟨piece, cut, rfl⟩ := List.mem_map.mp encoded
    intro slash
    rcases Percent.mem_encode slash with sign | ⟨inPiece, _⟩
    · exact absurd sign (by decide)
    · exact (mem_of_mem_pieces cut inPiece).2 rfl

/-! ### Pushing -/

theorem IsResolved.withoutEnd {path : Path} (resolved : IsResolved path) :
    IsResolved path.withoutEnd := by
  unfold Path.withoutEnd
  split
  · split
    · exact resolved
    · exact fun segment member => resolved segment ((List.dropLast_sublist path).subset member)
  · exact resolved

/-- What a push leaves: segments that were there, an empty one, or the encoded form of what is pushed, if that
is no dot segment without its tabs and line ends. -/
theorem mem_of_mem_push {path : Path} {pushed segment : List Char} (member : segment ∈ path.push pushed) :
    segment ∈ path ∨ segment = [] ∨
      (kept pushed ≠ ['.'] ∧ kept pushed ≠ ['.', '.'] ∧
        segment = Percent.encode isSegmentRefused (kept pushed)) := by
  have start : ∀ old ∈ (if path = [[]] then [] else path), old ∈ path := by
    intro old inBefore
    split at inBefore
    · cases inBefore
    · exact inBefore
  unfold Path.push at member
  split at member
  · exact Or.inl member
  · simp only at member
    split at member
    · rcases List.mem_append.mp member with old | empty
      · exact Or.inl (start _ (mem_of_mem_parent old))
      · exact Or.inr (Or.inl (List.mem_singleton.mp empty))
    · rename_i noDouble
      split at member
      · rcases List.mem_append.mp member with old | empty
        · exact Or.inl (start _ old)
        · exact Or.inr (Or.inl (List.mem_singleton.mp empty))
      · rename_i noSingle
        rcases List.mem_append.mp member with old | new
        · exact Or.inl (start _ old)
        · exact Or.inr (Or.inr ⟨noSingle, noDouble, List.mem_singleton.mp new⟩)

/-- Pushing keeps a path resolved, whatever is pushed. -/
theorem IsResolved.push {path : Path} (resolved : IsResolved path) (pushed : List Char) :
    IsResolved (path.push pushed) := by
  intro segment member
  rcases mem_of_mem_push member with old | rfl | ⟨noSingle, noDouble, rfl⟩
  · exact resolved segment old
  · exact ⟨List.not_mem_nil, rfl⟩
  · exact ⟨Percent.not_mem_encode_of_isRefused (by decide) (by decide) _,
      readsAsDots_encode noSingle noDouble⟩

theorem IsResolved.extend {path : Path} (resolved : IsResolved path) (segments : List (List Char)) :
    IsResolved (path.extend segments) := by
  induction segments generalizing path with
  | nil => exact resolved
  | cons segment rest ih => exact ih (resolved.push segment)

/-! ### The text of a resolved path -/

/-- A text continues another at the end of a segment. -/
def ContinuesAt (longer text : List Char) : Prop :=
  ∃ rest, longer = text ++ rest ∧ (rest = [] ∨ rest.head? = some '/')

theorem written_append (first second : Path) :
    (first ++ second).written = first.written ++ second.written :=
  List.flatMap_append

theorem written_eq_nil_or_head? (path : Path) :
    path.written = [] ∨ path.written.head? = some '/' := by
  cases path with
  | nil => exact Or.inl rfl
  | cons segment rest => exact Or.inr rfl

/-- A path that comes first is continued by the text of the longer one. -/
theorem continuesAt_of_prefix {path longer : Path} (front : path <+: longer) :
    ContinuesAt longer.written path.written := by
  obtain ⟨rest, rfl⟩ := front
  exact ⟨Path.written rest, written_append path rest, written_eq_nil_or_head? rest⟩

/-- Two texts up to a slash or the end agree if what they start agrees. -/
theorem eq_of_append_eq {first second behind after : List Char} (clean : '/' ∉ first)
    (clean' : '/' ∉ second) (ended : behind = [] ∨ behind.head? = some '/')
    (ended' : after = [] ∨ after.head? = some '/') (same : first ++ behind = second ++ after) :
    first = second ∧ behind = after := by
  have fronts : first = second := by
    rw [← takeWhile_append_of_ended clean ended, same, takeWhile_append_of_ended clean' ended']
  subst fronts
  exact ⟨rfl, List.append_cancel_left same⟩

/-- The text of a resolved path continues that of another only if the segments of the other come first. -/
theorem prefix_of_continuesAt {path longer : Path} (resolved : IsResolved path)
    (resolved' : IsResolved longer) (continued : ContinuesAt longer.written path.written) :
    path <+: longer := by
  obtain ⟨rest, same, ended⟩ := continued
  induction path generalizing longer with
  | nil => exact List.nil_prefix
  | cons segment others ih =>
    cases longer with
    | nil => cases same
    | cons head behind =>
      have texts : segment ++ (Path.written others ++ rest) = head ++ Path.written behind := by
        have inner : head ++ Path.written behind = segment ++ Path.written others ++ rest :=
          (List.cons.inj same).2
        rw [inner, List.append_assoc]
      have stop : Path.written others ++ rest = [] ∨
          (Path.written others ++ rest).head? = some '/' := by
        rcases written_eq_nil_or_head? others with nothing | slash
        · rw [nothing]
          exact ended
        · exact Or.inr (by rw [List.head?_append, slash]; rfl)
      obtain ⟨rfl, later⟩ := eq_of_append_eq (resolved segment List.mem_cons_self).1
        (resolved' head List.mem_cons_self).1 stop (written_eq_nil_or_head? behind) texts
      have tail := ih (fun other member => resolved other (List.mem_cons_of_mem _ member))
        (fun other member => resolved' other (List.mem_cons_of_mem _ member)) later.symm
      exact (List.prefix_cons_inj segment).mpr tail

end SecretSource.Url.Path
