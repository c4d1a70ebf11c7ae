/-
**Cutting and trimming: what is in the parts.**

* `pieces_append_cons`: a separator that is there cuts a text into what stands before and behind it.
* `pieces_joined`: pieces that were joined are found again.
* `takeWhile_append_of_stops`, `takeWhile_append_of_ended`: a text is cut off where a character stops it, such
  as a separator.
* `mem_of_mem_pieces`, `mem_of_mem_trim`: cutting and trimming add no character, and no piece holds the
  separator.
* `mem_of_mem_joined`, `mem_joined_of_mem`: joining adds separators, and nothing is lost.
* `exists_trim_eq_append`: how much of a trimmed text is left if its end is dropped before it is trimmed.
* `trim_append_append`, `trim_of_kept`: what trimming drops may as well not have been there, and a text that is kept at
  both ends is as it was.
* `segments_eq_pieces`: the segments of a request are those of the path that is reported for it.
-/

import SecretSource.Vault.Request

namespace SecretSource.Text

/-- A separator that is there cuts a text into what stands before and behind it. -/
theorem pieces_append_cons (separator : Char) (before after : List Char) :
    pieces separator (before ++ separator :: after) =
      pieces separator before ++ pieces separator after := by
  induction before with
  | nil => simp [pieces]
  | cons letter rest ih =>
    by_cases same : letter = separator
    · simp [pieces, same, ih]
    · obtain ⟨first, others, shape⟩ := List.exists_cons_of_ne_nil (pieces_ne_nil separator rest)
      simp [pieces, same, ih, shape]

/-- A text without the separator is one piece. -/
theorem pieces_of_not_mem {separator : Char} {text : List Char} (absent : separator ∉ text) :
    pieces separator text = [text] := by
  induction text with
  | nil => rfl
  | cons letter rest ih =>
    have other : letter ≠ separator := fun same => absent (same ▸ List.mem_cons_self)
    rw [pieces, if_neg other, ih fun member => absent (List.mem_cons_of_mem _ member)]

/-- Pieces that were joined are found again, as none of them holds the separator. -/
theorem pieces_joined {separator : Char} {parts : List (List Char)} (somePart : parts ≠ [])
    (absent : ∀ part ∈ parts, separator ∉ part) : pieces separator (joined separator parts) = parts := by
  induction parts with
  | nil => exact absurd rfl somePart
  | cons part rest ih =>
    have single : pieces separator part = [part] := pieces_of_not_mem (absent part List.mem_cons_self)
    cases rest with
    | nil => exact single
    | cons next others =>
      rw [joined, pieces_append_cons, single,
        ih (List.cons_ne_nil next others) fun other member => absent other (List.mem_cons_of_mem _ member)]
      rfl

/-- A text of characters that pass, with one behind it that does not, is all that is taken. -/
theorem takeWhile_append_of_stops {passes : Char → Bool} {text rest : List Char}
    (all : ∀ letter ∈ text, passes letter = true) (stops : ∀ letter ∈ rest.head?, passes letter = false) :
    (text ++ rest).takeWhile passes = text := by
  have nothing : rest.takeWhile passes = [] := by
    cases rest with
    | nil => rfl
    | cons letter others => exact List.takeWhile_cons_of_neg (Bool.eq_false_iff.mp (stops letter rfl))
  rw [List.takeWhile_append_of_pos all, nothing, List.append_nil]

/-- What is behind it is all that is left. -/
theorem dropWhile_append_of_stops {passes : Char → Bool} {text rest : List Char}
    (all : ∀ letter ∈ text, passes letter = true) (stops : ∀ letter ∈ rest.head?, passes letter = false) :
    (text ++ rest).dropWhile passes = rest := by
  have whole := List.takeWhile_append_dropWhile (p := passes) (l := text ++ rest)
  rw [takeWhile_append_of_stops all stops] at whole
  exact List.append_cancel_left whole

theorem others_of_absent {separator : Char} {text : List Char} (absent : separator ∉ text) :
    ∀ letter ∈ text, (letter != separator) = true := by
  intro letter member
  rw [bne_iff_ne]
  rintro rfl
  exact absent member

theorem stops_of_ended {separator : Char} {rest : List Char}
    (ended : rest = [] ∨ rest.head? = some separator) :
    ∀ letter ∈ rest.head?, (letter != separator) = false := by
  rintro letter first
  rcases ended with rfl | head
  · cases first
  · rw [head] at first
    cases first
    exact bne_self_eq_false separator

/-- A text that ends where a separator follows is all that stands before the separator. -/
theorem takeWhile_append_of_ended {separator : Char} {text rest : List Char} (absent : separator ∉ text)
    (ended : rest = [] ∨ rest.head? = some separator) :
    (text ++ rest).takeWhile (· != separator) = text :=
  takeWhile_append_of_stops (others_of_absent absent) (stops_of_ended ended)

/-- What follows such a text is all that stands from the separator on. -/
theorem dropWhile_append_of_ended {separator : Char} {text rest : List Char} (absent : separator ∉ text)
    (ended : rest = [] ∨ rest.head? = some separator) :
    (text ++ rest).dropWhile (· != separator) = rest :=
  dropWhile_append_of_stops (others_of_absent absent) (stops_of_ended ended)

/-- A piece has its characters from the text, and none of them is the separator. -/
theorem mem_of_mem_pieces {separator letter : Char} {text piece : List Char}
    (member : piece ∈ pieces separator text) (inside : letter ∈ piece) :
    letter ∈ text ∧ letter ≠ separator := by
  induction text generalizing piece with
  | nil =>
    rw [pieces, List.mem_singleton] at member
    subst member
    cases inside
  | cons head rest ih =>
    by_cases same : head = separator
    · rw [pieces, if_pos same] at member
      rcases List.mem_cons.mp member with rfl | later
      · cases inside
      · have found := ih later inside
        exact ⟨List.mem_cons_of_mem _ found.1, found.2⟩
    · obtain ⟨first, others, shape⟩ := List.exists_cons_of_ne_nil (pieces_ne_nil separator rest)
      rw [pieces, if_neg same, shape] at member
      rw [shape] at ih
      rcases List.mem_cons.mp member with rfl | later
      · rcases List.mem_cons.mp inside with rfl | deeper
        · exact ⟨List.mem_cons_self, same⟩
        · have found := ih List.mem_cons_self deeper
          exact ⟨List.mem_cons_of_mem _ found.1, found.2⟩
      · have found := ih (List.mem_cons_of_mem _ later) inside
        exact ⟨List.mem_cons_of_mem _ found.1, found.2⟩

/-- What stands between separators, or is one, is in a piece or is the separator. -/
theorem mem_of_mem_joined {separator letter : Char} {parts : List (List Char)}
    (member : letter ∈ joined separator parts) :
    letter = separator ∨ ∃ part ∈ parts, letter ∈ part := by
  fun_induction joined separator parts with
  | case1 => cases member
  | case2 piece => exact Or.inr ⟨piece, List.mem_singleton.mpr rfl, member⟩
  | case3 piece next rest ih =>
    rcases List.mem_append.mp member with inside | behind
    · exact Or.inr ⟨piece, List.mem_cons_self, inside⟩
    · rcases List.mem_cons.mp behind with same | later
      · exact Or.inl same
      · rcases ih later with same | ⟨part, among, inside⟩
        · exact Or.inl same
        · exact Or.inr ⟨part, List.mem_cons_of_mem _ among, inside⟩

/-- What is in a part is in the parts with separators between them. -/
theorem mem_joined_of_mem {separator letter : Char} {parts : List (List Char)} {part : List Char}
    (among : part ∈ parts) (inside : letter ∈ part) : letter ∈ joined separator parts := by
  fun_induction joined separator parts with
  | case1 => cases among
  | case2 piece =>
    rw [← List.mem_singleton.mp among]
    exact inside
  | case3 piece next rest ih =>
    rcases List.mem_cons.mp among with rfl | later
    · exact List.mem_append_left _ inside
    · exact List.mem_append_right _ (List.mem_cons_of_mem _ (ih later))

/-- Trimming adds no character. -/
theorem mem_of_mem_trim {isDropped : Char → Bool} {text : List Char} {letter : Char}
    (member : letter ∈ trim isDropped text) : letter ∈ text := by
  unfold trim at member
  have inner := (List.dropWhile_sublist isDropped).subset (List.mem_reverse.mp member)
  exact (List.dropWhile_sublist isDropped).subset (List.mem_reverse.mp inner)

/-! ### Dropping at the end -/

/-- A text is what is left without a class at its end, and what is lost is in the class. -/
theorem exists_eq_trimEnd_append (isDropped : Char → Bool) (text : List Char) :
    ∃ lost, text = trimEnd isDropped text ++ lost ∧ ∀ letter ∈ lost, isDropped letter = true := by
  refine ⟨(text.reverse.takeWhile isDropped).reverse, ?_, fun letter member => ?_⟩
  · rw [trimEnd, ← List.reverse_append, List.takeWhile_append_dropWhile, List.reverse_reverse]
  · exact List.all_eq_true.mp List.all_takeWhile letter (List.mem_reverse.mp member)

theorem mem_of_mem_trimEnd {isDropped : Char → Bool} {text : List Char} {letter : Char}
    (member : letter ∈ trimEnd isDropped text) : letter ∈ text :=
  List.mem_reverse.mp ((List.dropWhile_sublist isDropped).subset (List.mem_reverse.mp member))

/-- If something is left of what stands behind a text, the text is left as it is. -/
theorem trimEnd_append (isDropped : Char → Bool) (text behind : List Char) :
    trimEnd isDropped (text ++ behind) =
      if (trimEnd isDropped behind).isEmpty then trimEnd isDropped text
      else text ++ trimEnd isDropped behind := by
  unfold trimEnd
  rw [List.reverse_append, List.dropWhile_append, List.isEmpty_reverse, apply_ite List.reverse,
    List.reverse_append, List.reverse_reverse]

/-- **What is dropped at the end of a text was at its end before**: without it, trimming leaves a text that
lacks nothing but characters that were dropped there or are dropped by trimming. -/
theorem exists_trim_eq_append (isDropped isCut : Char → Bool) (text : List Char) :
    ∃ lost, trim isDropped text = trim isDropped (trimEnd isCut text) ++ lost ∧
      ∀ letter ∈ lost, isDropped letter = true ∨ isCut letter = true := by
  obtain ⟨cut, whole, allCut⟩ := exists_eq_trimEnd_append isCut text
  generalize trimEnd isCut text = base at whole ⊢
  subst whole
  show ∃ lost, trimEnd isDropped ((base ++ cut).dropWhile isDropped) =
    trimEnd isDropped (base.dropWhile isDropped) ++ lost ∧ _
  rw [List.dropWhile_append]
  split
  · rename_i nothing
    rw [List.isEmpty_iff.mp nothing]
    refine ⟨_, (List.nil_append _).symm, fun letter member => Or.inr (allCut letter ?_)⟩
    exact (List.dropWhile_sublist _).subset (mem_of_mem_trimEnd member)
  · obtain ⟨dropped, whole, allDropped⟩ := exists_eq_trimEnd_append isDropped (base.dropWhile isDropped)
    rw [trimEnd_append]
    split
    · exact ⟨[], (List.append_nil _).symm, nofun⟩
    · refine ⟨dropped ++ trimEnd isDropped cut, ?_, fun letter member => ?_⟩
      · rw [← List.append_assoc, ← whole]
      · rcases List.mem_append.mp member with early | late
        · exact Or.inl (allDropped letter early)
        · exact Or.inr (allCut letter (mem_of_mem_trimEnd late))

/-- A text without characters that are dropped is left as it is. -/
theorem trim_of_kept {isDropped : Char → Bool} {text : List Char} (kept : ∀ letter ∈ text, isDropped letter = false) :
    trim isDropped text = text := by
  have stays {letters : List Char} (kept : ∀ letter ∈ letters, isDropped letter = false) :
      letters.dropWhile isDropped = letters :=
    dropWhile_append_of_stops (List.forall_mem_nil _) fun letter first => kept letter (List.mem_of_mem_head? first)
  rw [trim, stays kept, stays fun letter member => kept letter (List.mem_reverse.mp member), List.reverse_reverse]

/-! ### Adding what is dropped -/

/-- **What trimming drops may as well not have been there.** -/
theorem trim_append_append {isDropped : Char → Bool} {before behind : List Char}
    (dropsBefore : ∀ letter ∈ before, isDropped letter = true)
    (dropsBehind : ∀ letter ∈ behind, isDropped letter = true) (text : List Char) :
    trim isDropped (before ++ text ++ behind) = trim isDropped text := by
  have nothingBehind : behind.dropWhile isDropped = [] := by
    rw [← List.append_nil behind, List.dropWhile_append_of_pos dropsBehind]
    rfl
  have nothingAtEnd : trimEnd isDropped behind = [] := by
    have reversed : ∀ letter ∈ behind.reverse, isDropped letter = true :=
      fun letter member => dropsBehind letter (List.mem_reverse.mp member)
    rw [trimEnd, ← List.append_nil behind.reverse, List.dropWhile_append_of_pos reversed]
    rfl
  show trimEnd isDropped ((before ++ text ++ behind).dropWhile isDropped) =
    trimEnd isDropped (text.dropWhile isDropped)
  rw [List.append_assoc, List.dropWhile_append_of_pos dropsBefore, List.dropWhile_append]
  split
  · rename_i nothing
    rw [List.isEmpty_iff.mp nothing, nothingBehind]
  · rw [trimEnd_append, nothingAtEnd]
    rfl

end SecretSource.Text

namespace SecretSource.Vault.SecretRequest

open SecretSource.Text

/-- The segments of a request are those of the path that is reported for it. -/
theorem segments_eq_pieces (request : SecretRequest) :
    request.segments = pieces '/' request.path.toList := by
  have shape : request.path.toList =
      (trimSlashes request.mount).toList
        ++ '/' :: ("data".toList ++ '/' :: (trimSlashes request.name).toList) := by
    simp [path, dataPath]
  have middle : pieces '/' "data".toList = ["data".toList] := by decide
  rw [shape, pieces_append_cons, pieces_append_cons, middle, List.singleton_append, segments]

/-- What stands in a segment of a request stands in its mount or in its name, or is a letter of `data`. -/
theorem mem_of_mem_segments {request : SecretRequest} {segment : List Char} {letter : Char}
    (member : segment ∈ request.segments) (inside : letter ∈ segment) :
    letter ∈ request.mount.toList ∨ letter ∈ "data".toList ∨ letter ∈ request.name.toList := by
  have trimmed : ∀ {text : String}, segment ∈ pieces '/' (trimSlashes text).toList →
      letter ∈ text.toList := by
    intro text cut
    have found := (mem_of_mem_pieces cut inside).1
    rw [trimSlashes, String.toList_ofList] at found
    exact mem_of_mem_trim found
  rcases List.mem_append.mp member with mount | others
  · exact Or.inl (trimmed mount)
  · rcases List.mem_cons.mp others with rfl | name
    · exact Or.inr (Or.inl inside)
    · exact Or.inr (Or.inr (trimmed name))

end SecretSource.Vault.SecretRequest
