/-
**What is printed behind the host is read back.**

An address is settled if no part behind its host holds a character that would be written otherwise there,
and no segment would be read as dots. Reading gives settled addresses, and pushing segments and adding a
pair to the query keep them settled, whatever is pushed. Nothing in a settled address can be taken for the
start of another part.

* `eq_of_written_eq`: a path without slashes in its segments is known from its text.
* `Path.read_written`, `readTail_written`: reading what is printed gives path, query and fragment.
* `isSettled_of_read`, `IsSettled.withPath`, `IsSettled.withPair`: addresses that are read, and what keeps
  them settled.
-/

import SecretSource.Proofs.Url.Authority
import SecretSource.Proofs.Url.Resolved

namespace SecretSource.Text.Percent

/-- An encoded text holds only characters that are kept where the signs of written bytes are. -/
theorem isKept_of_mem_encode {isRefused isRefusedToo : Char → Bool}
    (signsKept : signs.all (isKept isRefusedToo) = true)
    (weaker : ∀ letter, isRefusedToo letter = true → isRefused letter = true)
    {text : List Char} {letter : Char} (member : letter ∈ encode isRefused text) :
    isKept isRefusedToo letter = true := by
  rcases mem_encode member with sign | ⟨-, kept⟩
  · exact List.all_eq_true.mp signsKept letter sign
  · simp only [isKept, Bool.and_eq_true, decide_eq_true_eq, Bool.not_eq_true'] at kept ⊢
    refine ⟨kept.1, Bool.eq_false_iff.mpr fun refused => ?_⟩
    rw [weaker letter refused] at kept
    cases kept.2

end SecretSource.Text.Percent

namespace SecretSource.Url

open SecretSource.Text

/-- Every character of a text stands for itself where some characters are refused. -/
def StandsAsItIs (isRefused : Char → Bool) (text : List Char) : Prop :=
  ∀ letter ∈ text, Percent.isKept isRefused letter = true

theorem standsAsItIs_encode {isRefused : Char → Bool}
    (signsKept : Percent.signs.all (Percent.isKept isRefused) = true) (text : List Char) :
    StandsAsItIs isRefused (Percent.encode isRefused text) := fun _ member =>
  Percent.isKept_of_mem_encode signsKept (fun _ refused => refused) member

/-- A sign that is refused is not in a text that stands as it is. -/
theorem StandsAsItIs.not_mem {isRefused : Char → Bool} {text : List Char}
    (stands : StandsAsItIs isRefused text) {letter : Char} (refused : isRefused letter = true) :
    letter ∉ text := by
  intro member
  have kept := stands letter member
  rw [Percent.isKept, refused, Bool.not_true, Bool.and_false] at kept
  cases kept

namespace Path

/-- Every segment of a path stands as it is, and no segment holds a backslash, which would be read as a
slash. -/
def IsSpelled (path : Path) : Prop :=
  ∀ segment ∈ path, StandsAsItIs isPathRefused segment ∧ '\\' ∉ segment

/-! ### The text of a path -/

/-- A resolved path is known from its text. -/
theorem eq_of_written_eq {first second : Path} (resolved : IsResolved first)
    (resolved' : IsResolved second) (same : first.written = second.written) : first = second := by
  have front : first <+: second :=
    prefix_of_continuesAt resolved resolved' ⟨[], by rw [List.append_nil, same], Or.inl rfl⟩
  have back : second <+: first :=
    prefix_of_continuesAt resolved' resolved ⟨[], by rw [List.append_nil, same], Or.inl rfl⟩
  exact front.eq_of_length (Nat.le_antisymm front.length_le back.length_le)

/-- The text of a path is a slash and its segments with slashes between them. -/
theorem written_eq_joined {path : Path} (someSegment : path ≠ []) :
    path.written = '/' :: joined '/' path := by
  induction path with
  | nil => exact absurd rfl someSegment
  | cons segment rest ih =>
    cases rest with
    | nil =>
      rw [joined, written, List.flatMap_cons, List.flatMap_nil, List.append_nil]
    | cons next others =>
      have later : Path.written (next :: others) = '/' :: joined '/' (next :: others) :=
        ih (List.cons_ne_nil next others)
      rw [joined, ← later]
      rfl

theorem mem_of_mem_written {path : Path} {letter : Char} (member : letter ∈ path.written) :
    letter = '/' ∨ ∃ segment ∈ path, letter ∈ segment := by
  obtain ⟨segment, inPath, inside⟩ := List.mem_flatMap.mp member
  rcases List.mem_cons.mp inside with slash | deeper
  · exact Or.inl slash
  · exact Or.inr ⟨segment, inPath, deeper⟩

/-- A sign other than the slash that is refused in a path is not in the text of a spelled path. -/
theorem IsSpelled.not_mem_written {path : Path} (spelled : IsSpelled path) {letter : Char}
    (refused : isPathRefused letter = true) (noSlash : letter ≠ '/') : letter ∉ path.written := by
  intro member
  rcases mem_of_mem_written member with slash | ⟨segment, inPath, inside⟩
  · exact noSlash slash
  · exact (spelled segment inPath).1.not_mem refused inside

/-- Segments that are no dots are read one by one. -/
theorem resolve_eq_append {done segments : List (List Char)}
    (plain : ∀ segment ∈ segments, readsAsDots segment = false) :
    resolve done segments = done ++ segments := by
  induction segments generalizing done with
  | nil => exact (List.append_nil done).symm
  | cons segment rest ih =>
    have noDots := plain segment List.mem_cons_self
    rw [readsAsDots, Bool.or_eq_false_iff, beq_eq_false_iff_ne, beq_eq_false_iff_ne] at noDots
    rw [resolve, if_neg noDots.2, if_neg noDots.1,
      ih fun other member => plain other (List.mem_cons_of_mem _ member), List.append_assoc,
      List.singleton_append]

/-- **Reading the text of a path gives the path**, if it is resolved and spelled. -/
theorem read_written {path : Path} (someSegment : path ≠ []) (resolved : IsResolved path)
    (spelled : IsSpelled path) : read path.written = path := by
  have turned : path.written.map (fun letter => if letter = '\\' then '/' else letter) =
      path.written := by
    refine (List.map_congr_left fun letter member => if_neg ?_).trans (List.map_id _)
    rintro rfl
    rcases mem_of_mem_written member with slash | ⟨segment, inPath, inside⟩
    · cases slash
    · exact (spelled segment inPath).2 inside
  have kept : path.map (Percent.encode isPathRefused) = path :=
    (List.map_congr_left fun segment member =>
      Percent.encode_eq_self (spelled segment member).1).trans (List.map_id _)
  unfold read
  rw [turned, written_eq_joined someSegment]
  simp only
  rw [pieces_joined someSegment fun segment member => (resolved segment member).1, kept,
    resolve_eq_append fun segment member => (resolved segment member).2]
  rfl

/-! ### Reading and pushing -/

/-- Something is read behind a path if there is a segment to read. -/
theorem resolve_ne_nil {done segments : List (List Char)} (someSegment : done ++ segments ≠ []) :
    resolve done segments ≠ [] := by
  induction segments generalizing done with
  | nil => simpa [resolve] using someSegment
  | cons segment rest ih =>
    have further : ∀ before : Path, rest.isEmpty ≠ true → resolve before rest ≠ [] := by
      intro before more
      refine ih (List.append_ne_nil_of_right_ne_nil before ?_)
      rintro rfl
      exact more rfl
    rw [resolve]
    split
    · split
      · simp
      · exact further _ ‹_›
    · split
      · split
        · simp
        · exact further _ ‹_›
      · exact ih (by simp)

theorem read_ne_nil (text : List Char) : read text ≠ [] := by
  unfold read
  exact resolve_ne_nil (by simp [pieces_ne_nil])

/-- A path that was read is spelled. -/
theorem isSpelled_read (text : List Char) : IsSpelled (read text) := by
  intro segment member
  unfold read at member
  rcases mem_resolve member with absurdly | rfl | ⟨encoded, -⟩
  · cases absurdly
  · exact ⟨fun _ inside => absurd inside List.not_mem_nil, List.not_mem_nil⟩
  · obtain ⟨piece, cut, rfl⟩ := List.mem_map.mp encoded
    refine ⟨standsAsItIs_encode (by decide) piece, fun backslash => ?_⟩
    rcases Percent.mem_encode backslash with sign | ⟨inPiece, -⟩
    · exact absurd sign (by decide)
    · have inText := (mem_of_mem_pieces cut inPiece).1
      have turned : '\\' ∈ text.map fun letter => if letter = '\\' then '/' else letter := by
        split at inText
        · rename_i rest shape
          rw [shape]
          exact List.mem_cons_of_mem _ inText
        · exact inText
      obtain ⟨letter, -, same⟩ := List.mem_map.mp turned
      split at same
      · cases same
      · exact absurd same ‹_›

/-- Pushing keeps a path spelled, whatever is pushed. -/
theorem IsSpelled.push {path : Path} (spelled : IsSpelled path) (pushed : List Char) :
    IsSpelled (path.push pushed) := by
  intro segment member
  rcases mem_of_mem_push member with old | rfl | ⟨-, -, rfl⟩
  · exact spelled segment old
  · exact ⟨fun _ inside => absurd inside List.not_mem_nil, List.not_mem_nil⟩
  · refine ⟨fun letter inside => ?_, Percent.not_mem_encode_of_isRefused (by decide) (by decide) _⟩
    refine Percent.isKept_of_mem_encode (by decide) (fun other refused => ?_) inside
    rw [isSegmentRefused, refused, Bool.true_or]

theorem IsSpelled.extend {path : Path} (spelled : IsSpelled path) (segments : List (List Char)) :
    IsSpelled (path.extend segments) := by
  induction segments generalizing path with
  | nil => exact spelled
  | cons segment rest ih => exact ih (spelled.push segment)

theorem IsSpelled.withoutEnd {path : Path} (spelled : IsSpelled path) : IsSpelled path.withoutEnd := by
  unfold Path.withoutEnd
  split
  · split
    · exact spelled
    · exact fun segment member => spelled segment ((List.dropLast_sublist path).subset member)
  · exact spelled

theorem push_ne_nil {path : Path} (rooted : path ≠ []) (pushed : List Char) : path.push pushed ≠ [] := by
  unfold Path.push
  split
  · exact rooted
  · simp only
    split
    · simp
    · split <;> simp

theorem extend_ne_nil {path : Path} (rooted : path ≠ []) (segments : List (List Char)) :
    path.extend segments ≠ [] := by
  induction segments generalizing path with
  | nil => exact rooted
  | cons segment rest ih => exact ih (push_ne_nil rooted segment)

end Path

/-! ### Addresses -/

/-- Nothing behind the host of an address can be taken for the start of another part. -/
structure Address.IsSettled (address : Address) : Prop where
  rooted : address.path ≠ []
  resolved : Path.IsResolved address.path
  spelled : Path.IsSpelled address.path
  query : ∀ query, address.query = some query → StandsAsItIs isQueryRefused query
  fragment : ∀ fragment, address.fragment = some fragment → StandsAsItIs isFragmentRefused fragment

/-- The text behind path and query ends there or goes on with a number sign. -/
theorem Address.fragmentText_ended (address : Address) :
    address.fragmentText = [] ∨ address.fragmentText.head? = some '#' := by
  unfold fragmentText
  cases address.fragment with
  | none => exact Or.inl rfl
  | some fragment => exact Or.inr rfl

theorem Address.queryText_ended (address : Address) :
    address.queryText = [] ∨ address.queryText.head? = some '?' := by
  unfold queryText
  cases address.query with
  | none => exact Or.inl rfl
  | some query => exact Or.inr rfl

/-- Two addresses differ in nothing but their paths. -/
structure Address.SameOutsidePath (first second : Address) : Prop where
  isSecure : first.isSecure = second.isSecure
  user : first.user = second.user
  password : first.password = second.password
  host : first.host = second.host
  port : first.port = second.port
  query : first.query = second.query
  fragment : first.fragment = second.fragment

/-- What is printed before the path. -/
def Address.beforePath (address : Address) : List Char :=
  address.schemeText ++ address.userText ++ address.hostText

/-- What is printed behind the path. -/
def Address.behindPath (address : Address) : List Char :=
  address.queryText ++ address.fragmentText

theorem Address.written_eq_append (address : Address) :
    address.written = address.beforePath ++ address.path.written ++ address.behindPath :=
  List.append_assoc _ address.queryText address.fragmentText

namespace Address.SameOutsidePath

variable {first second third : Address}

theorem symm (same : first.SameOutsidePath second) : second.SameOutsidePath first :=
  ⟨same.isSecure.symm, same.user.symm, same.password.symm, same.host.symm, same.port.symm,
    same.query.symm, same.fragment.symm⟩

theorem trans (same : first.SameOutsidePath second) (same' : second.SameOutsidePath third) :
    first.SameOutsidePath third :=
  ⟨same.isSecure.trans same'.isSecure, same.user.trans same'.user, same.password.trans same'.password,
    same.host.trans same'.host, same.port.trans same'.port, same.query.trans same'.query,
    same.fragment.trans same'.fragment⟩

theorem withPair (same : first.SameOutsidePath second) (name value : List Char) :
    (first.withPair name value).SameOutsidePath (second.withPair name value) := by
  refine ⟨same.isSecure, same.user, same.password, same.host, same.port, ?_, same.fragment⟩
  unfold Address.withPair
  rw [same.query]

theorem beforePath_eq (same : first.SameOutsidePath second) : first.beforePath = second.beforePath := by
  unfold beforePath schemeText userText hostText
  rw [same.isSecure, same.user, same.password, same.host, same.port]

theorem behindPath_eq (same : first.SameOutsidePath second) : first.behindPath = second.behindPath := by
  unfold behindPath queryText fragmentText
  rw [same.query, same.fragment]

/-- The texts of two such addresses are the same exactly if those of their paths are. -/
theorem written_eq_iff (same : first.SameOutsidePath second) :
    first.written = second.written ↔ first.path.written = second.path.written := by
  rw [written_eq_append, written_eq_append, same.beforePath_eq, same.behindPath_eq, List.append_left_inj,
    List.append_right_inj]

end Address.SameOutsidePath

namespace Address.IsSettled

variable {address : Address}

/-- No number sign stands before the fragment. -/
theorem numberSign_not_mem (settled : address.IsSettled) :
    '#' ∉ address.path.written ++ address.queryText := by
  intro member
  rcases List.mem_append.mp member with inPath | inQuery
  · exact settled.spelled.not_mem_written (by decide) (by decide) inPath
  · unfold queryText at inQuery
    split at inQuery
    · rename_i query present
      rcases List.mem_cons.mp inQuery with absurdly | inside
      · cases absurdly
      · exact (settled.query query present).not_mem (by decide) inside
    · cases inQuery

/-- **What is printed behind the host is read back** as the path, the query and the fragment that were
printed. -/
theorem readTail_written (settled : address.IsSettled) :
    readTail (address.path.written ++ address.behindPath) =
      ⟨address.path, address.query, address.fragment⟩ := by
  have beforeFragment := takeWhile_append_of_ended settled.numberSign_not_mem address.fragmentText_ended
  have fragment := dropWhile_append_of_ended settled.numberSign_not_mem address.fragmentText_ended
  have noQuestionMark : '?' ∉ address.path.written :=
    settled.spelled.not_mem_written (by decide) (by decide)
  have beforeQuery := takeWhile_append_of_ended noQuestionMark address.queryText_ended
  have query := dropWhile_append_of_ended noQuestionMark address.queryText_ended
  rw [behindPath, ← List.append_assoc]
  unfold readTail
  simp only [beforeFragment, fragment, beforeQuery, query,
    Path.read_written settled.rooted settled.resolved settled.spelled]
  congr 1
  · unfold queryText
    cases present : address.query with
    | none => rfl
    | some query => exact congrArg some (Percent.encode_eq_self (settled.query query present))
  · unfold fragmentText
    cases present : address.fragment with
    | none => rfl
    | some fragment => exact congrArg some (Percent.encode_eq_self (settled.fragment fragment present))

/-- Another path that is settled may stand in the place of the path. -/
theorem withPath (settled : address.IsSettled) {path : Path} (rooted : path ≠ [])
    (resolved : Path.IsResolved path) (spelled : Path.IsSpelled path) :
    { address with path := path }.IsSettled :=
  ⟨rooted, resolved, spelled, settled.query, settled.fragment⟩

/-- A pair that stands as it is may be added to the query. -/
theorem withPair (settled : address.IsSettled) {name value : List Char}
    (stands : StandsAsItIs isQueryRefused (name ++ '=' :: value)) :
    (address.withPair name value).IsSettled := by
  refine ⟨settled.rooted, settled.resolved, settled.spelled, fun query present => ?_, settled.fragment⟩
  unfold Address.withPair at present
  simp only [Option.some.injEq] at present
  split at present
  · exact present ▸ stands
  · exact present ▸ stands
  · rename_i before _ old
    rw [← present]
    intro letter member
    rcases List.mem_append.mp member with inside | added
    · exact settled.query before old letter inside
    · rcases List.mem_cons.mp added with rfl | inPair
      · decide
      · exact stands letter inPair

end Address.IsSettled

/-! ### Reading -/

/-- What stands behind the host of an address was read by `readTail`. -/
theorem exists_tail_of_readWeb {isSecure : Bool} {text : List Char} {address : Address}
    (done : readWeb isSecure text = .ok address) :
    ∃ behind, readTail behind = ⟨address.path, address.query, address.fragment⟩ := by
  obtain ⟨part, -, done⟩ := exists_of_bind_eq_ok done
  split at done
  rename_i host rest _
  split at done
  · cases done
  · obtain ⟨target, -, done⟩ := exists_of_bind_eq_ok done
    obtain ⟨⟨port, behind⟩, -, done⟩ := exists_of_bind_eq_ok done
    rw [← Except.ok.inj done]
    exact ⟨behind, rfl⟩

/-- An address that was read is settled. -/
theorem isSettled_of_read {text : String} {address : Address}
    (done : Target.read text = .ok (.web address)) : address.IsSettled := by
  obtain ⟨-, _, _, -, web, -⟩ := exists_scheme_of_readCleaned done
  obtain ⟨behind, tail⟩ := exists_tail_of_readWeb web
  obtain ⟨path, query, fragment⟩ := Tail.mk.inj tail
  refine ⟨path ▸ Path.read_ne_nil _, path ▸ Path.isResolved_read _, path ▸ Path.isSpelled_read _, ?_, ?_⟩
  · intro text present
    rw [present] at query
    split at query
    · cases query
      exact standsAsItIs_encode (by decide) _
    · cases query
  · intro text present
    rw [present] at fragment
    split at fragment
    · cases fragment
      exact standsAsItIs_encode (by decide) _
    · cases fragment

end SecretSource.Url
