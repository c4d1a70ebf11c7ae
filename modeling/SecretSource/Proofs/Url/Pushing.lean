/-
**Pushing segments on a path.**

A pushed segment does one of three things. A dot segment is passed over. A segment that only becomes a
double dot once tabs and line ends are dropped from it climbs: it takes the last segment away, unless that
is a drive, and leaves an empty one. Any other segment leaves its spelling behind the path.

* `push_of_isDots`, `push_of_climbs`, `push_of_plain`: the three cases.
* `extend_eq_append`: segments that do not climb leave their spellings one after the other.
* `exists_pushVersion`: the path that all requests of a client start with.
-/

import Mathlib.Data.List.Basic
import SecretSource.Proofs.Text.PercentCoding
import SecretSource.Url.Path

namespace SecretSource.Url.Path

open SecretSource.Text

/-- Whether a segment is passed over when it is pushed. -/
def isDots (segment : List Char) : Bool := segment == ['.'] || segment == ['.', '.']

/-- A segment without the tabs and line ends that an address drops. -/
def kept (segment : List Char) : List Char := segment.filter (! isDropped ·)

/-- Whether a segment is a double dot in disguise: it is passed on, and becomes a double dot. -/
def climbs (segment : List Char) : Bool := ! isDots segment && kept segment == ['.', '.']

/-- What a segment that neither is passed over nor climbs leaves on a path. -/
def spelling (segment : List Char) : List Char :=
  if kept segment = ['.'] then [] else Percent.encode isSegmentRefused (kept segment)

/-- A path that is more than the slash of the root. -/
def BeyondRoot (path : Path) : Prop := path ≠ [] ∧ path ≠ [[]]

/-- Whether a text is free of what addresses drop can be computed. -/
theorem isDropped_eq_false_of_all {text : List Char} (clean : text.all (! isDropped ·) = true) :
    ∀ letter ∈ text, isDropped letter = false := by
  simpa using clean

theorem kept_eq_self {segment : List Char} (clean : ∀ letter ∈ segment, isDropped letter = false) :
    kept segment = segment := by
  refine List.filter_eq_self.mpr fun letter member => ?_
  rw [clean letter member]
  rfl

/-! ### One segment -/

theorem push_of_isDots {segment : List Char} (dots : isDots segment = true) (path : Path) :
    push path segment = path := by
  refine if_pos ?_
  simpa [isDots] using dots

/-- A segment that is no dot segment is pushed without the tabs and line ends in it. -/
theorem push_of_not_isDots {path : Path} {segment : List Char} (beyond : path ≠ [[]])
    (counts : isDots segment = false) :
    push path segment =
      if kept segment = ['.', '.'] then parent path ++ [[]]
      else if kept segment = ['.'] then path ++ [[]]
      else path ++ [Percent.encode isSegmentRefused (kept segment)] := by
  have notDots : ¬ (segment = ['.'] ∨ segment = ['.', '.']) := by
    simpa [isDots] using counts
  unfold push
  rw [if_neg notDots]
  simp only [if_neg beyond]
  rfl

theorem push_of_climbs {path : Path} {segment : List Char} (beyond : path ≠ [[]])
    (climbing : climbs segment = true) : push path segment = parent path ++ [[]] := by
  simp only [climbs, Bool.and_eq_true, Bool.not_eq_true', beq_iff_eq] at climbing
  rw [push_of_not_isDots beyond climbing.1, if_pos climbing.2]

theorem push_of_plain {path : Path} {segment : List Char} (beyond : path ≠ [[]])
    (counts : isDots segment = false) (plain : climbs segment = false) :
    push path segment = path ++ [spelling segment] := by
  have noDouble : kept segment ≠ ['.', '.'] := by
    simpa [climbs, counts] using plain
  rw [push_of_not_isDots beyond counts, if_neg noDouble, spelling]
  split <;> rfl

/-- Such a segment ends the path that it is pushed on, whatever that is. -/
theorem getLast?_push {segment : List Char} (counts : isDots segment = false)
    (plain : climbs segment = false) (path : Path) :
    (push path segment).getLast? = some (spelling segment) := by
  by_cases beyond : path = [[]]
  · have notDots : ¬ (segment = ['.'] ∨ segment = ['.', '.']) := by
      simpa [isDots] using counts
    have rooted : push path segment = push [] segment := by
      rw [beyond]
      unfold push
      rw [if_neg notDots, if_neg notDots]
      rfl
    rw [rooted, push_of_plain (by simp) counts plain, List.getLast?_concat]
  · rw [push_of_plain beyond counts plain, List.getLast?_concat]

/-- A segment without tabs and line ends never climbs. -/
theorem climbs_eq_false {segment : List Char} (clean : ∀ letter ∈ segment, isDropped letter = false) :
    climbs segment = false := by
  rw [climbs, kept_eq_self clean, isDots]
  cases segment == ['.'] <;> cases segment == ['.', '.'] <;> rfl

/-- The spelling of a segment without tabs and line ends that is no dot segment. -/
theorem spelling_eq_encode {segment : List Char}
    (clean : ∀ letter ∈ segment, isDropped letter = false) (counts : isDots segment = false) :
    spelling segment = Percent.encode isSegmentRefused segment := by
  have noDot : segment ≠ ['.'] := by
    rintro rfl
    cases counts
  rw [spelling, kept_eq_self clean, if_neg noDot]

/-! ### Many segments -/

theorem beyondRoot_append (path : Path) (segment : List Char) (someSegment : path ≠ []) :
    BeyondRoot (path ++ [segment]) := by
  obtain ⟨first, others, rfl⟩ := List.exists_cons_of_ne_nil someSegment
  exact ⟨by simp, by simp⟩

theorem extend_nil (path : Path) : extend path [] = path := rfl

theorem extend_cons (path : Path) (segment : List Char) (rest : List (List Char)) :
    extend path (segment :: rest) = extend (push path segment) rest := rfl

theorem extend_append (path : Path) (first second : List (List Char)) :
    extend path (first ++ second) = extend (extend path first) second :=
  List.foldl_append

/-- Segments that do not climb leave their spellings one after the other. -/
theorem extend_eq_append {path : Path} (beyond : BeyondRoot path) {segments : List (List Char)}
    (plain : ∀ segment ∈ segments, climbs segment = false) :
    extend path segments = path ++ (segments.filter (! isDots ·)).map spelling := by
  induction segments generalizing path with
  | nil => exact (List.append_nil path).symm
  | cons segment rest ih =>
    have later : ∀ other ∈ rest, climbs other = false := fun other member =>
      plain other (List.mem_cons_of_mem _ member)
    rw [extend_cons]
    cases dots : isDots segment with
    | true =>
      rw [push_of_isDots dots, ih beyond later]
      simp [dots]
    | false =>
      rw [push_of_plain beyond.2 dots (plain segment List.mem_cons_self),
        ih (beyondRoot_append path _ beyond.1) later]
      simp [dots]

/-! ### The version of the interface -/

/-- Behind an address that a client is built for, less the empty segments at its end, stands the version of
the interface. -/
theorem exists_pushVersion (path : Path) :
    ∃ front blanks : Path, path = front ++ blanks ∧ (∀ blank ∈ blanks, blank = []) ∧
      push path.withoutEnd "v1".toList = front ++ ["v1".toList] := by
  have pushed : ∀ before : Path, before ≠ [[]] →
      push before "v1".toList = before ++ ["v1".toList] := fun before beyond =>
    push_of_plain beyond (by decide) (by decide)
  unfold withoutEnd
  split
  · rename_i ending
    have shape : path.dropLast ++ [[]] = path := List.dropLast_append_getLast? [] ending
    by_cases root : path.dropLast = [] ∨ path.dropLast = [[]]
    · refine ⟨[], path, rfl, ?_, ?_⟩
      · rw [← shape]
        rcases root with bare | single
        · simp [bare]
        · simp [single]
      · rcases root with bare | single
        · rw [bare] at shape
          subst shape
          decide
        · rw [single] at shape
          subst shape
          decide
    · rw [not_or] at root
      have long : ¬ path.length ≤ 1 := by
        rw [← shape]
        have some_segment := List.length_pos_iff.mpr root.1
        simp only [List.length_append, List.length_singleton]
        omega
      refine ⟨path.dropLast, [[]], shape.symm, by simp, ?_⟩
      rw [if_neg long, pushed _ root.2]
  · rename_i ending
    refine ⟨path, [], (List.append_nil path).symm, by simp, pushed path ?_⟩
    rintro rfl
    exact ending rfl

/-- The path that all requests of a client start with is more than the root. -/
theorem beyondRoot_pushVersion (path : Path) :
    BeyondRoot (push path.withoutEnd "v1".toList) := by
  obtain ⟨front, _, _, _, shape⟩ := exists_pushVersion path
  rw [shape]
  exact ⟨by simp, fun root => by
    have same := congrArg List.getLast? root
    rw [List.getLast?_concat] at same
    cases same⟩

end SecretSource.Url.Path
