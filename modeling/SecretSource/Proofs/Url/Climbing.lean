/-
**When pushed segments take others away.**

Only a segment that climbs can take a segment from the path that it is pushed on, and it does so unless the
path ends firmly: in an empty segment or in a drive.

* `keeps_iff_unclimbed`: pushing some segments takes nothing away exactly if each that climbs follows one
  that leaves a firm end.
* `prefix_extend_of_not_opensClimbing`, `not_prefix_extend`: what stands before some segments survives them
  if the first that counts does not climb; behind at least one segment also only if.
-/

import Mathlib.Data.List.Chain
import SecretSource.Proofs.Url.Pushing

namespace SecretSource.Url.Path

open SecretSource.Text

/-- Whether a segment stays when one that climbs is pushed behind it. -/
def isFirm (segment : List Char) : Bool := segment.isEmpty || isDrive segment

/-- Whether a path ends in a segment that stays when one that climbs is pushed. -/
def endsFirmly (path : Path) : Bool := path.getLast?.any isFirm

/-- Whether a pushed segment leaves a firm end. -/
def leavesFirm (segment : List Char) : Bool :=
  [['.'], ['.', '.']].contains (kept segment) || isFirm (kept segment)

/-- Pushing the segments one by one takes nothing away: every path on the way starts with the one before. -/
def Keeps (path : Path) (segments : List (List Char)) : Prop :=
  ∀ before segment after, segments = before ++ segment :: after →
    extend path before <+: extend path (before ++ [segment])

/-- Of the segments that count, each that climbs follows one that leaves a firm end; `first` stands before
all of them. -/
def Unclimbed (first : List Char) (segments : List (List Char)) : Prop :=
  (first :: segments.filter (! isDots ·)).IsChain fun before segment =>
    climbs segment = true → leavesFirm before = true

instance (first : List Char) (segments : List (List Char)) : Decidable (Unclimbed first segments) :=
  inferInstanceAs (Decidable (List.IsChain _ _))

/-- A path has grown behind another. -/
def Outgrows (path longer : Path) : Prop :=
  ∃ others last, longer = path ++ others ++ [last]

/-- Whether the first segment that counts climbs. -/
def opensClimbing (segments : List (List Char)) : Bool :=
  (segments.find? (! isDots ·)).any climbs

/-! ### Firm segments -/

theorem isKept_of_isAlpha {letter : Char} (alpha : letter.isAlpha = true) :
    Percent.isKept isSegmentRefused letter = true := by
  have refused : isSegmentRefused letter = false := by
    rw [Bool.eq_false_iff]
    intro refused
    simp only [isSegmentRefused, isPathRefused, List.contains_eq_mem, Bool.or_eq_true,
      decide_eq_true_eq, List.mem_cons, List.not_mem_nil, or_false] at refused
    rcases refused with (rfl | rfl | rfl | rfl | rfl | rfl | rfl | rfl | rfl) | rfl | rfl | rfl <;>
      cases alpha
  have bounds : 0x20 ≤ letter.toNat ∧ letter.toNat ≤ 0x7E := by
    rcases Bool.or_eq_true_iff.mp alpha with capital | small
    · have range : letter.val ≥ 'A'.val ∧ letter.val ≤ 'Z'.val := of_decide_eq_true capital
      have lower : 65 ≤ letter.toNat := UInt32.le_iff_toNat_le.mp range.1
      have upper : letter.toNat ≤ 90 := UInt32.le_iff_toNat_le.mp range.2
      omega
    · have range := Bool.and_eq_true_iff.mp small
      have lower : 97 ≤ letter.toNat := UInt32.le_iff_toNat_le.mp (of_decide_eq_true range.1)
      have upper : letter.toNat ≤ 122 := UInt32.le_iff_toNat_le.mp (of_decide_eq_true range.2)
      omega
  simp [Percent.isKept, bounds.1, bounds.2, refused]

/-- A firm segment is kept as it is when it is encoded. -/
theorem isKept_of_isFirm {segment : List Char} (firm : isFirm segment = true) :
    ∀ letter ∈ segment, Percent.isKept isSegmentRefused letter = true := by
  match segment, firm with
  | [], _ => simp
  | [letter, sign], firm =>
    simp only [isFirm, isDrive, List.isEmpty_cons, Bool.false_or, Bool.and_eq_true, Bool.or_eq_true,
      beq_iff_eq] at firm
    intro other member
    simp only [List.mem_cons, List.not_mem_nil, or_false] at member
    rcases member with rfl | rfl
    · exact isKept_of_isAlpha firm.1
    · rcases firm.2 with rfl | rfl <;> decide

/-- Encoding neither makes a segment firm nor takes that from it. -/
theorem isFirm_encode (segment : List Char) :
    isFirm (Percent.encode isSegmentRefused segment) = isFirm segment := by
  rw [Bool.eq_iff_iff]
  constructor
  · intro firm
    have absent : '%' ∉ Percent.encode isSegmentRefused segment := fun member =>
      absurd (isKept_of_isFirm firm '%' member) (by decide)
    rwa [Percent.encode_eq_self_of_absent absent] at firm
  · intro firm
    rwa [Percent.encode_eq_self (isKept_of_isFirm firm)]

/-! ### One segment -/

theorem parent_concat (front : Path) (last : List Char) :
    parent (front ++ [last]) = if isDrive last then front ++ [last] else front := by
  unfold parent
  rw [List.getLast?_concat, List.dropLast_concat]

theorem endsFirmly_concat (front : Path) (last : List Char) :
    endsFirmly (front ++ [last]) = isFirm last := by
  rw [endsFirmly, List.getLast?_concat]
  rfl

/-- A pushed segment leaves the path before it as it is, unless it climbs and the path does not end
firmly. -/
theorem prefix_push_iff {path : Path} (beyond : BeyondRoot path) (segment : List Char) :
    path <+: push path segment ↔ (climbs segment = true → endsFirmly path = true) := by
  cases dots : isDots segment with
  | true =>
    rw [push_of_isDots dots]
    simp [climbs, dots]
  | false =>
    cases climbing : climbs segment with
    | false =>
      rw [push_of_plain beyond.2 dots climbing]
      simp
    | true =>
      obtain ⟨front, last, rfl⟩ := (List.eq_nil_or_concat' path).resolve_left beyond.1
      rw [push_of_climbs beyond.2 climbing, parent_concat, endsFirmly_concat, isFirm]
      cases drive : isDrive last with
      | true => simp
      | false => simp [List.prefix_append_right_inj]

/-- A path that a segment was pushed on without loss ends firmly exactly if the segment leaves a firm
end. -/
theorem endsFirmly_push {path : Path} (beyond : path ≠ [[]]) {segment : List Char}
    (counts : isDots segment = false) : endsFirmly (push path segment) = leavesFirm segment := by
  cases climbing : climbs segment with
  | true =>
    have double : kept segment = ['.', '.'] := by
      simpa [climbs, counts] using climbing
    rw [push_of_climbs beyond climbing, endsFirmly_concat, leavesFirm, double]
    rfl
  | false =>
    have noDouble : kept segment ≠ ['.', '.'] := by
      simpa [climbs, counts] using climbing
    rw [push_of_plain beyond counts climbing, endsFirmly_concat, leavesFirm, spelling]
    by_cases single : kept segment = ['.']
    · rw [if_pos single, single]
      rfl
    · rw [if_neg single]
      simp [single, noDouble, isFirm_encode]

/-! ### Nothing is taken away -/

theorem keeps_cons (path : Path) (segment : List Char) (rest : List (List Char)) :
    Keeps path (segment :: rest) ↔ path <+: push path segment ∧ Keeps (push path segment) rest := by
  constructor
  · intro keeps
    refine ⟨keeps [] segment rest rfl, fun before next after split => ?_⟩
    exact keeps (segment :: before) next after (congrArg (segment :: ·) split)
  · rintro ⟨first, later⟩ before next after split
    cases before with
    | nil =>
      obtain ⟨rfl, rfl⟩ := List.cons.inj split
      exact first
    | cons head others =>
      obtain ⟨rfl, deeper⟩ := List.cons.inj split
      exact later others next after deeper

/-- What is kept from one segment to the next is kept by all of them. -/
theorem Keeps.prefix_extend {path : Path} {segments : List (List Char)}
    (keeps : Keeps path segments) : path <+: extend path segments := by
  induction segments generalizing path with
  | nil => exact List.prefix_refl path
  | cons segment rest ih =>
    obtain ⟨first, later⟩ := (keeps_cons path segment rest).mp keeps
    exact first.trans (ih later)

theorem Keeps.append {path : Path} {first second : List (List Char)}
    (keeps : Keeps path (first ++ second)) : Keeps path first ∧ Keeps (extend path first) second := by
  induction first generalizing path with
  | nil => exact ⟨fun before next after split => by simp at split, keeps⟩
  | cons segment rest ih =>
    obtain ⟨head, later⟩ := (keeps_cons path segment (rest ++ second)).mp keeps
    obtain ⟨front, back⟩ := ih later
    exact ⟨(keeps_cons path segment rest).mpr ⟨head, front⟩, back⟩

theorem beyondRoot_of_start {path longer : Path} (beyond : BeyondRoot path)
    (front : path <+: longer) : BeyondRoot longer := by
  refine ⟨fun bare => ?_, fun root => ?_⟩
  · subst bare
    exact beyond.1 (List.prefix_nil.mp front)
  · subst root
    obtain ⟨rest, shape⟩ := front
    rcases List.append_eq_singleton_iff.mp shape with ⟨bare, _⟩ | ⟨root, _⟩
    · exact beyond.1 bare
    · exact beyond.2 root

/-- **Pushing takes nothing away exactly if each segment that climbs follows one that leaves a firm end.**
The invariant of the induction: the path ends firmly exactly if the last segment that counted left a firm
end. -/
theorem keeps_iff_unclimbed {path : Path} (beyond : BeyondRoot path) {first : List Char}
    (ending : endsFirmly path = leavesFirm first) (segments : List (List Char)) :
    Keeps path segments ↔ Unclimbed first segments := by
  induction segments generalizing path first with
  | nil => simp [Keeps, Unclimbed]
  | cons segment rest ih =>
    rw [keeps_cons]
    cases dots : isDots segment with
    | true =>
      rw [push_of_isDots dots, ih beyond ending]
      simp [Unclimbed, dots]
    | false =>
      have unfolded : Unclimbed first (segment :: rest) ↔
          (climbs segment = true → leavesFirm first = true) ∧ Unclimbed segment rest := by
        simp only [Unclimbed, dots, List.filter_cons, Bool.not_false, if_true,
          List.isChain_cons_cons]
      rw [unfolded, prefix_push_iff beyond, ending]
      refine and_congr_right fun stays => ?_
      have front : path <+: push path segment := by
        rw [prefix_push_iff beyond, ending]
        exact stays
      exact ih (beyondRoot_of_start beyond front) (endsFirmly_push beyond.2 dots)

/-! ### What stands before survives -/

theorem outgrows_iff {path longer : Path} : Outgrows path longer ↔ path <+: longer ∧ longer ≠ path := by
  constructor
  · rintro ⟨others, last, rfl⟩
    rw [List.append_assoc]
    exact ⟨List.prefix_append path _, by simp⟩
  · rintro ⟨⟨more, rfl⟩, other⟩
    have someMore : more ≠ [] := by
      rintro rfl
      exact other (List.append_nil path)
    obtain ⟨others, last, rfl⟩ := (List.eq_nil_or_concat' more).resolve_left someMore
    exact ⟨others, last, (List.append_assoc path others [last]).symm⟩

/-- A path that has outgrown another still does when a segment is pushed. -/
theorem Outgrows.push {path longer : Path} (bare : path ≠ []) (grown : Outgrows path longer)
    (segment : List Char) : Outgrows path (longer.push segment) := by
  obtain ⟨others, last, rfl⟩ := grown
  have beyond := beyondRoot_append (path ++ others) last (List.append_ne_nil_of_left_ne_nil bare others)
  cases dots : isDots segment with
  | true =>
    rw [push_of_isDots dots]
    exact ⟨others, last, rfl⟩
  | false =>
    cases climbing : climbs segment with
    | false =>
      rw [push_of_plain beyond.2 dots climbing]
      exact ⟨others ++ [last], spelling segment, by rw [List.append_assoc path]⟩
    | true =>
      rw [push_of_climbs beyond.2 climbing, parent_concat]
      by_cases drive : isDrive last = true
      · rw [if_pos drive]
        exact ⟨others ++ [last], [], by rw [List.append_assoc path]⟩
      · rw [if_neg drive]
        exact ⟨others, [], rfl⟩

theorem Outgrows.extend {path longer : Path} (bare : path ≠ []) (grown : Outgrows path longer)
    (segments : List (List Char)) : Outgrows path (longer.extend segments) := by
  induction segments generalizing longer with
  | nil => exact grown
  | cons segment rest ih => exact ih (grown.push bare segment)

theorem opensClimbing_cons (segment : List Char) (rest : List (List Char)) :
    opensClimbing (segment :: rest) =
      if isDots segment then opensClimbing rest else climbs segment := by
  unfold opensClimbing
  rw [List.find?_cons]
  cases isDots segment <;> rfl

/-- A path survives segments whose first that counts does not climb. -/
theorem prefix_extend_of_not_opensClimbing {path : Path} (beyond : BeyondRoot path)
    {segments : List (List Char)} (plain : opensClimbing segments = false) :
    path <+: extend path segments := by
  induction segments with
  | nil => exact List.prefix_refl path
  | cons segment rest ih =>
    rw [opensClimbing_cons] at plain
    rw [extend_cons]
    cases dots : isDots segment with
    | true =>
      rw [push_of_isDots dots]
      exact ih (by simpa [dots] using plain)
    | false =>
      have still : climbs segment = false := by simpa [dots] using plain
      have grown : Outgrows path (path ++ [spelling segment]) := ⟨[], _, by rw [List.append_nil]⟩
      rw [push_of_plain beyond.2 dots still]
      exact (outgrows_iff.mp (grown.extend beyond.1 rest)).1

/-- A path that ends firmly survives all segments. -/
theorem prefix_extend_of_endsFirmly {path : Path} (beyond : BeyondRoot path)
    (firm : endsFirmly path = true) (segments : List (List Char)) :
    path <+: extend path segments := by
  induction segments with
  | nil => exact List.prefix_refl path
  | cons segment rest ih =>
    have front : path <+: push path segment := (prefix_push_iff beyond segment).mpr fun _ => firm
    rw [extend_cons]
    by_cases same : push path segment = path
    · rw [same]
      exact ih
    · have grown : Outgrows path (push path segment) := outgrows_iff.mpr ⟨front, same⟩
      exact (outgrows_iff.mp (grown.extend beyond.1 rest)).1

/-- A path behind another segment does not survive segments whose first that counts climbs, unless it ends
firmly: the empty segment that is left in the place of its last one stays. -/
theorem not_prefix_extend {front : Path} {last : List Char} (someFront : front ≠ [])
    (soft : isFirm last = false) {segments : List (List Char)}
    (climbing : opensClimbing segments = true) :
    ¬ front ++ [last] <+: extend (front ++ [last]) segments := by
  have beyond : BeyondRoot (front ++ [last]) := beyondRoot_append front last someFront
  induction segments with
  | nil => cases climbing
  | cons segment rest ih =>
    rw [opensClimbing_cons] at climbing
    rw [extend_cons]
    cases dots : isDots segment with
    | true =>
      rw [push_of_isDots dots]
      exact ih (by simpa [dots] using climbing)
    | false =>
      have climbs : climbs segment = true := by simpa [dots] using climbing
      have noDrive : isDrive last = false := by
        rw [isFirm, Bool.or_eq_false_iff] at soft
        exact soft.2
      have emptied : front ++ [[]] <+: extend (front ++ [[]]) rest :=
        prefix_extend_of_endsFirmly (beyondRoot_append front [] someFront)
          (endsFirmly_concat front []) rest
      rw [push_of_climbs beyond.2 climbs, parent_concat, noDrive]
      intro survived
      have same : front ++ [last] = front ++ [[]] :=
        (List.prefix_of_prefix_length_le survived emptied (by simp)).eq_of_length (by simp)
      have empty : last = [] := by simpa using same
      rw [empty] at soft
      cases soft

end SecretSource.Url.Path
