/-
**Validating a state and building its request find the same wrong.**

Both look at mount, name and version. Validating goes through what is known and tells everything; building a request
needs mount and name, tells what they lack, and looks at the version only if they lack nothing.

* `Attribute.isHollow`, `Attribute.isLacking`: what is wrong with a needed text in the eyes of the one and the other.
* `subjects_stateErrors`: where validating finds something wrong.
* `buildRequest_cases`: the three things that building a request can do.
* `validateState_agreesWithBuildRequest`: if mount and name are known, the one finds something exactly if the other
  does.
-/

import Mathlib.Data.List.Count
import SecretSource.Proofs.Session.Reporting

namespace SecretSource.Provider

open SecretSource.Text (trimSlashes)
open SecretSource.Vault (SecretRequest)

/-! ### The texts that a read needs -/

namespace Attribute

/-- Whether a text is known and is nothing but slashes. -/
def isHollow (value : Attribute String) : Bool := value.value?.any (trimSlashes · = "")

/-- Whether no text is known but one of nothing but slashes. -/
def isLacking (value : Attribute String) : Bool := value.value?.all (trimSlashes · = "")

/-- A text that is not known lacks, but is not hollow. -/
theorem isLacking_of_value?_eq_none {value : Attribute String} (notKnown : value.value? = none) :
    value.isLacking = true ∧ value.isHollow = false := by
  unfold isLacking isHollow
  rw [notKnown]
  exact ⟨rfl, rfl⟩

end Attribute

namespace SecretState

variable {state : SecretState}

/-- The texts that a read needs, with their names. -/
def needed (state : SecretState) : List (String × Attribute String) :=
  [("mount", state.mount), ("name", state.name)]

/-- The names of the needed texts of which something holds, in their order. -/
def namesOf (state : SecretState) (holds : Attribute String → Bool) : List String :=
  (if holds state.mount then ["mount"] else []) ++ if holds state.name then ["name"] else []

/-- Of a needed text the name is there once if something holds of it, and otherwise it is not. -/
theorem count_namesOf (holds : Attribute String → Bool) {input : String × Attribute String}
    (isNeeded : input ∈ state.needed) :
    (state.namesOf holds).count input.1 = if holds input.2 then 1 else 0 := by
  unfold namesOf
  simp only [needed, List.mem_cons, List.not_mem_nil, or_false] at isNeeded
  rcases isNeeded with rfl | rfl <;> cases holds state.mount <;> cases holds state.name <;> rfl

/-- No other names are there. -/
theorem eq_of_mem_namesOf {holds : Attribute String → Bool} {subject : String}
    (member : subject ∈ state.namesOf holds) :
    subject = "mount" ∨ subject = "name" := by
  simp only [namesOf, List.mem_append, List.mem_ite_nil_right, List.mem_singleton] at member
  exact member.imp And.right And.right

/-- If mount and name are known, they lack what they are hollow of. -/
theorem namesOf_isLacking {mount name : String} (isMount : state.mount = .known mount)
    (isName : state.name = .known name) :
    state.namesOf Attribute.isLacking = state.namesOf Attribute.isHollow := by
  unfold namesOf
  rw [isMount, isName]
  rfl

/-- Whether a version is known that cannot be asked for. -/
def hasBadVersion (state : SecretState) : Bool := state.version.value?.any (· ≤ 0)

end SecretState

variable {state : SecretState}

/-! ### Validating -/

/-- A hollow text is told at its attribute, and nothing else is. -/
theorem subjects_emptyErrors (subject : String) (value : Attribute String) :
    (emptyErrors subject value).map (·.subject) = if value.isHollow then [some subject] else [] := by
  cases value with
  | known text =>
    show (if trimSlashes text = "" then _ else _ : List Diagnostic).map _ =
      if decide (trimSlashes text = "") then _ else _
    by_cases hollow : trimSlashes text = "" <;> simp [hollow]
  | null => rfl
  | unknown => rfl

/-- Validating tells all hollow texts in order, and then a bad version. -/
theorem subjects_stateErrors (state : SecretState) :
    (stateErrors state).map (·.subject) =
      (state.namesOf Attribute.isHollow ++ if state.hasBadVersion then ["version"] else []).map some := by
  have texts : (emptyErrors "mount" state.mount ++ emptyErrors "name" state.name).map (·.subject) =
      (state.namesOf Attribute.isHollow).map some := by
    rw [List.map_append, subjects_emptyErrors, subjects_emptyErrors, SecretState.namesOf]
    cases state.mount.isHollow <;> cases state.name.isHollow <;> rfl
  rw [List.map_append, ← texts]
  unfold stateErrors SecretState.hasBadVersion
  rw [List.map_append]
  congr 1
  cases state.version with
  | known number =>
    show (if number ≤ 0 then _ else _ : List Diagnostic).map _ =
      (if decide (number ≤ 0) then _ else _ : List String).map _
    by_cases bad : number ≤ 0 <;> simp [bad, versionError]
  | null => rfl
  | unknown => rfl

/-- A needed text that is not hollow is not told. -/
theorem notMem_subjects_of_not_isHollow {input : String × Attribute String} (isNeeded : input ∈ state.needed)
    (notHollow : input.2.isHollow = false) : some input.1 ∉ (stateErrors state).map (·.subject) := by
  rw [subjects_stateErrors]
  intro told
  obtain ⟨subject, told, same⟩ := List.mem_map.mp told
  cases same
  rcases List.mem_append.mp told with hollow | ofVersion
  · have once := SecretState.count_namesOf Attribute.isHollow isNeeded
    rw [notHollow] at once
    exact List.count_eq_zero.mp once hollow
  · have isVersion : input.1 = "version" := by
      split at ofVersion
      · exact List.mem_singleton.mp ofVersion
      · cases ofVersion
    simp only [SecretState.needed, List.mem_cons, List.not_mem_nil, or_false] at isNeeded
    rcases isNeeded with rfl | rfl <;> simp at isVersion

/-! ### Building a request -/

/-- A text that lacks is told at its attribute, and any other is taken as it stands. -/
theorem required_cases (subject : String) (value : Attribute String) :
    (value.isLacking = true ∧ ∃ error, required subject value = .error error ∧ error.subject = some subject) ∨
      value.isLacking = false ∧ ∃ text, value = .known text ∧ required subject value = .ok text := by
  cases value with
  | known text =>
    by_cases hollow : trimSlashes text = ""
    · exact Or.inl ⟨decide_eq_true hollow, _, if_pos hollow, rfl⟩
    · exact Or.inr ⟨decide_eq_false hollow, text, rfl, if_neg hollow⟩
  | null => exact Or.inl ⟨rfl, _, rfl, rfl⟩
  | unknown => exact Or.inl ⟨rfl, _, rfl, rfl⟩

/-- A bad version is told, any other one that is known is asked for, and otherwise none is. -/
theorem requestedVersion_cases (state : SecretState) :
    (state.hasBadVersion = true ∧ ∃ error, requestedVersion state.version = .error error) ∨
      state.hasBadVersion = false ∧ ∃ asked, requestedVersion state.version = .ok asked ∧
        ∀ version : Nat, asked = some version ↔ 0 < version ∧ state.version = .known version := by
  unfold SecretState.hasBadVersion
  cases state.version with
  | known number =>
    by_cases bad : number ≤ 0
    · exact Or.inl ⟨decide_eq_true bad, _, if_neg (Int.not_lt.mpr bad)⟩
    · refine Or.inr ⟨decide_eq_false bad, _, if_pos (Int.not_le.mp bad), fun version => ?_⟩
      rw [Option.some.injEq, Attribute.known.injEq]
      omega
  | null => exact Or.inr ⟨rfl, none, rfl, fun _ => iff_of_false nofun (by simp)⟩
  | unknown => exact Or.inr ⟨rfl, none, rfl, fun _ => iff_of_false nofun (by simp)⟩

/-- **What building a request can do.** It tells where needed texts lack, or else that the version cannot be asked for,
or it asks for mount and name as they stand and for the version that is known. -/
theorem buildRequest_cases (state : SecretState) :
    (state.namesOf Attribute.isLacking ≠ [] ∧ ∃ errors, buildRequest state = .error errors ∧
      errors.map (·.subject) = (state.namesOf Attribute.isLacking).map some) ∨
    (state.namesOf Attribute.isLacking = [] ∧ state.hasBadVersion = true ∧
      ∃ error, buildRequest state = .error [error] ∧ error.subject = some "version") ∨
    (state.namesOf Attribute.isLacking = [] ∧ state.hasBadVersion = false ∧
      ∃ request, buildRequest state = .ok request ∧ state.mount = .known request.mount ∧
        state.name = .known request.name ∧
        ∀ version : Nat, request.version = some version ↔ 0 < version ∧ state.version = .known version) := by
  unfold buildRequest SecretState.namesOf
  rcases required_cases "mount" state.mount with ⟨lacks, error, misses, atMount⟩ | ⟨lacksNot, mount, isMount, gives⟩
  · rcases required_cases "name" state.name with ⟨lacks', error', misses', atName⟩ | ⟨lacksNot', name, isName, gives'⟩
    · rw [lacks, lacks', misses, misses']
      exact Or.inl ⟨List.cons_ne_nil _ _, _, rfl, by rw [List.map_cons, atMount, List.map_singleton, atName]; rfl⟩
    · rw [lacks, lacksNot', misses, gives']
      exact Or.inl ⟨List.cons_ne_nil _ _, _, rfl, by rw [List.map_singleton, atMount]; rfl⟩
  rcases required_cases "name" state.name with ⟨lacks', error', misses', atName⟩ | ⟨lacksNot', name, isName, gives'⟩
  · rw [lacksNot, lacks', gives, misses']
    exact Or.inl ⟨List.cons_ne_nil _ _, _, rfl, by rw [List.map_singleton, atName]; rfl⟩
  -- Mount and name are there, and the version decides.
  rw [lacksNot, lacksNot', gives, gives']
  rcases requestedVersion_cases state with ⟨bad, error, refused⟩ | ⟨good, asked, taken, isAsked⟩
  · simp only [refused]
    exact Or.inr (Or.inl ⟨rfl, bad, error, rfl, subject_of_requestedVersion refused⟩)
  · simp only [taken]
    exact Or.inr (Or.inr ⟨rfl, good, _, rfl, isMount, isName, isAsked⟩)

/-- A request is built exactly if nothing lacks and the version can be asked for. -/
theorem exists_buildRequest_iff :
    (∃ request, buildRequest state = .ok request) ↔
      state.namesOf Attribute.isLacking = [] ∧ state.hasBadVersion = false := by
  rcases buildRequest_cases state with ⟨lacks, errors, fails, -⟩ | ⟨-, bad, error, fails, -⟩ |
    ⟨lacksNot, good, request, built, -⟩
  · exact iff_of_false (fun ⟨_, built⟩ => by cases fails.symm.trans built) fun both => lacks both.1
  · exact iff_of_false (fun ⟨_, built⟩ => by cases fails.symm.trans built) fun both => by cases bad.symm.trans both.2
  · exact iff_of_true ⟨request, built⟩ ⟨lacksNot, good⟩

/-- If none is built, the errors are for what lacks, or else for a bad version. -/
theorem subjects_of_buildRequest {errors : List Diagnostic} (fails : buildRequest state = .error errors) :
    errors.map (·.subject) = (state.namesOf Attribute.isLacking).map some ∨
      (state.namesOf Attribute.isLacking = [] ∧ state.hasBadVersion = true ∧
        errors.map (·.subject) = [some "version"]) := by
  rcases buildRequest_cases state with ⟨-, _, same, subjects⟩ | ⟨lacksNot, bad, error, same, subject⟩ |
    ⟨-, -, _, built, -⟩
  · cases same.symm.trans fails
    exact Or.inl subjects
  · cases same.symm.trans fails
    exact Or.inr ⟨lacksNot, bad, congrArg (fun subject => [subject]) subject⟩
  · cases built.symm.trans fails

/-- A needed text that lacks is told once. -/
theorem exists_error_of_isLacking {input : String × Attribute String} (isNeeded : input ∈ state.needed)
    (lacks : input.2.isLacking = true) :
    ∃ errors, buildRequest state = .error errors ∧ (errors.map (·.subject)).count (some input.1) = 1 := by
  have once := SecretState.count_namesOf Attribute.isLacking isNeeded
  rw [lacks] at once
  rcases buildRequest_cases state with ⟨-, errors, fails, subjects⟩ | ⟨nothing, -⟩ | ⟨nothing, -⟩
  · refine ⟨errors, fails, ?_⟩
    rw [subjects, List.count_map_of_injective _ some fun _ _ => Option.some.inj, once]
    rfl
  · rw [nothing] at once
    cases once
  · rw [nothing] at once
    cases once

/-! ### Both together -/

/-- Validating adds nothing exactly if no text is hollow and no version is bad. -/
theorem stateErrors_eq_nil_iff :
    stateErrors state = [] ↔ state.namesOf Attribute.isHollow = [] ∧ state.hasBadVersion = false := by
  rw [← List.map_eq_nil_iff (f := (·.subject)), subjects_stateErrors, List.map_eq_nil_iff, List.append_eq_nil_iff]
  cases state.hasBadVersion <;> simp

/-- **Validating a state and building its request agree.** If mount and name are known, validating adds no error exactly
if a request is built; and if none is, the errors that say so are for some of the attributes that validating names, at
least one, in the same order. For a needed text that is not known validating adds no error, and building a request fails
with exactly one for it. A request that is built asks for mount and name as they stand, and for a version exactly if this
version is known and positive. -/
theorem validateState_agreesWithBuildRequest (state : SecretState) :
    ∃ added : List Diagnostic, (∀ diagnostics, validateState state diagnostics = diagnostics.addAll added) ∧
      (∀ mount name, state.mount = .known mount → state.name = .known name →
        (added = [] ↔ ∃ request, buildRequest state = .ok request) ∧
        ∀ errors, buildRequest state = .error errors →
          errors ≠ [] ∧ (errors.map (·.subject)).Sublist (added.map (·.subject))) ∧
      (∀ input ∈ state.needed, input.2.value? = none →
        (∀ error ∈ added, error.subject ≠ some input.1) ∧
        ∃ errors, buildRequest state = .error errors ∧ (errors.map (·.subject)).count (some input.1) = 1) ∧
      ∀ request, buildRequest state = .ok request →
        state.mount = .known request.mount ∧ state.name = .known request.name ∧
        ∀ version : Nat, request.version = some version ↔ 0 < version ∧ state.version = .known version := by
  refine ⟨stateErrors state, fun _ => rfl, fun mount name isMount isName => ?_, fun input isNeeded notKnown => ?_,
    fun request built => ?_⟩
  · have same := SecretState.namesOf_isLacking isMount isName
    refine ⟨?_, fun errors fails => ⟨buildRequest_error_ne_nil fails, ?_⟩⟩
    · rw [stateErrors_eq_nil_iff, exists_buildRequest_iff, same]
    · rw [subjects_stateErrors]
      rcases subjects_of_buildRequest fails with subjects | ⟨nothing, bad, subjects⟩
      · rw [subjects, same, List.map_append]
        exact List.sublist_append_left _ _
      · rw [subjects, ← same, nothing, bad]
        exact List.Sublist.refl _
  · obtain ⟨lacks, notHollow⟩ := Attribute.isLacking_of_value?_eq_none notKnown
    refine ⟨fun error member points => notMem_subjects_of_not_isHollow isNeeded notHollow ?_,
      exists_error_of_isLacking isNeeded lacks⟩
    rw [← points]
    exact List.mem_map_of_mem member
  · rcases buildRequest_cases state with ⟨-, _, fails, -⟩ | ⟨-, -, _, fails, -⟩ | ⟨-, -, _, same, asks⟩
    · cases fails.symm.trans built
    · cases fails.symm.trans built
    · cases same.symm.trans built
      exact asks

/-- A mount of slashes and a negative version: validating tells both, and building a request stops at the mount. -/
example :
    let state : SecretState := { mount := .known "//", name := .known "app", version := .known (-1) }
    (stateErrors state).map (·.subject) = [some "mount", some "version"] ∧
      ∃ error, buildRequest state = .error [error] ∧ error.subject = some "mount" :=
  ⟨by decide, _, rfl, rfl⟩

end SecretSource.Provider
