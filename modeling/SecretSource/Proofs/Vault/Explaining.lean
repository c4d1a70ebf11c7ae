/-
**How a failure is explained.**

The body of a failed request is taken as a list of errors if it can be, and otherwise as it stands. Whether a list is
there is seen by its length, not by its texts, so the explanation is blank exactly if the only error of the list is.

* `ListsErrors`, `on_read_iff`: which errors a body lists, by the tree that it spells.
* `Explains`, `explanation_eq_iff`: the three kinds of explanation.
* `isBlankText_explanation_iff`: when an explanation is blank.
* `failures_explained`: the texts of the failures of reads and of looks at the token.
* `failures_unexplained`: a body whose only error is an empty text.
-/

import SecretSource.Proofs.Json.Reading
import SecretSource.Proofs.Text.Cutting
import SecretSource.Proofs.Vault.Classifying

namespace SecretSource.Unicode

open SecretSource.Text

/-- A text is blank exactly if what is left of it without blanks at its ends is. -/
theorem isBlankText_trimBlank (text : String) : isBlankText (trimBlank text) = isBlankText text := by
  unfold isBlankText trimBlank
  rw [String.toList_ofList, Bool.eq_iff_iff]
  constructor
  · intro allBlank
    obtain ⟨lost, whole, blankEnd⟩ := exists_eq_trimEnd_append isBlank (text.toList.dropWhile isBlank)
    rw [← List.takeWhile_append_dropWhile (p := isBlank) (l := text.toList), whole, List.all_append, List.all_append,
      Bool.and_eq_true, Bool.and_eq_true]
    exact ⟨List.all_takeWhile, allBlank, List.all_eq_true.mpr blankEnd⟩
  · intro allBlank
    exact List.all_eq_true.mpr fun letter member => List.all_eq_true.mp allBlank letter (mem_of_mem_trim member)

end SecretSource.Unicode

namespace SecretSource.Vault

open SecretSource.Http (isSuccess)
open SecretSource.Json
open SecretSource.Unicode (isBlankText trimBlank isBlankText_trimBlank)

/-! ### Which errors a body lists -/

/-- The tree of a list of texts. -/
def textsTree (texts : List String) : Tree := .list (texts.map fun text => .text (some text))

/-- A member of another name. -/
def IsOther (row : Option String × Tree) : Prop := ∃ name, row.1 = some name ∧ name ≠ "errors"

/-- A tree lists errors: an object with one member for them, or with none, whatever else is in it; or a list of its
fields, of which there is but one. -/
inductive ListsErrors : Tree → List String → Prop where
  | member {before behind : List (Option String × Tree)} (errors : List String)
      (others : ∀ row ∈ before ++ behind, IsOther row) :
      ListsErrors (.object (before ++ (some "errors", textsTree errors) :: behind)) errors
  | noMember {rows : List (Option String × Tree)} (others : ∀ row ∈ rows, IsOther row) :
      ListsErrors (.object rows) []
  | item (errors : List String) : ListsErrors (.list [textsTree errors]) errors
  | noItem : ListsErrors (.list []) []

theorem on_readString_iff {limit : Nat} {tree : Tree} {text : String} :
    readString.on limit tree = some text ↔ tree = .text (some text) := by
  constructor
  · intro reads
    cases tree with
    | text value =>
      cases value with
      | none => cases reads
      | some value => exact congrArg (Tree.text ∘ some) (Option.some.inj reads)
    | number value => cases value <;> cases reads
    | _ => cases reads
  · rintro rfl
    rfl

theorem on_readTexts_iff {limit : Nat} (room : 1 < limit) {tree : Tree} {texts : List String} :
    Reader.on (readList readString) limit tree = some texts ↔ tree = textsTree texts := by
  have each (items : List Tree) (texts : List String) :
      items.mapM (readString.on (limit - 1)) = some texts ↔ items = texts.map fun text => .text (some text) := by
    refine Iff.trans ⟨map_eq_of_mapM, mapM_eq_some_of_map⟩ ?_
    induction items generalizing texts with
    | nil => cases texts <;> simp
    | cons item rest ih => cases texts <;> simp [on_readString_iff, ih]
  cases tree with
  | list items =>
    rw [on_readList readString_placeFree, if_neg (by omega), each, textsTree, Tree.list.injEq]
  | text value => cases value <;> exact iff_of_false nofun nofun
  | number value => cases value <;> exact iff_of_false nofun nofun
  | _ => exact iff_of_false nofun nofun

namespace ErrorBody

theorem shape_placeFree : shape.PlaceFree := by
  intro field member
  simp only [shape, List.mem_cons, List.not_mem_nil, or_false] at member
  subst member
  exact Field.ofSlot_placeFree (readList_placeFree readString_placeFree)

variable {limit : Nat} {rows : List (Option String × Tree)} {draft draft' : Option (List String)}

theorem add_errors (draft : Option (List String)) (tree : Tree) :
    shape.add limit draft (some "errors", tree) =
      if draft.isSome then none else (Reader.on (readList readString) limit tree).map some := by
  have isField : shape.fields.find? (·.name == "errors") =
      some (.ofSlot "errors" id (readList readString) fun _ value => some value) := rfl
  rw [Shape.add_known isField, Field.on_ofSlot]
  rfl

theorem add_other {row : Option String × Tree} (other : IsOther row) : shape.add limit draft row = some draft := by
  obtain ⟨name, tree⟩ := row
  obtain ⟨name, rfl, isOther⟩ := other
  refine Shape.add_unknown ?_
  exact List.find?_cons_of_neg (by simpa [Field.ofSlot] using isOther.symm)

/-- Members of other names add nothing. -/
theorem foldlM_add_others (others : ∀ row ∈ rows, IsOther row) :
    rows.foldlM (shape.add limit) draft = some draft := by
  induction rows with
  | nil => rfl
  | cons row rest ih =>
    rw [List.foldlM_cons, add_other (others row List.mem_cons_self)]
    exact ih fun row member => others row (List.mem_cons_of_mem _ member)

/-- Members that can be added have other names, but for one if there were no errors before. -/
theorem rows_of_foldlM_add (room : 1 < limit) (all : rows.foldlM (shape.add limit) draft = some draft') :
    (draft' = draft ∧ ∀ row ∈ rows, IsOther row) ∨
      draft = none ∧ ∃ before errors behind, rows = before ++ (some "errors", textsTree errors) :: behind ∧
        (∀ row ∈ before ++ behind, IsOther row) ∧ draft' = some errors := by
  induction rows generalizing draft with
  | nil => exact Or.inl ⟨(Option.some.inj all).symm, nofun⟩
  | cons row rest ih =>
    rw [List.foldlM_cons] at all
    obtain ⟨next, added, all⟩ := Option.bind_eq_some_iff.mp all
    obtain ⟨name, tree⟩ := row
    cases name with
    | none => cases added
    | some name =>
      by_cases named : name = "errors"
      · subst named
        rw [add_errors] at added
        cases draft with
        | some present => cases added
        | none =>
          obtain ⟨errors, reads, rfl⟩ := Option.map_eq_some_iff.mp added
          rw [(on_readTexts_iff room).mp reads]
          rcases ih all with ⟨same, others⟩ | ⟨absurdly, -⟩
          · exact Or.inr ⟨rfl, [], errors, rest, rfl, others, same⟩
          · cases absurdly
      · have other : IsOther (some name, tree) := ⟨name, rfl, named⟩
        cases (add_other other).symm.trans added
        rcases ih all with ⟨same, others⟩ | ⟨nothing, before, errors, behind, rfl, others, same⟩
        · exact Or.inl ⟨same, List.forall_mem_cons.mpr ⟨other, others⟩⟩
        · exact Or.inr ⟨nothing, (some name, tree) :: before, errors, behind, rfl,
            List.forall_mem_cons.mpr ⟨other, others⟩, same⟩

/-- **What is read of a tree is what it lists.** -/
theorem on_read_iff {tree : Tree} {errors : List String} :
    Reader.on shape.read depthLimit tree = some ⟨errors⟩ ↔ ListsErrors tree errors := by
  have room : 1 < depthLimit - 1 := by decide
  have deep : ¬ depthLimit ≤ 1 := by decide
  constructor
  · intro reads
    cases tree with
    | object rows =>
      rw [Shape.on_read_object shape_placeFree, if_neg deep] at reads
      obtain ⟨draft, all, finished⟩ := Option.bind_eq_some_iff.mp reads
      cases finished
      rcases rows_of_foldlM_add room all with ⟨rfl, others⟩ | ⟨-, before, errors, behind, rfl, others, rfl⟩
      · exact .noMember others
      · exact .member errors others
    | list items =>
      rw [Shape.on_read_list shape_placeFree, if_neg deep] at reads
      match items, reads with
      | [], reads =>
        cases reads
        exact .noItem
      | [item], reads =>
        obtain ⟨draft, added, finished⟩ := Option.bind_eq_some_iff.mp reads
        rw [Field.on_ofSlot] at added
        obtain ⟨texts, isTexts, rfl⟩ := Option.map_eq_some_iff.mp added
        cases finished
        rw [(on_readTexts_iff room).mp isTexts]
        exact .item texts
      | _ :: _ :: _, reads =>
        obtain ⟨_, -, nothing⟩ := Option.bind_eq_some_iff.mp reads
        cases nothing
    | text value => cases value <;> cases reads
    | number value => cases value <;> cases reads
    | _ => cases reads
  · intro lists
    cases lists with
    | @member before behind _ others =>
      rw [List.forall_mem_append] at others
      rw [Shape.on_read_object shape_placeFree, if_neg deep, List.foldlM_append, foldlM_add_others others.1,
        Option.bind_eq_bind, Option.bind_some, List.foldlM_cons, add_errors, (on_readTexts_iff room).mpr rfl]
      exact congrArg (Option.bind · _) (foldlM_add_others others.2)
    | noMember others =>
      rw [Shape.on_read_object shape_placeFree, if_neg deep, foldlM_add_others others]
      rfl
    | item =>
      rw [Shape.on_read_list shape_placeFree, if_neg deep]
      show (Field.on _ _ _ _).bind _ = _
      rw [Field.on_ofSlot, (on_readTexts_iff room).mpr rfl]
      rfl
    | noItem =>
      rw [Shape.on_read_list shape_placeFree, if_neg deep]
      rfl

/-- A body is read as the errors that its tree lists. -/
theorem ofText_eq_ok_iff {body : String} {errors : List String} :
    ofText body = .ok ⟨errors⟩ ↔ ∃ tree, SpellsDocument tree body ∧ ListsErrors tree errors := by
  constructor
  · intro reads
    obtain ⟨tree, spells, made⟩ := Shape.exists_spellsDocument shape_placeFree reads
    exact ⟨tree, spells, on_read_iff.mp made⟩
  · rintro ⟨tree, spells, lists⟩
    exact toOption_eq_some_iff.mp ((Shape.toOption_ofText shape_placeFree spells).trans (on_read_iff.mpr lists))

end ErrorBody

/-! ### Explanations -/

/-- A body lists some errors. -/
def BodyLists (body : String) (errors : List String) : Prop :=
  ∃ tree, SpellsDocument tree body ∧ ListsErrors tree errors

/-- What explains a failure: the errors that its body lists, or else the body without blanks around it, or a text for
want of any. -/
inductive Explains (body : String) : String → Prop where
  | listed {errors : List String} (lists : BodyLists body errors) (some : errors ≠ []) :
      Explains body (String.intercalate "; " errors)
  | told (noErrors : ∀ errors, BodyLists body errors → errors = []) (notBlank : isBlankText body = false) :
      Explains body (trimBlank body)
  | silent (noErrors : ∀ errors, BodyLists body errors → errors = []) (blank : isBlankText body = true) :
      Explains body "no error detail"

variable {body : String}

/-- A body lists errors in one way. -/
theorem BodyLists.unique {errors errors' : List String} (lists : BodyLists body errors)
    (lists' : BodyLists body errors') : errors = errors' := by
  have reads := (ErrorBody.ofText_eq_ok_iff.mpr lists).symm.trans (ErrorBody.ofText_eq_ok_iff.mpr lists')
  exact congrArg ErrorBody.errors (Except.ok.inj reads)

theorem explanation_of_listed {errors : List String} (lists : BodyLists body errors) (some : errors ≠ []) :
    explanation body = String.intercalate "; " errors := by
  unfold explanation
  rw [ErrorBody.ofText_eq_ok_iff.mpr lists]
  simp [some]

theorem explanation_of_noErrors (noErrors : ∀ errors, BodyLists body errors → errors = []) :
    explanation body = if isBlankText body then "no error detail" else trimBlank body := by
  unfold explanation
  cases reads : ErrorBody.ofText body with
  | error fault => simp
  | ok parsed =>
    have nothing : parsed.errors = [] := noErrors _ (ErrorBody.ofText_eq_ok_iff.mp reads)
    simp [nothing]

/-- **Every failure has one explanation, of one kind.** -/
theorem explanation_eq_iff {detail : String} : explanation body = detail ↔ Explains body detail := by
  constructor
  · rintro rfl
    by_cases listed : ∃ errors, BodyLists body errors ∧ errors ≠ []
    · obtain ⟨errors, lists, some⟩ := listed
      rw [explanation_of_listed lists some]
      exact .listed lists some
    · have noErrors : ∀ errors, BodyLists body errors → errors = [] := fun errors lists =>
        Decidable.byContradiction fun some => listed ⟨errors, lists, some⟩
      rw [explanation_of_noErrors noErrors]
      cases blank : isBlankText body with
      | true => exact .silent noErrors blank
      | false => exact .told noErrors blank
  · intro explains
    cases explains with
    | listed lists some => exact explanation_of_listed lists some
    | told noErrors notBlank => rw [explanation_of_noErrors noErrors, notBlank]; rfl
    | silent noErrors blank => rw [explanation_of_noErrors noErrors, blank]; rfl

/-- Errors with something between them are not blank together. -/
theorem isBlankText_intercalate_iff {errors : List String} (some : errors ≠ []) :
    isBlankText (String.intercalate "; " errors) = true ↔ ∃ error, errors = [error] ∧ isBlankText error = true := by
  match errors, some with
  | [error], _ => simp
  | first :: second :: rest, _ =>
    have mark : Unicode.isBlank ';' = false := by decide
    simp [isBlankText, mark]

/-- **An explanation is blank exactly if the body lists one error and this is blank.** -/
theorem isBlankText_explanation_iff (body : String) :
    isBlankText (explanation body) = true ↔ ∃ error, BodyLists body [error] ∧ isBlankText error = true := by
  obtain ⟨detail, isDetail⟩ : ∃ detail, explanation body = detail := ⟨_, rfl⟩
  rw [isDetail]
  cases explanation_eq_iff.mp isDetail with
  | listed lists some =>
    rw [isBlankText_intercalate_iff some]
    constructor
    · rintro ⟨error, rfl, blank⟩
      exact ⟨error, lists, blank⟩
    · rintro ⟨error, lists', blank⟩
      exact ⟨error, lists.unique lists', blank⟩
  | told noErrors notBlank =>
    rw [isBlankText_trimBlank, notBlank]
    refine iff_of_false nofun ?_
    rintro ⟨error, lists, -⟩
    cases noErrors _ lists
  | silent noErrors blank =>
    refine iff_of_false (by decide) ?_
    rintro ⟨error, lists, -⟩
    cases noErrors _ lists

/-! ### Failures -/

/-- **How failures are explained.** A status of failure that has no text of its own leads to a failure whose text ends
with the one explanation of the body: in a read, and in a look at the token. The explanation is blank exactly if the
body lists one error and this is blank. -/
theorem failures_explained (path body : String) {status : Nat} (fails : isSuccess status = false)
    (explained : status ∉ [404, 429]) :
    ∃ detail, (∀ detail', Explains body detail' ↔ detail' = detail) ∧
      (isBlankText detail = true ↔ ∃ error, BodyLists body [error] ∧ isBlankText error = true) ∧
      (status ∈ [401, 403] →
        secretOfReply path status body = .error (.permissionDenied (path ++ ": " ++ detail)) ∧
        tokenOfReply status body = .error (.authenticationFailed (lookupText ++ ": " ++ detail))) ∧
      (status ∉ [401, 403] →
        let cause := "Status " ++ Http.statusText status ++ ": " ++ detail
        secretOfReply path status body = .error (.unavailable cause) ∧
          tokenOfReply status body = .error (.unavailable cause)) := by
  simp only [List.mem_cons, List.not_mem_nil, or_false, not_or] at explained
  have asRead {failure : Failure} (means : Means path body status failure) :
      secretOfReply path status body = .error failure :=
    secretOfReply_of_means means fun missing => absurd missing explained.1
  refine ⟨explanation body, fun detail' => ?_, isBlankText_explanation_iff body, fun denied => ?_, fun other => ?_⟩
  · rw [← explanation_eq_iff, eq_comm]
  · simp only [List.mem_cons, List.not_mem_nil, or_false] at denied
    refine ⟨asRead (.denied denied), ?_⟩
    unfold tokenOfReply
    rw [lookupText_eq, successBody_eq_error_iff.mpr (.denied denied)]
  · have noneOf : status ∉ [401, 403, 404, 429] := by
      simp only [List.mem_cons, List.not_mem_nil, or_false, not_or] at other ⊢
      exact ⟨other.1, other.2, explained⟩
    refine ⟨asRead (.other fails noneOf), ?_⟩
    unfold tokenOfReply
    rw [successBody_eq_error_iff.mpr (.other fails noneOf)]

/-- A denial with two errors, of which one is empty, and with no body at all. -/
theorem failures_explained_denied :
    let body := "\x7b\"request_id\":[1],\"errors\":[\"permission denied\",\"\"]\x7d"
    isSuccess 403 = false ∧ 403 ∉ [404, 429] ∧ BodyLists body ["permission denied", ""] ∧
      Explains body "permission denied; " ∧ Explains " \n" "no error detail" ∧
      secretOfReply "kv/data/app" 403 body = .error (.permissionDenied "kv/data/app: permission denied; ") ∧
      tokenOfReply 403 " \n" = .error (.authenticationFailed "auth/token/lookup-self: no error detail") := by
  intro body
  have lists : BodyLists body ["permission denied", ""] := by
    refine ⟨.object [(some "request_id", .list [.number (some (.integer 1))]),
      (some "errors", textsTree ["permission denied", ""])], .of_root (by decide +kernel) (by decide +kernel), ?_⟩
    have others : ∀ row ∈ [(some "request_id", Tree.list [.number (some (.integer 1))])] ++ [], IsOther row := by
      intro row member
      rw [List.mem_singleton.mp member]
      exact ⟨"request_id", rfl, by decide⟩
    exact .member _ others
  have explains : Explains body "permission denied; " := .listed lists (by decide)
  have silent : Explains " \n" "no error detail" := explanation_eq_iff.mp (by decide +kernel)
  have fails : isSuccess 403 = false := rfl
  obtain ⟨detail, unique, -, denied, -⟩ := failures_explained "kv/data/app" body fails (by decide)
  obtain ⟨nothing, unique', -, denied', -⟩ := failures_explained "kv/data/app" " \n" fails (by decide)
  cases (unique _).mp explains
  cases (unique' _).mp silent
  exact ⟨rfl, by decide, lists, explains, silent, (denied (by decide)).1, (denied' (by decide)).2⟩

/-- **A failure without an explanation.** The body lists one error, which is an empty text or a blank. -/
theorem failures_unexplained :
    secretOfReply "kvv2/data/app" 500 "\x7b\"errors\":[\"\"]\x7d" =
        .error (.unavailable "Status 500 Internal Server Error: ") ∧
      secretOfReply "kvv2/data/app" 403 "\x7b\"errors\":[\" \"]\x7d" =
        .error (.permissionDenied "kvv2/data/app:  ") ∧
      isBlankText "" = true ∧ isBlankText " " = true := by
  have empty : explanation "\x7b\"errors\":[\"\"]\x7d" = "" := by decide +kernel
  have space : explanation "\x7b\"errors\":[\" \"]\x7d" = " " := by decide +kernel
  have other : ∀ body, Means "kvv2/data/app" body 500 _ := fun body => .other rfl (by decide)
  have denied : ∀ body, Means "kvv2/data/app" body 403 _ := fun body => .denied (Or.inr rfl)
  refine ⟨?_, ?_, by decide, by decide⟩
  · rw [secretOfReply_of_means (other _) (by decide), empty]
    rfl
  · rw [secretOfReply_of_means (denied _) (by decide), space]
    rfl

end SecretSource.Vault
