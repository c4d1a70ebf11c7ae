/-
**No failure is silent, and no error points astray.**

An operation adds its errors behind those that were there, and what it adds is decided by what it looks at, not
by the diagnostics it is given. Validating always gives its result; reading and configuring give none exactly if
they add an error. Whatever an error points at is declared by the component that reports it.

* `Diagnostic.PointsInto`: an error points at nothing, or at an attribute of a schema.
* `Failure.report_pointsInto`, `resolve_unknownValue`, `buildRequest_pointsInto`, `stateErrors_pointsInto`: where
  the errors of the provider and of its data source point.
* `exists_configure_adds`, `exists_readState_adds`: what configuring and reading add.
* `operation_accounts`: all four operations account for what they give.
-/

import SecretSource.Proofs.Session.Configuring
import SecretSource.Proofs.Session.Planning
import SecretSource.Provider.Operation

namespace SecretSource.Provider

open SecretSource.Http (Delivery)

/-- An error points at nothing in particular, or at an attribute that a schema declares. -/
def Diagnostic.PointsInto (schema : Schema) (error : Diagnostic) : Prop :=
  ∀ subject, error.subject = some subject → subject ∈ schema.names

/-- An error that points at an attribute points into every schema that declares it. -/
theorem Diagnostic.pointsInto_of_subject {schema : Schema} {error : Diagnostic} {subject : String}
    (points : error.subject = some subject) (declared : subject ∈ schema.names) : error.PointsInto schema := by
  intro other points'
  cases points.symm.trans points'
  exact declared

/-! ### The provider -/

/-- Only the name in an unknown value could point astray; all other failures point at an attribute of the block, or
at none. -/
theorem Failure.report_pointsInto {failure : Failure}
    (declared : ∀ subject, failure = .unknownValue subject → subject ∈ providerSchema.names) :
    failure.report.PointsInto providerSchema := by
  have address : "address" ∈ providerSchema.names := by decide
  have token : "token" ∈ providerSchema.names := by decide
  cases failure with
  | missingAddress => exact Diagnostic.pointsInto_of_subject rfl address
  | missingToken => exact Diagnostic.pointsInto_of_subject rfl token
  | unknownValue subject => exact Diagnostic.pointsInto_of_subject rfl (declared subject rfl)
  | invalidAddress cause => exact Diagnostic.pointsInto_of_subject rfl address
  | vault failure =>
    cases failure with
    | authenticationFailed cause => exact Diagnostic.pointsInto_of_subject rfl token
    | _ => exact nofun
  | notConfigured | alreadyConfigured => exact nofun

theorem addressFailure_ne_unknownValue (failure : Vault.Failure) (subject : String) :
    addressFailure failure ≠ .unknownValue subject := by
  cases failure <;> exact nofun

/-- An attribute that cannot be resolved is unknown, and is named as it was asked for. -/
theorem resolveAttribute_eq_error {value : Attribute String} {subject variableName : String}
    {environment : Environment} {failure : Failure}
    (fails : resolveAttribute value subject variableName environment = .error failure) :
    failure = .unknownValue subject := by
  cases value with
  | unknown => exact (Except.error.inj fails).symm
  | known text => cases fails
  | null => cases fails

/-- Resolving a block names no attribute as unknown that is none of the block. -/
theorem resolve_unknownValue {config : Config} {environment : Environment} {subject : String}
    (fails : config.resolve environment = .error (.unknownValue subject)) : subject ∈ providerSchema.names := by
  have declared {value : Attribute String} {name variableName : String} (among : name ∈ providerSchema.names)
      (unresolved : resolveAttribute value name variableName environment = .error (.unknownValue subject)) :
      subject ∈ providerSchema.names := by
    cases resolveAttribute_eq_error unresolved
    exact among
  -- The stages in their order; only the look at an attribute fails with a name.
  unfold Config.resolve at fails
  rcases bind_eq_error fails with unresolved | ⟨address, -, fails⟩
  · exact declared (by decide) unresolved
  cases address with
  | none => cases fails
  | some address =>
    rcases bind_eq_error fails with unresolved | ⟨token, -, fails⟩
    · exact declared (by decide) unresolved
    cases token with
    | none => cases fails
    | some token =>
      rcases bind_eq_error fails with unresolved | ⟨name, -, fails⟩
      · exact declared (by decide) unresolved
      rcases bind_eq_error fails with refused | ⟨-, -, fails⟩
      · obtain ⟨cause, -, same⟩ := exists_of_mapError_eq_error refused
        exact absurd same (addressFailure_ne_unknownValue cause subject)
      · cases name <;> cases fails

/-- What is wrong with the known attributes of a block is not that they are unknown. -/
theorem unknownValue_not_mem_checkKnown (config : Config) (subject : String) :
    Failure.unknownValue subject ∉ config.checkKnown := by
  intro member
  cases Config.mem_checkKnown_iff.mp member

/-- Whatever is the first failure of configuring, it points at an attribute of the block, or at none. -/
theorem FailsFirst.report_pointsInto {provider : Instance} {config : Config} {delivery : Delivery}
    {failure : Failure} (fails : FailsFirst provider config delivery failure) :
    failure.report.PointsInto providerSchema := by
  refine Failure.report_pointsInto fun subject same => ?_
  cases fails with
  | resolving fails =>
    subst same
    exact resolve_unknownValue fails
  | building resolves fails => cases same
  | looking resolves builds fails => cases same
  | installing resolves builds looks filled => cases same

/-- Configuring is done and adds nothing, or is not done and adds one error. -/
theorem exists_configure_adds (provider : Instance) (config : Config) (delivery : Delivery) :
    ∃ added : List Diagnostic, (∀ error ∈ added, error.PointsInto providerSchema) ∧
      ∀ diagnostics, let outcome := configure provider config delivery diagnostics
        outcome.diagnostics = diagnostics.addAll added ∧
          added.length = if outcome.returned then 0 else 1 := by
  rcases connectsWith_or_failsFirst provider config delivery with ⟨client, connects⟩ | ⟨failure, fails⟩
  · refine ⟨[], List.forall_mem_nil _, fun diagnostics => ?_⟩
    rw [connects.configure]
    exact ⟨((Diagnostics.addAll_eq_self_iff diagnostics []).mpr rfl).symm, rfl⟩
  · refine ⟨[failure.report], fun error member => ?_, fun diagnostics => ?_⟩
    · rw [List.mem_singleton.mp member]
      exact fails.report_pointsInto
    · rw [fails.configure]
      exact ⟨rfl, rfl⟩

/-! ### The data source -/

/-- A text that a read needs is missed at its own attribute. -/
theorem subject_of_required {subject : String} {value : Attribute String} {error : Diagnostic}
    (fails : required subject value = .error error) : error.subject = some subject := by
  unfold required at fails
  dsimp only at fails
  split at fails
  · split at fails
    · cases fails
      rfl
    · cases fails
  · cases fails
    rfl
  · cases fails
    rfl

/-- A version that cannot be asked for is refused at its own attribute. -/
theorem subject_of_requestedVersion {version : Attribute Int} {error : Diagnostic}
    (fails : requestedVersion version = .error error) : error.subject = some "version" := by
  unfold requestedVersion at fails
  split at fails
  · split at fails
    · cases fails
    · cases fails
      rfl
  · cases fails

/-- Whatever is wrong with a state that is to be read, it is wrong at its mount, its name or its version. -/
theorem buildRequest_pointsInto {state : SecretState} {errors : List Diagnostic}
    (fails : buildRequest state = .error errors) : ∀ error ∈ errors, error.PointsInto secretSchema := by
  have ofMount {error : Diagnostic} (missed : required "mount" state.mount = .error error) :
      error.PointsInto secretSchema :=
    Diagnostic.pointsInto_of_subject (subject_of_required missed) (by decide)
  have ofName {error : Diagnostic} (missed : required "name" state.name = .error error) :
      error.PointsInto secretSchema :=
    Diagnostic.pointsInto_of_subject (subject_of_required missed) (by decide)
  unfold buildRequest at fails
  split at fails
  · rename_i first second missed missed'
    cases fails
    rw [List.forall_mem_cons, List.forall_mem_singleton]
    exact ⟨ofMount missed, ofName missed'⟩
  · rename_i first _ missed _
    cases fails
    rw [List.forall_mem_singleton]
    exact ofMount missed
  · rename_i _ second _ missed
    cases fails
    rw [List.forall_mem_singleton]
    exact ofName missed
  · split at fails
    · rename_i error refused
      cases fails
      rw [List.forall_mem_singleton]
      exact Diagnostic.pointsInto_of_subject (subject_of_requestedVersion refused) (by decide)
    · cases fails

/-- A text that may not be empty is refused at its own attribute. -/
theorem emptyErrors_pointsInto {schema : Schema} {subject : String} (declared : subject ∈ schema.names)
    (value : Attribute String) : ∀ error ∈ emptyErrors subject value, error.PointsInto schema := by
  intro error member
  unfold emptyErrors at member
  split at member
  · split at member
    · rw [List.mem_singleton.mp member]
      exact Diagnostic.pointsInto_of_subject rfl declared
    · cases member
  · cases member

/-- Whatever is wrong with the known attributes of a state, it is wrong at its mount, its name or its version. -/
theorem stateErrors_pointsInto (state : SecretState) :
    ∀ error ∈ stateErrors state, error.PointsInto secretSchema := by
  intro error member
  unfold stateErrors at member
  rcases List.mem_append.mp member with ofText | ofVersion
  · rcases List.mem_append.mp ofText with ofMount | ofName
    · exact emptyErrors_pointsInto (by decide) _ error ofMount
    · exact emptyErrors_pointsInto (by decide) _ error ofName
  · split at ofVersion
    · split at ofVersion
      · rw [List.mem_singleton.mp ofVersion]
        exact Diagnostic.pointsInto_of_subject rfl (by decide)
      · cases ofVersion
    · cases ofVersion

/-- Reading gives a state and adds nothing, or gives none and adds an error. -/
theorem exists_readState_adds (slot : Slot) (state : SecretState) (delivery : Delivery) :
    ∃ added : List Diagnostic, (∀ error ∈ added, error.PointsInto secretSchema) ∧
      ∀ diagnostics, let outcome := readState slot state delivery diagnostics
        outcome.diagnostics = diagnostics.addAll added ∧ (outcome.state = none ↔ added ≠ []) := by
  have atRoot {error : Diagnostic} (nowhere : error.subject = none) :
      ∀ other ∈ [error], other.PointsInto secretSchema := by
    rw [List.forall_mem_singleton]
    intro subject points
    cases nowhere.symm.trans points
  cases built : buildRequest state with
  | error errors =>
    refine ⟨errors, buildRequest_pointsInto built, fun diagnostics => ?_⟩
    simp only [readState, built]
    exact ⟨trivial, iff_of_true trivial (buildRequest_error_ne_nil built)⟩
  | ok request =>
    cases slot with
    | none =>
      refine ⟨[Failure.notConfigured.report], atRoot rfl, fun diagnostics => ?_⟩
      simp only [readState, built, Slot.reader]
      exact ⟨rfl, iff_of_true trivial (List.cons_ne_nil _ [])⟩
    | some reader =>
      cases answered : (reader.read request delivery).result with
      | ok secret =>
        refine ⟨[], List.forall_mem_nil _, fun diagnostics => ?_⟩
        simp only [readState, built, Slot.reader, answered]
        exact ⟨((Diagnostics.addAll_eq_self_iff diagnostics []).mpr rfl).symm,
          iff_of_false (Option.some_ne_none _) fun differs => differs rfl⟩
      | error failure =>
        refine ⟨[⟨"Failed to read secret", failure.message, none⟩], atRoot rfl, fun diagnostics => ?_⟩
        simp only [readState, built, Slot.reader, answered]
        exact ⟨rfl, iff_of_true trivial (List.cons_ne_nil _ [])⟩

/-! ### All operations -/

/-- Whether what an operation gives goes with the errors that it adds. -/
def Operation.Accounts (operation : Operation) (returned : Bool) (added : List Diagnostic) : Prop :=
  match operation with
  | .validateConfig _ | .validateState _ => returned = true
  | .configure _ _ _ => (returned = false ↔ added.length = 1) ∧ (returned = true ↔ added = [])
  | .readState _ _ _ => returned = false ↔ added ≠ []

/-- **Every operation accounts for what it gives.** It adds the same errors to all diagnostics, behind the errors
that are there, and leaves the warnings as they are. Each of these errors points at nothing in particular or at an
attribute that the reporting component declares. Reading gives no state exactly if it adds an error, configuring is
not done exactly if it adds one error, and validating always gives its result. -/
theorem operation_accounts (operation : Operation) :
    ∃ added : List Diagnostic, (∀ error ∈ added, error.PointsInto operation.schema) ∧
      ∀ diagnostics, let report := operation.perform diagnostics
        report.diagnostics.errors = diagnostics.errors ++ added ∧
          report.diagnostics.warnings = diagnostics.warnings ∧ operation.Accounts report.returned added := by
  cases operation with
  | validateConfig config =>
    refine ⟨config.checkKnown.map Failure.report, fun error member => ?_, fun diagnostics => ⟨rfl, rfl, rfl⟩⟩
    obtain ⟨failure, known, rfl⟩ := List.mem_map.mp member
    refine Failure.report_pointsInto fun subject same => ?_
    exact absurd (same ▸ known) (unknownValue_not_mem_checkKnown config subject)
  | configure provider config delivery =>
    obtain ⟨added, points, adds⟩ := exists_configure_adds provider config delivery
    refine ⟨added, points, fun diagnostics => ?_⟩
    obtain ⟨same, length⟩ := adds diagnostics
    refine ⟨congrArg Diagnostics.errors same, (congrArg Diagnostics.warnings same).trans rfl, ?_⟩
    simp only [Operation.perform, Operation.Accounts, ← List.length_eq_zero_iff, length]
    cases (configure provider config delivery diagnostics).returned <;> decide
  | validateState state =>
    exact ⟨stateErrors state, stateErrors_pointsInto state, fun diagnostics => ⟨rfl, rfl, rfl⟩⟩
  | readState slot state delivery =>
    obtain ⟨added, points, adds⟩ := exists_readState_adds slot state delivery
    refine ⟨added, points, fun diagnostics => ?_⟩
    obtain ⟨same, noState⟩ := adds diagnostics
    refine ⟨congrArg Diagnostics.errors same, (congrArg Diagnostics.warnings same).trans rfl, ?_⟩
    simp only [Operation.perform, Operation.Accounts, ← noState, Option.isSome_eq_false_iff,
      Option.isNone_iff_eq_none]

/-- A mount and a name that are both missing are two errors, behind the one that was there. -/
example :
    let earlier : Diagnostics := { errors := [Failure.notConfigured.report] }
    let report := (Operation.readState none {} .dropped).perform earlier
    report.returned = false ∧ report.diagnostics.errors.map (·.subject) = [none, some "mount", some "name"] := by
  decide +kernel

end SecretSource.Provider
