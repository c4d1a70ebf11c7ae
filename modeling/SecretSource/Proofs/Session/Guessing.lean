/-
**What a read does about unknown inputs.**

An unknown mount or name stops a read before anything is asked. An unknown namespace or version does not: the read is
the one of a state that leaves them out, in the namespace of the provider and of the latest version, and only the
unknown namespace is still there in the state that it gives. The provider itself is never configured with anything
unknown.

* `RefusesUnknown`: what it means that a read refuses to guess.
* `readState_guessed`: what is read if namespace or version is unknown.
* `withSecret_nothingUnknown_iff`: what is unknown in a state that a secret fills.
* `readState_unknownInputs`: when a read refuses, when it guesses, and what of the guess is left.
* `readState_sendsGuess`: a guess that is sent, in the namespace of the client and without a version.
-/

import SecretSource.Proofs.Session.Filling
import SecretSource.Proofs.Session.Sources
import SecretSource.Proofs.Session.Validating

namespace SecretSource.Provider

open SecretSource.Http (Delivery)
open SecretSource.Vault (Secret)

/-! ### What is unknown in a state -/

/-- A table is not unknown, nor is any text in it. -/
def Attribute.IsSettledTable (field : Attribute TextTable) : Prop :=
  field ≠ .unknown ∧ ∀ table, field = .known table → ∀ row ∈ table.rows, row.2 ≠ .unknown

/-- Nothing that is told about a version is unknown. -/
structure SecretMetadata.NothingUnknown (metadata : SecretMetadata) : Prop where
  createdTime : metadata.createdTime ≠ .unknown
  deletionTime : metadata.deletionTime ≠ .unknown
  destroyed : metadata.destroyed ≠ .unknown
  version : metadata.version ≠ .unknown
  customMetadata : metadata.customMetadata.IsSettledTable

namespace SecretState

/-- Nothing in a state is unknown, at any depth. -/
structure NothingUnknown (state : SecretState) : Prop where
  id : state.id ≠ .unknown
  mount : state.mount ≠ .unknown
  name : state.name ≠ .unknown
  namespaceName : state.namespaceName ≠ .unknown
  path : state.path ≠ .unknown
  data : state.data.IsSettledTable
  version : state.version ≠ .unknown
  metadata : state.metadata ≠ .unknown ∧ ∀ metadata, state.metadata = .known metadata → metadata.NothingUnknown

/-- An input is unknown, under its name. -/
inductive IsUnknownInput (state : SecretState) : String → Prop where
  | mount (unknown : state.mount = .unknown) : IsUnknownInput state "mount"
  | name (unknown : state.name = .unknown) : IsUnknownInput state "name"
  | namespaceName (unknown : state.namespaceName = .unknown) : IsUnknownInput state "namespace"
  | version (unknown : state.version = .unknown) : IsUnknownInput state "version"

end SecretState

/-- A known table in which all texts are known has nothing unknown in it. -/
theorem IsKnownTable.isSettledTable {field : Attribute TextTable} (known : IsKnownTable field) :
    field.IsSettledTable := by
  obtain ⟨table, rfl, texts⟩ := known
  refine ⟨nofun, fun other same row member => ?_⟩
  cases same
  obtain ⟨text, isText⟩ := texts row member
  rw [isText]
  nofun

theorem versionAttribute_ne_unknown (version : Nat) : versionAttribute version ≠ .unknown := by
  unfold versionAttribute
  split <;> nofun

/-- What a secret tells about its version has nothing unknown in it. -/
theorem SecretMetadata.nothingUnknown_ofVersion (metadata : Vault.VersionMetadata) :
    (SecretMetadata.ofVersion metadata).NothingUnknown where
  createdTime := nofun
  deletionTime := by
    show Attribute.ofOption (metadata.deletionTime.map (·.text)) ≠ .unknown
    cases metadata.deletionTime <;> nofun
  destroyed := nofun
  version := versionAttribute_ne_unknown _
  customMetadata := (isKnownTable_map _).isSettledTable

/-- **A secret fills in nothing unknown**: what is unknown behind it are inputs that are kept. -/
theorem withSecret_nothingUnknown_iff (state : SecretState) (secret : Secret) :
    (state.withSecret secret).NothingUnknown ↔
      state.mount ≠ .unknown ∧ state.name ≠ .unknown ∧ state.namespaceName ≠ .unknown := by
  constructor
  · intro nothing
    exact ⟨nothing.mount, nothing.name, nothing.namespaceName⟩
  · rintro ⟨mount, name, namespaceName⟩
    exact {
      id := nofun
      mount
      name
      namespaceName
      path := nofun
      data := (isKnownTable_map _).isSettledTable
      version := versionAttribute_ne_unknown _
      metadata := ⟨nofun, fun metadata same => by
        cases same
        exact SecretMetadata.nothingUnknown_ofVersion _⟩ }

/-! ### Refusing -/

/-- A read refuses to guess: nothing is sent or asked, no state is given, and one of the errors that are added is for an
input that is unknown. -/
structure RefusesUnknown (state : SecretState) (diagnostics : Diagnostics) (outcome : ReadOutcome) : Prop where
  silent : outcome.sent = [] ∧ outcome.asked = []
  noState : outcome.state = none
  told : ∃ added, outcome.diagnostics = diagnostics.addAll added ∧
    ∃ error ∈ added, ∃ subject, state.IsUnknownInput subject ∧ error.subject = some subject

variable {slot : Slot} {state : SecretState} {delivery : Delivery} {diagnostics : Diagnostics}

/-- Errors that were added can be told from what was there. -/
theorem Diagnostics.addAll_inj {first second : List Diagnostic}
    (same : diagnostics.addAll first = diagnostics.addAll second) : first = second :=
  List.append_cancel_left (congrArg Diagnostics.errors same)

/-- An error that a read adds is for nothing in particular, for mount or name, or for a version that is known. -/
theorem subject_of_mem_readState {added : List Diagnostic} {error : Diagnostic}
    (adds : (readState slot state delivery diagnostics).diagnostics = diagnostics.addAll added)
    (member : error ∈ added) :
    error.subject = none ∨ error.subject = some "mount" ∨ error.subject = some "name" ∨
      error.subject = some "version" ∧ state.hasBadVersion = true := by
  have ofRoot {root : Diagnostic} (same : diagnostics.addAll [root] = diagnostics.addAll added)
      (nowhere : root.subject = none) : error.subject = none := by
    rw [← Diagnostics.addAll_inj same] at member
    rw [List.mem_singleton.mp member, nowhere]
  rcases readState_cases slot state delivery diagnostics with ⟨errors, fails, outcome⟩ | ⟨_, -, -, outcome⟩ |
    ⟨_, _, failure, -, -, -, outcome⟩ | ⟨_, _, secret, -, -, -, outcome⟩
  · rw [outcome] at adds
    cases Diagnostics.addAll_inj adds
    have subject := List.mem_map_of_mem (f := (·.subject)) member
    rcases subjects_of_buildRequest fails with subjects | ⟨-, bad, subjects⟩
    · rw [subjects] at subject
      obtain ⟨name, isName, same⟩ := List.mem_map.mp subject
      rw [← same]
      rcases SecretState.eq_of_mem_namesOf isName with rfl | rfl
      · exact Or.inr (Or.inl rfl)
      · exact Or.inr (Or.inr (Or.inl rfl))
    · rw [subjects, List.mem_singleton] at subject
      exact Or.inr (Or.inr (Or.inr ⟨subject, bad⟩))
  · rw [outcome] at adds
    exact Or.inl (ofRoot adds rfl)
  · rw [outcome] at adds
    exact Or.inl (ofRoot adds rfl)
  · rw [outcome] at adds
    rw [(Diagnostics.addAll_eq_self_iff diagnostics added).mp adds.symm] at member
    cases member

/-- A needed text that is unknown is a reason to refuse. -/
theorem refusesUnknown_of_needed {subject : String} {value : Attribute String}
    (isNeeded : (subject, value) ∈ state.needed) (unknown : value = .unknown)
    (isUnknown : state.IsUnknownInput subject) :
    RefusesUnknown state diagnostics (readState slot state delivery diagnostics) := by
  obtain ⟨lacks, -⟩ := Attribute.isLacking_of_value?_eq_none (show value.value? = none by rw [unknown]; rfl)
  obtain ⟨errors, fails, once⟩ := exists_error_of_isLacking isNeeded lacks
  have told : some subject ∈ errors.map (·.subject) := List.count_pos_iff.mp (by rw [once]; exact Nat.one_pos)
  obtain ⟨error, member, points⟩ := List.mem_map.mp told
  rw [readState_of_unbuilt fails]
  exact ⟨⟨rfl, rfl⟩, rfl, errors, rfl, error, member, subject, isUnknown, points⟩

/-- **A read refuses to guess exactly if mount or name is unknown.** -/
theorem refusesUnknown_iff :
    RefusesUnknown state diagnostics (readState slot state delivery diagnostics) ↔
      state.mount = .unknown ∨ state.name = .unknown := by
  constructor
  · rintro ⟨-, -, added, adds, error, member, subject, isUnknown, points⟩
    have told := subject_of_mem_readState adds member
    rw [points] at told
    cases isUnknown with
    | mount unknown => exact Or.inl unknown
    | name unknown => exact Or.inr unknown
    | namespaceName unknown =>
      -- No error of a read is for the namespace.
      simp at told
    | version unknown =>
      -- An error for the version is for one that is known.
      have bad : state.hasBadVersion = true := by simpa using told
      unfold SecretState.hasBadVersion at bad
      rw [unknown] at bad
      cases bad
  · rintro (unknown | unknown)
    · exact refusesUnknown_of_needed (List.mem_cons_self ..) unknown (.mount unknown)
    · exact refusesUnknown_of_needed (List.mem_cons_of_mem _ (List.mem_singleton_self _)) unknown (.name unknown)

/-! ### Guessing -/

/-- The attribute with null in the place of what is unknown. -/
def Attribute.guessed {α : Type} : Attribute α → Attribute α
  | .unknown => .null
  | other => other

/-- The state that leaves out a namespace and a version that are unknown. -/
def SecretState.guessed (state : SecretState) : SecretState :=
  { state with namespaceName := state.namespaceName.guessed, version := state.version.guessed }

/-- What comes of a read, with another namespace in the state that is given. -/
def ReadOutcome.under (outcome : ReadOutcome) (namespaceName : Attribute String) : ReadOutcome :=
  { outcome with state := outcome.state.map fun after => { after with namespaceName } }

/-- A request does not tell what is unknown from what is left out. -/
theorem buildRequest_guessed (state : SecretState) : buildRequest state.guessed = buildRequest state := by
  have version : requestedVersion state.version.guessed = requestedVersion state.version := by
    cases state.version <;> rfl
  have namespaceName : state.namespaceName.guessed.value? = state.namespaceName.value? := by
    cases state.namespaceName <;> rfl
  unfold buildRequest SecretState.guessed
  simp only [version, namespaceName]

/-- A read does not tell what is unknown from what is left out, but for the namespace in the state that it gives. -/
theorem readState_guessed (slot : Slot) (state : SecretState) (delivery : Delivery) (diagnostics : Diagnostics) :
    readState slot state delivery diagnostics =
      (readState slot state.guessed delivery diagnostics).under state.namespaceName := by
  unfold readState
  rw [buildRequest_guessed]
  cases buildRequest state with
  | error errors => rfl
  | ok request =>
    cases slot with
    | none => rfl
    | some reader =>
      simp only [Slot.reader]
      cases (reader.read request delivery).result with
      | error failure => rfl
      | ok secret => rfl

/-- **What a read does about unknown inputs.** It refuses to guess exactly if mount or name is unknown. Otherwise an
unknown namespace is the one of the provider and an unknown version the latest: the read is that of the state which
leaves them out. Something is unknown in the state that it gives exactly if the namespace is. A provider block in which
something is unknown is never configured: nothing is sent, nothing is changed, and the first of its problems is told. -/
theorem readState_unknownInputs (slot : Slot) (state : SecretState) (delivery : Delivery) (diagnostics : Diagnostics) :
    (RefusesUnknown state diagnostics (readState slot state delivery diagnostics) ↔
      state.mount = .unknown ∨ state.name = .unknown) ∧
    readState slot state delivery diagnostics =
      (readState slot state.guessed delivery diagnostics).under state.namespaceName ∧
    (∀ after, (readState slot state delivery diagnostics).state = some after →
      (after.NothingUnknown ↔ state.namespaceName ≠ .unknown)) ∧
    ∀ (provider : Instance) (config : Config), ¬ config.NothingUnknown →
      ∃ failure, (config.problems provider.environment).head? = some failure ∧
        configure provider config delivery diagnostics =
          { returned := false, provider, diagnostics := diagnostics.add failure.report, sent := [] } := by
  refine ⟨refusesUnknown_iff, readState_guessed slot state delivery diagnostics, fun after given => ?_,
    fun provider config unknown => ?_⟩
  · obtain ⟨request, reader, secret, built, -, -, rfl⟩ := exists_reader_of_readState given
    obtain ⟨mount, name⟩ := exists_names_of_buildRequest built
    rw [withSecret_nothingUnknown_iff, mount, name]
    exact ⟨fun known => known.2.2, fun known => ⟨nofun, nofun, known⟩⟩
  · obtain ⟨failure, fails⟩ := Config.exists_failure_of_resolve (Or.inl unknown)
    refine ⟨failure, Config.resolve_eq_error_iff.mp fails, ?_⟩
    rw [(FailsFirst.resolving fails).configure diagnostics, connect_of_unresolved fails]

/-- **A read sends a guess.** Namespace and version are unknown, and still the secret is asked for in the namespace of
the client and without a version, and a state with something unknown is given without an error. -/
theorem readState_sendsGuess :
    let state : SecretState :=
      { mount := .known "/kv", name := .known "app", namespaceName := .unknown, version := .unknown }
    ∃ client after, Vault.Client.make
        { address := "http://[::1]:8200", token := "t", namespaceName := some "team" } = .ok client ∧
      let outcome := readState (some (.client client)) state removal {}
      ¬ RefusesUnknown state {} outcome ∧ outcome.diagnostics = {} ∧
        outcome.sent.map (·.headers.find? "x-vault-namespace") = [some "team"] ∧
        outcome.sent.map (·.address.query) = [none] ∧ outcome.state = some after ∧ ¬ after.NothingUnknown := by
  intro state
  have computed : ((Vault.Client.make
      { address := "http://[::1]:8200", token := "t", namespaceName := some "team" }).toOption.map fun client =>
        let outcome := readState (some (.client client)) state removal {}
        ((outcome.diagnostics, outcome.state.map (·.namespaceName)),
          outcome.sent.map (·.headers.find? "x-vault-namespace"), outcome.sent.map (·.address.query))) =
      some (({}, some .unknown), [some "team"], [none]) := by
    decide +kernel
  obtain ⟨client, made, computed⟩ := Option.map_eq_some_iff.mp computed
  simp only [Prod.mk.injEq] at computed
  obtain ⟨⟨noError, given⟩, named, unversioned⟩ := computed
  obtain ⟨after, given, unknown⟩ := Option.map_eq_some_iff.mp given
  refine ⟨client, after, toOption_eq_some_iff.mp made, fun refuses => ?_, noError, named, unversioned, given,
    fun nothing => nothing.namespaceName unknown⟩
  rw [refuses.noState] at given
  cases given

end SecretSource.Provider
