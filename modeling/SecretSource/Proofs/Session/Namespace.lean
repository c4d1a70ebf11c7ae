/-
**Which namespace a request names.**

A block names a namespace in its attribute or, if that is null, in the environment, and a blank text there
counts as none. The look at the token names the namespace of the block. A read names the namespace of its
state if that is known and not empty, and the namespace of the block otherwise; so a state whose namespace is
blank but not empty is asked for under that blank name.

* `Config.chosenNamespace`: the namespace of a block; `namespaceName_of_resolve`: it is what a block resolves
  to.
* `ownNamespace_eq_iff`: when leaving out the empty text is leaving out every blank text.
* `session_namespaceSent`: all requests of whole runs.
-/

import SecretSource.Proofs.Session.Sending

namespace SecretSource.Provider

open SecretSource.Http (Delivery)
open SecretSource.Vault (SecretRequest)

/-! ### The block -/

/-- The namespace of a block: that of its attribute, or of the environment if that is null; a blank text
counts as none. -/
def Config.chosenNamespace (config : Config) (environment : Environment) : Option String :=
  let text := match config.namespaceName with
    | .known text => some text
    | .null => environment "VAULT_NAMESPACE"
    | .unknown => none
  text.filter (! Unicode.isBlankText ·)

/-- The namespace of a block is not blank. -/
theorem Config.isBlankText_of_chosenNamespace {config : Config} {environment : Environment} {name : String}
    (chosen : config.chosenNamespace environment = some name) : Unicode.isBlankText name = false := by
  obtain ⟨-, kept⟩ := Option.filter_eq_some_iff.mp chosen
  rwa [Bool.not_eq_true'] at kept

/-- An attribute that is resolved gives the namespace of the block. -/
theorem chosenNamespace_of_resolveAttribute {config : Config} {environment : Environment}
    {name : Option String}
    (resolved : resolveAttribute config.namespaceName "namespace" "VAULT_NAMESPACE" environment = .ok name) :
    name = config.chosenNamespace environment := by
  unfold resolveAttribute at resolved
  unfold Config.chosenNamespace
  split at resolved
  · cases resolved
  · rename_i text known
    rw [known]
    exact (Except.ok.inj resolved).symm
  · rename_i null
    rw [null]
    exact (Except.ok.inj resolved).symm

/-- A block resolves to a configuration with its namespace. -/
theorem namespaceName_of_resolve {config : Config} {environment : Environment} {resolved : Vault.Config}
    (resolves : config.resolve environment = .ok resolved) :
    resolved.namespaceName = config.chosenNamespace environment := by
  obtain ⟨address, -, resolves⟩ := exists_of_bind_eq_ok resolves
  cases address with
  | none => cases resolves
  | some address =>
    obtain ⟨token, -, resolves⟩ := exists_of_bind_eq_ok resolves
    cases token with
    | none => cases resolves
    | some token =>
      obtain ⟨name, named, resolves⟩ := exists_of_bind_eq_ok resolves
      obtain ⟨_, -, resolves⟩ := exists_of_bind_eq_ok resolves
      have chosen := chosenNamespace_of_resolveAttribute named
      rw [← chosen]
      cases name with
      | none =>
        rw [← Except.ok.inj resolves]
      | some name =>
        have notBlank := Config.isBlankText_of_chosenNamespace chosen.symm
        rw [← Except.ok.inj resolves]
        show (if Unicode.isBlankText name = true then none else some name) = some name
        rw [notBlank]
        rfl

/-! ### The state -/

/-- The request for a state names the namespace of the state, if that is known and not empty. -/
theorem namespaceName_of_buildRequest {state : SecretState} {built : SecretRequest}
    (asked : buildRequest state = .ok built) :
    built.namespaceName = state.namespaceName.value?.filter (· ≠ "") := by
  unfold buildRequest at asked
  split at asked
  · cases asked
  · cases asked
  · cases asked
  · split at asked
    · cases asked
    · rw [← Except.ok.inj asked]

/-- The empty text is blank, so leaving out the empty text is leaving out every blank text exactly if no
other blank text is given: next to a namespace that is not blank, what is left out shows. -/
theorem ownNamespace_eq_iff (own : Attribute String) {inherited : Option String}
    (notBlank : ∀ name, inherited = some name → Unicode.isBlankText name = false) :
    (own.value?.filter (· ≠ "") <|> inherited) =
        (own.value?.filter (! Unicode.isBlankText ·) <|> inherited) ↔
      ∀ text, own = .known text → text ≠ "" → Unicode.isBlankText text = false := by
  cases own with
  | null => simp [Attribute.value?]
  | unknown => simp [Attribute.value?]
  | known text =>
    simp only [Attribute.value?, Attribute.known.injEq, forall_eq']
    by_cases empty : text = ""
    · subst empty
      simp [Option.filter, show Unicode.isBlankText "" = true by decide]
    · cases blank : Unicode.isBlankText text with
      | false => simp [Option.filter, empty, blank]
      | true =>
        -- The blank text is sent, and what would be sent instead is not blank.
        have differs : some text ≠ inherited := by
          intro same
          rw [notBlank text same.symm] at blank
          cases blank
        simpa [Option.filter, empty, blank] using differs

/-! ### Whole runs -/

/-- **Which namespace a request names.** Every request of a run was sent by a client that a step of the run
had brought. If that step configured the provider, the look at the token names the namespace of the block, or
none if the block has none; and a read names the namespace of its state if that is known and not empty, and
otherwise that of the block. A read in which a blank text counts as none would name the same, unless the
namespace of the state is known and blank but not empty. -/
theorem session_namespaceSent (version : String) (environment : Environment) (acts : List Act) :
    let taken := ((Process.start version environment).perform acts).2
    ∀ entry ∈ taken, ∀ request ∈ entry.answer.sent, ∃ source ∈ taken, ∃ client,
      source.session.place = entry.session.place ∧ (source = entry ∨ source.answer.isFilling = true) ∧
      source.next.reader? source.environment = some (.client client) ∧
      ∀ config lookup, source.next = .configure config lookup →
        config.resolve source.environment = .ok client.config ∧
        client.config.namespaceName = config.chosenNamespace source.environment ∧
        (∀ block delivery, entry.next = .configure block delivery →
          request.headers.find? "x-vault-namespace" = config.chosenNamespace source.environment) ∧
        ∀ state delivery, entry.next = .read state delivery →
          request.headers.find? "x-vault-namespace" =
              (state.namespaceName.value?.filter (· ≠ "") <|> config.chosenNamespace source.environment) ∧
          (request.headers.find? "x-vault-namespace" =
              (state.namespaceName.value?.filter (! Unicode.isBlankText ·) <|>
                config.chosenNamespace source.environment) ↔
            ∀ text, state.namespaceName = .known text → text ≠ "" → Unicode.isBlankText text = false) := by
  intro taken entry member request sent
  obtain ⟨source, inRun, client, shared, brought, composed⟩ := exists_source_of_mem_sent member sent
  refine ⟨source, inRun, client, shared, ?_, brought, fun config lookup configures => ?_⟩
  · rcases composed with ⟨same, -⟩ | ⟨filling, -⟩
    · exact Or.inl same
    · exact Or.inr filling
  · rw [configures] at brought
    obtain ⟨resolved, resolves, -, rfl⟩ := exists_resolved_of_reader? brought
    have chosen := namespaceName_of_resolve resolves
    refine ⟨resolves, chosen, fun block delivery configured => ?_, fun state delivery reads => ?_⟩
    · rcases composed with ⟨-, -, rfl⟩ | ⟨-, _, _, _, reads, -⟩
      · rw [Vault.Client.composedLookup, Vault.Client.find?_namespace_compose, ← chosen]
        rfl
      · cases configured.symm.trans reads
    · rcases composed with ⟨-, ⟨_, _, configured⟩, -⟩ | ⟨-, _, _, built, reading, asked, rfl⟩
      · cases reads.symm.trans configured
      · cases reads.symm.trans reading
        have named : (client.composed built).headers.find? "x-vault-namespace" =
            (state.namespaceName.value?.filter (· ≠ "") <|>
              config.chosenNamespace source.environment) := by
          rw [Vault.Client.composed, Vault.Client.find?_namespace_compose,
            namespaceName_of_buildRequest asked, chosen]
        refine ⟨named, ?_⟩
        rw [named]
        exact ownNamespace_eq_iff state.namespaceName fun _ => Config.isBlankText_of_chosenNamespace

/-- A namespace from the environment, and a read of a state without one. -/
theorem session_namespaceSent_inherited :
    let environment : Environment := fun name => if name = "VAULT_NAMESPACE" then some "team" else none
    let acts : List Act := [.take 0 (.configure (.ofTexts "http://[::1]:8200" "t" none) acceptance),
      .take 0 (.read (.ofNames "kv" "n") .dropped)]
    let taken := ((Process.start "0.1.0" environment).perform acts).2
    (taken.map fun entry => entry.answer.sent.map (·.headers.find? "x-vault-namespace")) =
      [[some "team"], [some "team"]] ∧
    ∃ entry ∈ taken, ∃ request ∈ entry.answer.sent, ∃ source ∈ taken, ∃ client,
      source.session.place = entry.session.place ∧
      source.next.reader? source.environment = some (.client client) ∧
      ∀ config lookup, source.next = .configure config lookup →
        client.config.namespaceName = config.chosenNamespace source.environment := by
  intro environment acts taken
  have named : (taken.map fun entry => entry.answer.sent.map (·.headers.find? "x-vault-namespace")) =
      [[some "team"], [some "team"]] := by
    decide +kernel
  obtain ⟨entry, member, sends⟩ : ∃ entry ∈ taken, 0 < entry.answer.sent.length := by decide +kernel
  obtain ⟨request, sent⟩ := List.exists_mem_of_length_pos sends
  obtain ⟨source, inRun, client, shared, -, brought, rule⟩ :=
    session_namespaceSent "0.1.0" environment acts entry member request sent
  exact ⟨named, entry, member, request, sent, source, inRun, client, shared, brought,
    fun config lookup configures => (rule config lookup configures).2.1⟩

/-- **A blank namespace is sent.** The block names a namespace, and a read of a state whose namespace is a
space is sent under the name of a space. -/
theorem session_blankNamespace_sent :
    let environment : Environment := fun name => if name = "VAULT_NAMESPACE" then some "team" else none
    let state := { SecretState.ofNames "kv" "n" with namespaceName := .known " " }
    let acts : List Act := [.take 0 (.configure (.ofTexts "http://[::1]:8200" "t" none) acceptance),
      .take 0 (.read state .dropped)]
    let taken := ((Process.start "0.1.0" environment).perform acts).2
    Unicode.isBlankText " " = true ∧
    (taken.map fun entry => entry.answer.sent.map (·.headers.find? "x-vault-namespace")) =
      [[some "team"], [some " "]] := by
  decide +kernel

end SecretSource.Provider
