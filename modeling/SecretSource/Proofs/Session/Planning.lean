/-
**The check before resolving agrees with resolving.**

A block is checked twice: `checkKnown` looks at what is known, `resolve` at everything, the environment included,
and what it gives is checked a third time when a client is made. The three accept the same.

* `resolve_eq_ok_iff`: a block resolves exactly if nothing is unknown, and address and token are given and in
  order.
* `mem_checkKnown_iff`, `nodup_checkKnown`: what the check of what is known finds.
* `checkKnown_agreesWithResolve`: the check before resolving, resolving, and making a client agree.
-/

import SecretSource.Proofs.Vault.Making
import SecretSource.Provider.Config

namespace SecretSource.Provider

open SecretSource.Vault (checkAddress)

/-- The text that an attribute is given, by itself or by the environment, if it is not blank. -/
def Attribute.given (value : Attribute String) (variableName : String) (environment : Environment) :
    Option String :=
  let text := match value with
    | .known text => some text
    | .null => environment variableName
    | .unknown => none
  text.filter (! Unicode.isBlankText ·)

/-- What is given is not blank. -/
theorem Attribute.isBlankText_of_given {value : Attribute String} {variableName text : String}
    {environment : Environment} (given : value.given variableName environment = some text) :
    Unicode.isBlankText text = false := by
  obtain ⟨-, kept⟩ := Option.filter_eq_some_iff.mp given
  rwa [Bool.not_eq_true'] at kept

/-- A null attribute is given by the environment. -/
theorem Attribute.given_null {variableName text : String} {environment : Environment}
    (found : environment variableName = some text) (notBlank : Unicode.isBlankText text = false) :
    Attribute.null.given variableName environment = some text := by
  unfold given
  simp [found, Option.filter, notBlank]

/-- A known attribute is given by itself, whatever the environment holds. -/
theorem Attribute.given_known (text variableName : String) (environment : Environment) :
    (Attribute.known text).given variableName environment =
      if Unicode.isBlankText text then none else some text := by
  unfold given
  cases blank : Unicode.isBlankText text <;> simp [Option.filter, blank]

theorem resolveAttribute_eq_ok_iff {value : Attribute String} {subject variableName : String}
    {environment : Environment} {found : Option String} :
    resolveAttribute value subject variableName environment = .ok found ↔
      value ≠ .unknown ∧ value.given variableName environment = found := by
  cases value with
  | unknown => exact ⟨nofun, fun known => absurd rfl known.1⟩
  | null => exact ⟨fun same => ⟨nofun, Except.ok.inj same⟩, fun known => congrArg _ known.2⟩
  | known text => exact ⟨fun same => ⟨nofun, Except.ok.inj same⟩, fun known => congrArg _ known.2⟩

namespace Config

variable {config : Config} {environment : Environment}

/-- No attribute of a block depends on what is not known yet. -/
structure NothingUnknown (config : Config) : Prop where
  address : config.address ≠ .unknown
  token : config.token ≠ .unknown
  namespaceName : config.namespaceName ≠ .unknown

/-- Resolving gives the address and the token that were found. -/
theorem exists_given_of_resolve {resolved : Vault.Config} (resolves : config.resolve environment = .ok resolved) :
    config.NothingUnknown ∧ config.address.given "VAULT_ADDR" environment = some resolved.address ∧
      config.token.given "VAULT_TOKEN" environment = some resolved.token ∧
      checkAddress resolved.address = .ok () ∧ resolved.timeout = 30_000_000_000 := by
  obtain ⟨address, isAddress, resolves⟩ := exists_of_bind_eq_ok resolves
  obtain ⟨addressKnown, givenAddress⟩ := resolveAttribute_eq_ok_iff.mp isAddress
  cases address with
  | none => cases resolves
  | some address =>
    obtain ⟨token, isToken, resolves⟩ := exists_of_bind_eq_ok resolves
    obtain ⟨tokenKnown, givenToken⟩ := resolveAttribute_eq_ok_iff.mp isToken
    cases token with
    | none => cases resolves
    | some token =>
      obtain ⟨name, isName, resolves⟩ := exists_of_bind_eq_ok resolves
      obtain ⟨nameKnown, -⟩ := resolveAttribute_eq_ok_iff.mp isName
      obtain ⟨_, accepted, resolves⟩ := exists_of_bind_eq_ok resolves
      have passes := mapError_eq_ok_iff.mp accepted
      refine ⟨⟨addressKnown, tokenKnown, nameKnown⟩, ?_⟩
      cases name <;> cases resolves <;> exact ⟨givenAddress, givenToken, passes, rfl⟩

/-- **When a block resolves.** -/
theorem resolve_eq_ok_iff :
    (∃ resolved, config.resolve environment = .ok resolved) ↔
      config.NothingUnknown ∧ ∃ address token,
        config.address.given "VAULT_ADDR" environment = some address ∧
        config.token.given "VAULT_TOKEN" environment = some token ∧ checkAddress address = .ok () := by
  constructor
  · rintro ⟨resolved, resolves⟩
    obtain ⟨known, address, token, passes, -⟩ := exists_given_of_resolve resolves
    exact ⟨known, _, _, address, token, passes⟩
  · rintro ⟨known, address, token, isAddress, isToken, passes⟩
    unfold resolve
    rw [resolveAttribute_eq_ok_iff.mpr ⟨known.address, isAddress⟩]
    show ∃ resolved, (resolveAttribute config.token _ _ _ >>= _) = Except.ok resolved
    rw [resolveAttribute_eq_ok_iff.mpr ⟨known.token, isToken⟩]
    show ∃ resolved, (resolveAttribute config.namespaceName _ _ _ >>= _) = Except.ok resolved
    rw [resolveAttribute_eq_ok_iff.mpr ⟨known.namespaceName, rfl⟩]
    show ∃ resolved, ((checkAddress address).mapError addressFailure >>= _) = Except.ok resolved
    rw [passes]
    cases config.namespaceName.given "VAULT_NAMESPACE" environment with
    | none => exact ⟨_, rfl⟩
    | some name => exact ⟨_, rfl⟩

/-! ### What is known -/

/-- An address is refused as a wrong configuration. -/
theorem exists_cause_of_checkAddress {text : String} {failure : Vault.Failure}
    (refused : checkAddress text = .error failure) : ∃ cause, failure = .invalidConfig cause := by
  unfold checkAddress at refused
  split at refused
  · exact ⟨_, (Except.error.inj refused).symm⟩
  · exact ⟨_, (Except.error.inj refused).symm⟩
  · split at refused
    · exact ⟨_, (Except.error.inj refused).symm⟩
    · cases refused

/-- What is wrong with a known attribute: it is blank, or no address of the web. -/
inductive IsWrong (config : Config) : Failure → Prop where
  | blankAddress {text : String} (known : config.address = .known text)
      (blank : Unicode.isBlankText text = true) : IsWrong config .missingAddress
  | badAddress {text cause : String} (known : config.address = .known text)
      (notBlank : Unicode.isBlankText text = false) (refused : checkAddress text = .error (.invalidConfig cause)) :
      IsWrong config (.invalidAddress cause)
  | blankToken {text : String} (known : config.token = .known text)
      (blank : Unicode.isBlankText text = true) : IsWrong config .missingToken

theorem isWrong_of_addressProblem? {failure : Failure} (problem : config.addressProblem? = some failure) :
    config.IsWrong failure ∧ failure.subject? = some "address" ∧ ∃ text, config.address = .known text := by
  unfold addressProblem? at problem
  split at problem
  · split at problem
    · cases problem
      exact ⟨.blankAddress ‹_› ‹_›, rfl, _, ‹_›⟩
    · split at problem
      · cases problem
      · rename_i refused
        obtain ⟨cause, rfl⟩ := exists_cause_of_checkAddress refused
        cases problem
        exact ⟨.badAddress ‹_› (Bool.eq_false_iff.mpr ‹_›) refused, rfl, _, ‹_›⟩
  · cases problem

theorem isWrong_of_tokenProblem? {failure : Failure} (problem : config.tokenProblem? = some failure) :
    config.IsWrong failure ∧ failure.subject? = some "token" ∧ ∃ text, config.token = .known text := by
  unfold tokenProblem? at problem
  split at problem
  · split at problem
    · cases problem
      exact ⟨.blankToken ‹_› ‹_›, rfl, _, ‹_›⟩
    · cases problem
  · cases problem

/-- **The check of what is known finds what is wrong with it.** -/
theorem mem_checkKnown_iff {failure : Failure} : failure ∈ config.checkKnown ↔ config.IsWrong failure := by
  rw [checkKnown, List.mem_append, Option.mem_toList, Option.mem_toList]
  constructor
  · rintro (problem | problem)
    · exact (isWrong_of_addressProblem? problem).1
    · exact (isWrong_of_tokenProblem? problem).1
  · rintro (⟨known, blank⟩ | ⟨known, notBlank, refused⟩ | ⟨known, blank⟩)
    · simp [addressProblem?, known, blank]
    · simp [addressProblem?, known, notBlank, refused, addressFailure]
    · simp [tokenProblem?, known, blank]

/-- An error is for the address or for the token, which is then known. -/
theorem subject_of_mem_checkKnown {failure : Failure} (member : failure ∈ config.checkKnown) :
    (failure.subject? = some "address" ∧ ∃ text, config.address = .known text) ∨
      (failure.subject? = some "token" ∧ ∃ text, config.token = .known text) := by
  rw [checkKnown, List.mem_append, Option.mem_toList, Option.mem_toList] at member
  rcases member with problem | problem
  · exact Or.inl (isWrong_of_addressProblem? problem).2
  · exact Or.inr (isWrong_of_tokenProblem? problem).2

/-- No two errors are for the same attribute. -/
theorem nodup_checkKnown (config : Config) : (config.checkKnown.map Failure.subject?).Nodup := by
  unfold checkKnown
  cases address : config.addressProblem? with
  | none => cases token : config.tokenProblem? <;> simp
  | some failure =>
    have ofAddress := (isWrong_of_addressProblem? address).2.1
    cases token : config.tokenProblem? with
    | none => simp
    | some other =>
      have ofToken := (isWrong_of_tokenProblem? token).2.1
      simp [ofAddress, ofToken]

/-- A block that resolves has nothing wrong with it. -/
theorem not_isWrong_of_resolve {resolved : Vault.Config} (resolves : config.resolve environment = .ok resolved)
    (failure : Failure) : ¬ config.IsWrong failure := by
  obtain ⟨-, address, token, passes, -⟩ := exists_given_of_resolve resolves
  intro wrong
  cases wrong with
  | blankAddress known blank =>
    rw [known, Attribute.given_known, if_pos blank] at address
    cases address
  | badAddress known notBlank refused =>
    rw [known, Attribute.given_known, if_neg (Bool.eq_false_iff.mp notBlank)] at address
    rw [← Option.some.inj address, refused] at passes
    cases passes
  | blankToken known blank =>
    rw [known, Attribute.given_known, if_pos blank] at token
    cases token

/-- If address and token are known, resolving fails with something that is wrong with them. -/
theorem isWrong_of_resolve {address token : String} (isAddress : config.address = .known address)
    (isToken : config.token = .known token) (nameKnown : config.namespaceName ≠ .unknown) {failure : Failure}
    (fails : config.resolve environment = .error failure) : config.IsWrong failure := by
  unfold resolve at fails
  rcases bind_eq_error fails with unresolved | ⟨found, isFound, fails⟩
  · rw [isAddress] at unresolved
    cases unresolved
  obtain ⟨-, given⟩ := resolveAttribute_eq_ok_iff.mp isFound
  rw [isAddress, Attribute.given_known] at given
  split at given
  · cases given
    cases fails
    exact .blankAddress isAddress ‹_›
  cases given
  rcases bind_eq_error fails with unresolved | ⟨found, isFound, fails⟩
  · rw [isToken] at unresolved
    cases unresolved
  obtain ⟨-, given⟩ := resolveAttribute_eq_ok_iff.mp isFound
  rw [isToken, Attribute.given_known] at given
  split at given
  · cases given
    cases fails
    exact .blankToken isToken ‹_›
  cases given
  rcases bind_eq_error fails with unresolved | ⟨name, -, fails⟩
  · rw [resolveAttribute_eq_ok_iff.mpr ⟨nameKnown, rfl⟩] at unresolved
    cases unresolved
  rcases bind_eq_error fails with refused | ⟨-, -, fails⟩
  · obtain ⟨cause, rejected, rfl⟩ := exists_of_mapError_eq_error refused
    obtain ⟨text, rfl⟩ := exists_cause_of_checkAddress rejected
    exact .badAddress isAddress (Bool.eq_false_iff.mpr ‹_›) rejected
  · cases name <;> cases fails

theorem not_isWrong_of_checkKnown (nothingWrong : config.checkKnown = []) (failure : Failure) :
    ¬ config.IsWrong failure := by
  intro wrong
  have member := mem_checkKnown_iff.mpr wrong
  rw [nothingWrong] at member
  cases member

/-- An address with which nothing is wrong is given, if the environment has one where the block has none. -/
theorem exists_address_of_checkKnown (nothingWrong : config.checkKnown = []) (known : config.address ≠ .unknown)
    (inherits : config.address = .null → ∃ text, environment "VAULT_ADDR" = some text ∧
      Unicode.isBlankText text = false ∧ checkAddress text = .ok ()) :
    ∃ text, config.address.given "VAULT_ADDR" environment = some text ∧ checkAddress text = .ok () := by
  cases address : config.address with
  | unknown => exact absurd address known
  | null =>
    obtain ⟨text, found, notBlank, passes⟩ := inherits address
    exact ⟨text, Attribute.given_null found notBlank, passes⟩
  | known text =>
    have notBlank : Unicode.isBlankText text = false :=
      Bool.eq_false_iff.mpr fun blank => not_isWrong_of_checkKnown nothingWrong _ (.blankAddress address blank)
    refine ⟨text, ?_, ?_⟩
    · rw [Attribute.given_known, if_neg (Bool.eq_false_iff.mp notBlank)]
    · cases passes : checkAddress text with
      | ok => rfl
      | error failure =>
        obtain ⟨cause, rfl⟩ := exists_cause_of_checkAddress passes
        exact absurd (.badAddress address notBlank passes) (not_isWrong_of_checkKnown nothingWrong _)

/-- So is a token. -/
theorem exists_token_of_checkKnown (nothingWrong : config.checkKnown = []) (known : config.token ≠ .unknown)
    (inherits : config.token = .null → ∃ text, environment "VAULT_TOKEN" = some text ∧
      Unicode.isBlankText text = false) :
    ∃ text, config.token.given "VAULT_TOKEN" environment = some text := by
  cases token : config.token with
  | unknown => exact absurd token known
  | null =>
    obtain ⟨text, found, notBlank⟩ := inherits token
    exact ⟨text, Attribute.given_null found notBlank⟩
  | known text =>
    refine ⟨text, ?_⟩
    rw [Attribute.given_known, if_neg fun blank => ?_]
    exact not_isWrong_of_checkKnown nothingWrong _ (.blankToken token blank)

/-- A configuration that was resolved makes a client. -/
theorem exists_client_of_resolve {resolved : Vault.Config} (resolves : config.resolve environment = .ok resolved) :
    resolved.check = .ok () ∧ ∃ client, Vault.Client.make resolved = .ok client := by
  obtain ⟨-, -, token, passes, time⟩ := exists_given_of_resolve resolves
  have checked : resolved.check = .ok () := by
    rw [Vault.Config.check, Attribute.isBlankText_of_given token]
    exact passes
  obtain ⟨_, base, -, -, -, makes⟩ := Vault.Client.make_of_check checked
  rw [if_neg (by rw [time]; decide)] at makes
  exact ⟨checked, _, makes⟩

/-- **The check before resolving agrees with resolving**, and resolving with making a client. -/
theorem checkKnown_agreesWithResolve (config : Config) (environment : Environment) :
    (config.checkKnown ≠ [] → ∃ failure, config.resolve environment = .error failure) ∧
    (config.NothingUnknown → config.checkKnown = [] →
      (config.address = .null → ∃ text, environment "VAULT_ADDR" = some text ∧
        Unicode.isBlankText text = false ∧ checkAddress text = .ok ()) →
      (config.token = .null → ∃ text, environment "VAULT_TOKEN" = some text ∧
        Unicode.isBlankText text = false) →
      ∃ resolved, config.resolve environment = .ok resolved) ∧
    (∀ address token, config.address = .known address → config.token = .known token →
      config.namespaceName ≠ .unknown →
      ((∃ resolved, config.resolve environment = .ok resolved) ↔ config.checkKnown = []) ∧
      ∀ failure, config.resolve environment = .error failure → failure ∈ config.checkKnown) ∧
    (∀ failure ∈ config.checkKnown,
      (failure.subject? = some "address" ∧ ∃ text, config.address = .known text) ∨
        (failure.subject? = some "token" ∧ ∃ text, config.token = .known text)) ∧
    (config.checkKnown.map Failure.subject?).Nodup ∧
    (∀ resolved, config.resolve environment = .ok resolved →
      resolved.check = .ok () ∧ ∃ client, Vault.Client.make resolved = .ok client) := by
  refine ⟨fun wrong => ?_, fun known nothingWrong inheritsAddress inheritsToken => ?_,
    fun address token isAddress isToken nameKnown => ⟨⟨?_, fun nothingWrong => ?_⟩, fun failure fails => ?_⟩,
    fun failure member => subject_of_mem_checkKnown member, nodup_checkKnown config,
    fun resolved resolves => exists_client_of_resolve resolves⟩
  · cases resolves : config.resolve environment with
    | error failure => exact ⟨failure, rfl⟩
    | ok resolved =>
      obtain ⟨failure, member⟩ := List.exists_mem_of_ne_nil _ wrong
      exact absurd (mem_checkKnown_iff.mp member) (not_isWrong_of_resolve resolves failure)
  · obtain ⟨address, isAddress, passes⟩ :=
      exists_address_of_checkKnown nothingWrong known.address inheritsAddress
    obtain ⟨token, isToken⟩ := exists_token_of_checkKnown nothingWrong known.token inheritsToken
    exact resolve_eq_ok_iff.mpr ⟨known, address, token, isAddress, isToken, passes⟩
  · rintro ⟨resolved, resolves⟩
    refine List.eq_nil_iff_forall_not_mem.mpr fun failure member => ?_
    exact not_isWrong_of_resolve resolves failure (mem_checkKnown_iff.mp member)
  · cases resolves : config.resolve environment with
    | ok resolved => exact ⟨resolved, rfl⟩
    | error failure =>
      have wrong := isWrong_of_resolve isAddress isToken nameKnown resolves
      exact absurd wrong (not_isWrong_of_checkKnown nothingWrong failure)
  · exact mem_checkKnown_iff.mpr (isWrong_of_resolve isAddress isToken nameKnown fails)

/-- An address from the environment, and a block in which both address and token are wrong: the token is reported
first, though the address is found first. -/
theorem checkKnown_agreesWithResolve_bothSources :
    ∃ (config wrong : Config) (environment : Environment),
      config = { address := .null, token := .known "t" } ∧
      wrong = ofTexts "ftp://vault.example.com" " \t" (some "team") ∧
      environment "VAULT_ADDR" = some "https://[::1]:8200//" ∧
      (∃ resolved client, config.resolve environment = .ok resolved ∧
        resolved.address = "https://[::1]:8200//" ∧ Vault.Client.make resolved = .ok client) ∧
      wrong.resolve environment = .error .missingToken ∧ Failure.missingToken ∈ wrong.checkKnown ∧
      wrong.checkKnown.head? ≠ some .missingToken := by
  obtain ⟨environment, isEnvironment⟩ : ∃ environment : Environment,
    environment = fun name => if name = "VAULT_ADDR" then some "https://[::1]:8200//" else none := ⟨_, rfl⟩
  have found : environment "VAULT_ADDR" = some "https://[::1]:8200//" := by
    rw [isEnvironment]
    rfl
  refine ⟨{ address := .null, token := .known "t" }, ofTexts "ftp://vault.example.com" " \t" (some "team"),
    environment, rfl, rfl, found, ?_, rfl, ?_, ?_⟩
  · obtain ⟨-, resolves, -, -, -, makes⟩ :=
      checkKnown_agreesWithResolve { address := .null, token := .known "t" } environment
    have passes : checkAddress "https://[::1]:8200//" = .ok () := eq_ok_of_isOk (by decide +kernel)
    obtain ⟨resolved, resolves⟩ :=
      resolves ⟨nofun, nofun, nofun⟩ rfl (fun _ => ⟨_, found, by decide, passes⟩) nofun
    obtain ⟨-, client, made⟩ := makes resolved resolves
    refine ⟨resolved, client, resolves, ?_, made⟩
    obtain ⟨-, given, -⟩ := exists_given_of_resolve resolves
    rw [Attribute.given_null found (by decide)] at given
    exact (Option.some.inj given).symm
  · exact ((checkKnown_agreesWithResolve _ environment).2.2.1 _ _ rfl rfl (by decide)).2 _ rfl
  · have first : (ofTexts "ftp://vault.example.com" " \t" (some "team")).checkKnown.head?.bind (·.subject?) =
        some "address" := by decide +kernel
    intro token
    rw [token] at first
    exact absurd first (by decide)

end Config

end SecretSource.Provider
