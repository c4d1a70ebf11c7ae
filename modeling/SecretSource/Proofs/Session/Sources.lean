/-
**Where the configuration of a block comes from, and what is told if there is none.**

A known attribute stands for its own text, however blank, and a null one for what the environment holds; an unknown
one stands for nothing. So a block looks up the variables of its null attributes only, and of everything that is
wrong with it, the first in a fixed order is told.

* `Attribute.source`: the text an attribute stands for, blank or not.
* `Config.problems`: all that is wrong with a block, in order; `resolve_eq_error_iff`: its first is the failure.
* `resolve_congr`: environments that agree on the variables of null attributes resolve a block to the same.
* `resolve_followsSources`: all of this, and what a block that resolves takes from where.
-/

import SecretSource.Proofs.Session.Namespace
import SecretSource.Proofs.Session.Planning

namespace SecretSource.Provider

open SecretSource.Vault (checkAddress)

namespace Attribute

variable {value : Attribute String} {subject variableName : String} {environment : Environment}

/-- The text that an attribute stands for: its own, or the one in the environment if it is null. -/
def source (value : Attribute String) (variableName : String) (environment : Environment) : Option String :=
  match value with
  | .known text => some text
  | .null => environment variableName
  | .unknown => none

/-- What is given is the source, unless it is blank. -/
theorem given_eq_filter_source (value : Attribute String) (variableName : String) (environment : Environment) :
    value.given variableName environment =
      (value.source variableName environment).filter (! Unicode.isBlankText ·) := rfl

/-- What is given is the source as it stands. -/
theorem source_of_given {text : String} (given : value.given variableName environment = some text) :
    value.source variableName environment = some text :=
  (Option.filter_eq_some_iff.mp given).1

/-- Nothing is given exactly if there is no source or a blank one. -/
theorem given_eq_none_iff :
    value.given variableName environment = none ↔
      ∀ text, value.source variableName environment = some text → Unicode.isBlankText text = true := by
  rw [given_eq_filter_source, Option.filter_eq_none_iff]
  simp

/-- Only the variable of a null attribute is looked up. -/
theorem resolveAttribute_congr {other : Environment}
    (agrees : value = .null → other variableName = environment variableName) :
    resolveAttribute value subject variableName other = resolveAttribute value subject variableName environment := by
  cases value with
  | null =>
    show Except.ok ((other variableName).filter _) = Except.ok ((environment variableName).filter _)
    rw [agrees rfl]
  | unknown => rfl
  | known text => rfl

/-- What is wrong with an attribute: it is unknown, or nothing is given, and `missing` says what that means. -/
def faults (value : Attribute String) (subject variableName : String) (missing : List Failure)
    (environment : Environment) : List Failure :=
  if value = .unknown then [.unknownValue subject]
  else if value.given variableName environment = none then missing
  else []

/-- An attribute is unknown, or nothing is given, or something is; this decides what is resolved and what is wrong. -/
theorem resolveAttribute_cases (value : Attribute String) (subject variableName : String) (missing : List Failure)
    (environment : Environment) :
    (value = .unknown ∧ resolveAttribute value subject variableName environment = .error (.unknownValue subject) ∧
      value.faults subject variableName missing environment = [.unknownValue subject]) ∨
    (value.given variableName environment = none ∧
      resolveAttribute value subject variableName environment = .ok none ∧
      value.faults subject variableName missing environment = missing) ∨
    ∃ text, value.given variableName environment = some text ∧
      resolveAttribute value subject variableName environment = .ok (some text) ∧
      value.faults subject variableName missing environment = [] := by
  unfold faults
  by_cases unknown : value = .unknown
  · refine Or.inl ⟨unknown, ?_, if_pos unknown⟩
    rw [unknown]
    rfl
  · have resolved : resolveAttribute value subject variableName environment =
        .ok (value.given variableName environment) := resolveAttribute_eq_ok_iff.mpr ⟨unknown, rfl⟩
    rw [if_neg unknown]
    cases given : value.given variableName environment with
    | none => exact Or.inr (Or.inl ⟨rfl, resolved.trans (congrArg _ given), if_pos rfl⟩)
    | some text => exact Or.inr (Or.inr ⟨text, rfl, resolved.trans (congrArg _ given), if_neg nofun⟩)

end Attribute

namespace Config

variable {config : Config} {environment : Environment}

/-- What is wrong with the text of an address: it is refused for some cause, or nothing is. -/
def refusals (text : String) : List Failure :=
  match checkAddress text with
  | .error (.invalidConfig cause) => [.invalidAddress cause]
  | _ => []

/-- All that is wrong with a block in an environment, in the order in which it is told: the address unknown or
missing, the token unknown or missing, the namespace unknown, and last an address that is given and is refused. -/
def problems (config : Config) (environment : Environment) : List Failure :=
  config.address.faults "address" "VAULT_ADDR" [.missingAddress] environment
    ++ config.token.faults "token" "VAULT_TOKEN" [.missingToken] environment
    ++ config.namespaceName.faults "namespace" "VAULT_NAMESPACE" [] environment
    ++ (config.address.given "VAULT_ADDR" environment).elim [] refusals

/-- **The first problem is told.** -/
theorem resolve_eq_error_iff {failure : Failure} :
    config.resolve environment = .error failure ↔ (config.problems environment).head? = some failure := by
  have told (first : Failure) (others : List Failure) :
      (Except.error first : Except Failure Vault.Config) = .error failure ↔
        (first :: others).head? = some failure := by
    rw [Except.error.injEq, List.head?_cons, Option.some.injEq]
  unfold resolve problems
  -- The stages in their order; a stage that fails adds the first problem.
  rcases config.address.resolveAttribute_cases "address" "VAULT_ADDR" [.missingAddress] environment with
    ⟨-, stage, faults⟩ | ⟨-, stage, faults⟩ | ⟨address, given, stage, faults⟩
  · rw [stage, faults]
    exact told _ _
  · rw [stage, faults]
    exact told _ _
  rw [stage, faults, given]
  show (resolveAttribute config.token _ _ _ >>= _) = _ ↔ _
  rcases config.token.resolveAttribute_cases "token" "VAULT_TOKEN" [.missingToken] environment with
    ⟨-, stage, faults⟩ | ⟨-, stage, faults⟩ | ⟨token, -, stage, faults⟩
  · rw [stage, faults]
    exact told _ _
  · rw [stage, faults]
    exact told _ _
  rw [stage, faults]
  show (resolveAttribute config.namespaceName _ _ _ >>= _) = _ ↔ _
  rcases config.namespaceName.resolveAttribute_cases "namespace" "VAULT_NAMESPACE" [] environment with
    ⟨-, stage, faults⟩ | ⟨-, stage, faults⟩ | ⟨name, -, stage, faults⟩
  · rw [stage, faults]
    exact told _ _
  all_goals
    rw [stage, faults]
    show ((checkAddress address).mapError addressFailure >>= _) = _ ↔ (refusals address).head? = _
    unfold refusals
    cases refused : checkAddress address with
    | error failure =>
      obtain ⟨cause, rfl⟩ := exists_cause_of_checkAddress refused
      exact told _ _
    | ok => exact iff_of_false nofun nofun

/-- Two environments agree on the variables of the null attributes of a block. -/
structure AgreesWhereNull (config : Config) (environment other : Environment) : Prop where
  address : config.address = .null → other "VAULT_ADDR" = environment "VAULT_ADDR"
  token : config.token = .null → other "VAULT_TOKEN" = environment "VAULT_TOKEN"
  namespaceName : config.namespaceName = .null → other "VAULT_NAMESPACE" = environment "VAULT_NAMESPACE"

/-- Nothing else of an environment counts. -/
theorem resolve_congr {other : Environment} (agrees : config.AgreesWhereNull environment other) :
    config.resolve other = config.resolve environment := by
  unfold resolve
  simp only [Attribute.resolveAttribute_congr agrees.address, Attribute.resolveAttribute_congr agrees.token,
    Attribute.resolveAttribute_congr agrees.namespaceName]

/-- A block in which something is unknown, or for whose address or token nothing is given, does not resolve. -/
theorem exists_failure_of_resolve
    (lacks : ¬ config.NothingUnknown ∨ config.address.given "VAULT_ADDR" environment = none ∨
      config.token.given "VAULT_TOKEN" environment = none) :
    ∃ failure, config.resolve environment = .error failure := by
  cases resolves : config.resolve environment with
  | error failure => exact ⟨failure, rfl⟩
  | ok resolved =>
    obtain ⟨known, address, token, -⟩ := exists_given_of_resolve resolves
    rcases lacks with unknown | none | none
    · exact absurd known unknown
    · cases address.symm.trans none
    · cases token.symm.trans none

/-- A known text that is blank is not given, whatever the environment holds. -/
theorem given_eq_none_of_blank {value : Attribute String} {text : String} (known : value = .known text)
    (blank : Unicode.isBlankText text = true) (variableName : String) :
    value.given variableName environment = none := by
  rw [known, Attribute.given_known, if_pos blank]

/-- **A block is resolved from its sources.** Environments that agree on the variables of its null attributes resolve
it to the same. Resolving fails with the first of its problems and with nothing else: always if an attribute is
unknown, and if address or token is known and blank, whatever the environment holds. What resolves has address, token
and namespace as they stand in their sources, and no namespace exactly if that has no source or a blank one. -/
theorem resolve_followsSources (config : Config) (environment : Environment) :
    (∀ other, config.AgreesWhereNull environment other →
      config.resolve other = config.resolve environment) ∧
    (∀ failure, config.resolve environment = .error failure ↔
      (config.problems environment).head? = some failure) ∧
    (¬ config.NothingUnknown → ∃ failure, config.resolve environment = .error failure) ∧
    (∀ text, config.address = .known text ∨ config.token = .known text → Unicode.isBlankText text = true →
      ∃ failure, config.resolve environment = .error failure) ∧
    (∀ resolved, config.resolve environment = .ok resolved →
      config.address.source "VAULT_ADDR" environment = some resolved.address ∧
      config.token.source "VAULT_TOKEN" environment = some resolved.token ∧
      (∀ name, resolved.namespaceName = some name →
        config.namespaceName.source "VAULT_NAMESPACE" environment = some name) ∧
      (resolved.namespaceName = none ↔ ∀ text,
        config.namespaceName.source "VAULT_NAMESPACE" environment = some text →
          Unicode.isBlankText text = true)) := by
  refine ⟨fun other agrees => resolve_congr agrees, fun failure => resolve_eq_error_iff,
    fun unknown => exists_failure_of_resolve (Or.inl unknown), fun text known blank => ?_,
    fun resolved resolves => ?_⟩
  · refine exists_failure_of_resolve (Or.inr ?_)
    rcases known with address | token
    · exact Or.inl (given_eq_none_of_blank address blank _)
    · exact Or.inr (given_eq_none_of_blank token blank _)
  · obtain ⟨-, address, token, -⟩ := exists_given_of_resolve resolves
    have name : resolved.namespaceName = config.namespaceName.given "VAULT_NAMESPACE" environment :=
      namespaceName_of_resolve resolves
    rw [name]
    exact ⟨Attribute.source_of_given address, Attribute.source_of_given token,
      fun _ given => Attribute.source_of_given given, Attribute.given_eq_none_iff⟩

/-- The address is inherited as it stands, the token keeps its blank, and a blank namespace is not replaced by that of
the environment; an environment that differs in the other variables changes nothing. -/
theorem resolve_followsSources_mixedSources :
    let config : Config := { address := .null, token := .known " t", namespaceName := .known " " }
    let environment : Environment := fun name =>
      if name = "VAULT_ADDR" then some " http://[::1]:8200/ "
      else if name = "VAULT_NAMESPACE" then some "team"
      else none
    let other : Environment := fun name =>
      if name = "VAULT_ADDR" then some " http://[::1]:8200/ " else some "other"
    let resolved : Vault.Config := { address := " http://[::1]:8200/ ", token := " t" }
    config.AgreesWhereNull environment other ∧ config.resolve environment = .ok resolved ∧
      config.resolve other = .ok resolved ∧ resolved.namespaceName = none ∧
      config.namespaceName.source "VAULT_NAMESPACE" environment = some " " := by
  intro config environment other resolved
  have agrees : config.AgreesWhereNull environment other := ⟨fun _ => rfl, nofun, nofun⟩
  have computed : (config.resolve environment).toOption = some resolved := by
    decide +kernel
  have resolves := toOption_eq_some_iff.mp computed
  obtain ⟨followsOther, -⟩ := resolve_followsSources config environment
  exact ⟨agrees, resolves, (followsOther other agrees).trans resolves, rfl, rfl⟩

/-- Of a token that is unknown, a blank address and an unknown namespace, the blank address is told, though the
environment has an address. -/
example :
    let config : Config := { address := .known "", token := .unknown, namespaceName := .unknown }
    config.resolve (fun _ => some "http://[::1]:8200") = .error .missingAddress := rfl

end Config

end SecretSource.Provider
