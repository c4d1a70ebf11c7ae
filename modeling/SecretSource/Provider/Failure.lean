/-
**Failures of the provider, and how they are reported.**

A diagnostic has a summary, a detail and a subject: the attribute it points at, if it points at one.
-/

import SecretSource.Vault.Failure

namespace SecretSource.Provider

/-- An error that is shown to the user. -/
structure Diagnostic where
  summary : String
  detail : String
  subject : Option String
deriving DecidableEq, Repr

/-- Why the provider cannot be configured, or cannot serve. -/
inductive Failure where
  | missingAddress
  | missingToken
  | unknownValue (subject : String)
  | invalidAddress (cause : String)
  | notConfigured
  | alreadyConfigured
  | vault (failure : Vault.Failure)

namespace Failure

/-- The sentence for a failure. -/
def message : Failure → String
  | .missingAddress =>
    "Vault address is not set. Set the `address` attribute or the VAULT_ADDR environment variable."
  | .missingToken =>
    "Vault token is not set. Set the `token` attribute or the VAULT_TOKEN environment variable."
  | .unknownValue subject =>
    "The `" ++ subject ++ "` attribute depends on a value that is not known yet. Set it statically or use "
      ++ "-target to apply its dependencies first."
  | .invalidAddress cause => cause
  | .notConfigured => "The provider has not been configured with a Vault client."
  | .alreadyConfigured => "The provider was already configured in this process."
  | .vault failure => failure.message

/-- The title of a failure. -/
def summary : Failure → String
  | .missingAddress | .invalidAddress _ => "Invalid Vault address"
  | .missingToken => "Missing Vault token"
  | .unknownValue _ => "Unknown provider configuration value"
  | .notConfigured => "Provider not configured"
  | .alreadyConfigured => "Provider already configured"
  | .vault (.authenticationFailed _) | .vault (.permissionDenied _) => "Vault authentication failed"
  | .vault _ => "Unable to create Vault client"

/-- The attribute that a failure points at. -/
def subject? : Failure → Option String
  | .missingAddress | .invalidAddress _ => some "address"
  | .missingToken | .vault (.authenticationFailed _) => some "token"
  | .unknownValue subject => some subject
  | _ => none

/-- The diagnostic of a failure under a title. -/
def reportAs (summary : String) (failure : Failure) : Diagnostic :=
  ⟨summary, failure.message, failure.subject?⟩

/-- The diagnostic of a failure under its own title. -/
def report (failure : Failure) : Diagnostic := failure.reportAs failure.summary

end Failure

end SecretSource.Provider
