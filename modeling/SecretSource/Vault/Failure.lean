/-
**Failures of a vault client.**

Every failure has a sentence of its own; a failure of the platform keeps its sentence.
-/

import SecretSource.Failure

namespace SecretSource.Vault

/-- Why a call to the vault fails. -/
inductive Failure where
  | unavailable (cause : String)
  | authenticationFailed (cause : String)
  | secretNotFound (path : String)
  | decoding (fault : Json.Fault)
  | http (cause : String)
  | invalidConfig (cause : String)
  | permissionDenied (cause : String)
  | rateLimited
  | platform (failure : SecretSource.Failure)

/-- The sentence for a failure. -/
def Failure.message : Failure → String
  | .unavailable cause => "Vault unavailable: " ++ cause
  | .authenticationFailed cause => "Authentication failed: " ++ cause
  | .secretNotFound path => "Secret not found at path: " ++ path
  | .decoding fault => "Serialization error: " ++ fault.message
  | .http cause => "HTTP error: " ++ cause
  | .invalidConfig cause => "Invalid configuration: " ++ cause
  | .permissionDenied cause => "Permission denied: " ++ cause
  | .rateLimited => "Rate limited"
  | .platform failure => failure.message

end SecretSource.Vault
