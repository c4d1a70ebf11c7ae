/-
**Failures that all parts share.**

What can go wrong below the level of secrets: a request that fails on its way, a text that cannot be
read, an input that is refused, and trouble inside.
-/

import SecretSource.Json.Problem

namespace SecretSource

/-- A failure of the platform. -/
inductive Failure where
  | http (cause : String)
  | decoding (fault : Json.Fault)
  | invalidInput (cause : String)
  | internal (cause : String)

/-- The sentence for a failure. -/
def Failure.message : Failure → String
  | .http cause => "HTTP request failed: " ++ cause
  | .decoding fault => "Serialization error: " ++ fault.message
  | .invalidInput cause => "Invalid input: " ++ cause
  | .internal cause => "Internal error: " ++ cause

end SecretSource
