/-
**Secrets.**

A secret is a table of texts with what is known about the version that was read. Values that are no texts
are kept as their compact JSON.
-/

import SecretSource.Vault.Payload

namespace SecretSource.Vault

open SecretSource.Json (Value)
open SecretSource.Time (Instant)

/-- What is known about a version of a secret. -/
structure VersionMetadata where
  version : Nat
  createdTime : Instant
  deletionTime : Option Instant
  destroyed : Bool
  customMetadata : Table String
deriving DecidableEq

/-- A secret: without values if the version was deleted or destroyed. -/
structure Secret where
  path : String
  data : Table String
  metadata : VersionMetadata
deriving DecidableEq

/-- A value as a secret keeps it. -/
def render : Value → String
  | .text value => value
  | value => value.toText

namespace Secret

/-- The secret that a payload holds. -/
def ofPayload (path : String) (payload : SecretPayload) : Secret where
  path := path
  data := (payload.values.getD ∅).map render
  metadata := {
    version := payload.metadata.version
    createdTime := payload.metadata.createdTime
    deletionTime := payload.metadata.deletionTime
    destroyed := payload.metadata.destroyed
    customMetadata := payload.metadata.customMetadata.getD ∅ }

end Secret

end SecretSource.Vault
