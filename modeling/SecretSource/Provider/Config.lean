/-
**The provider block and what it resolves to.**

Null attributes are taken from the environment; known ones never are, and unknown ones cannot be resolved.
`checkKnown` is the check of what is known before anything is resolved, `resolve` gives the configuration of
a client or the first problem.
-/

import SecretSource.Provider.Attribute
import SecretSource.Provider.Failure
import SecretSource.Vault.Config

namespace SecretSource.Provider

open SecretSource.Json
open SecretSource.Text

/-- The attributes of the provider block. -/
structure Config where
  address : Attribute String := .null
  token : Attribute String := .null
  namespaceName : Attribute String := .null
deriving DecidableEq, Repr

/-- What the environment holds under a name. -/
abbrev Environment := String → Option String

/-- The failure that a refused address is. -/
def addressFailure : Vault.Failure → Failure
  | .invalidConfig cause => .invalidAddress cause
  | failure => .vault failure

/-- The text of an attribute, or of the environment if it is null; a blank text counts as none. -/
def resolveAttribute (value : Attribute String) (subject variableName : String)
    (environment : Environment) : Except Failure (Option String) :=
  match value with
  | .unknown => .error (.unknownValue subject)
  | .known text => .ok (some text |>.filter (! Unicode.isBlankText ·))
  | .null => .ok (environment variableName |>.filter (! Unicode.isBlankText ·))

namespace Config

/-- A block in which everything is known. -/
def ofTexts (address token : String) (namespaceName : Option String) : Config where
  address := .known address
  token := .known token
  namespaceName := .ofOption namespaceName

/-- What is wrong with the address, if it is known. -/
def addressProblem? (config : Config) : Option Failure :=
  match config.address with
  | .known text =>
    if Unicode.isBlankText text then some .missingAddress
    else
      match Vault.checkAddress text with
      | .ok () => none
      | .error failure => some (addressFailure failure)
  | _ => none

/-- What is wrong with the token, if it is known. -/
def tokenProblem? (config : Config) : Option Failure :=
  match config.token with
  | .known text => if Unicode.isBlankText text then some .missingToken else none
  | _ => none

/-- What is wrong with the known attributes. -/
def checkKnown (config : Config) : List Failure :=
  config.addressProblem?.toList ++ config.tokenProblem?.toList

/-- The configuration of a client, or the first problem. -/
def resolve (config : Config) (environment : Environment) : Except Failure Vault.Config := do
  match ← resolveAttribute config.address "address" "VAULT_ADDR" environment with
  | none => .error .missingAddress
  | some address =>
    match ← resolveAttribute config.token "token" "VAULT_TOKEN" environment with
    | none => .error .missingToken
    | some token =>
      let name ← resolveAttribute config.namespaceName "namespace" "VAULT_NAMESPACE" environment
      (Vault.checkAddress address).mapError addressFailure
      let resolved : Vault.Config := { address, token }
      match name with
      | some name => .ok (resolved.withNamespace name)
      | none => .ok resolved

/-- The block as a log line shows it. -/
def logText (config : Config) : String :=
  let token := match config.token with
    | .known _ => "[REDACTED]"
    | .null => "null"
    | .unknown => "unknown"
  Log.record "ProviderConfig" [
    ("address", config.address.logText quoted),
    ("token", quoted token),
    ("namespace", config.namespaceName.logText quoted)]

/-- The fields of a block that have been read. -/
structure Draft where
  address : Option (Attribute String) := none
  token : Option (Attribute String) := none
  namespaceName : Option (Attribute String) := none

/-- How a block is read from JSON. -/
def shape : Shape Draft Config where
  title := "ProviderConfig"
  fields := [
    .ofSlot "address" (·.address) (readAttribute readString)
      fun draft value => { draft with address := some value },
    .ofSlot "token" (·.token) (readAttribute readString)
      fun draft value => { draft with token := some value },
    .ofSlot "namespace" (·.namespaceName) (readAttribute readString)
      fun draft value => { draft with namespaceName := some value }]
  blank := {}
  finish draft :=
    match draft.address, draft.token, draft.namespaceName with
    | some address, some token, some namespaceName => .ok { address, token, namespaceName }
    | none, _, _ => .error 0
    | _, none, _ => .error 1
    | _, _, none => .error 2

/-- A block as JSON. -/
def toJson (config : Config) : Value :=
  .object [
    ("address", config.address.toJson .text),
    ("token", config.token.toJson .text),
    ("namespace", config.namespaceName.toJson .text)]

end Config

end SecretSource.Provider
