/-
**Which secret is asked for.**

A secret is named by the mount of its engine and its name there; slashes around either do not count.
-/

import SecretSource.Text.Log
import SecretSource.Text.Split

namespace SecretSource.Vault

open SecretSource.Text

/-- The path under which the engine at a mount keeps a secret. -/
def dataPath (mount name : String) : String :=
  trimSlashes mount ++ "/data/" ++ trimSlashes name

/-- A request for a secret: without a version the latest one, without a namespace that of the client. -/
structure SecretRequest where
  mount : String
  name : String
  namespaceName : Option String := none
  version : Option Nat := none
deriving DecidableEq, Repr

namespace SecretRequest

/-- The path of the secret. -/
def path (request : SecretRequest) : String := dataPath request.mount request.name

/-- The segments of the address of the secret, from the mount on. -/
def segments (request : SecretRequest) : List (List Char) :=
  pieces '/' (trimSlashes request.mount).toList ++ "data".toList
    :: pieces '/' (trimSlashes request.name).toList

/-- The request as a log line shows it. -/
def logText (request : SecretRequest) : String :=
  Log.record "KvSecretRequest" [
    ("mount", quoted request.mount),
    ("name", quoted request.name),
    ("namespace", Log.optional quoted request.namespaceName),
    ("version", Log.optional toString request.version)]

end SecretRequest

end SecretSource.Vault
