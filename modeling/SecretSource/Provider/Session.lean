/-
**The session: a slot that is written once.**

Configuring the provider puts a reader of secrets into the slot; whoever holds the session reads through it
from then on.

* `install_eq_ok_iff`: a reader is installed exactly if the slot is empty.
-/

import SecretSource.Provider.Failure
import SecretSource.Vault.Client

namespace SecretSource.Provider

open SecretSource.Http (Delivery Exchange)
open SecretSource.Vault (SecretRequest Secret)

/-- A reader of secrets: a client of a vault, or any other source of secrets. -/
inductive SecretReader where
  | client (vault : Vault.Client)
  | custom (answer : SecretRequest → Except Vault.Failure Secret)

/-- What a reader gives: the secret, the requests that were sent for it, and the requests that a source other
than a vault was asked. -/
structure Reading where
  result : Except Vault.Failure Secret
  sent : List Http.Request := []
  asked : List SecretRequest := []

/-- Reads a secret. -/
def SecretReader.read (reader : SecretReader) (request : SecretRequest) (delivery : Delivery) :
    Reading :=
  match reader with
  | .client vault =>
    let exchange := vault.read request delivery
    { result := exchange.result, sent := exchange.sent }
  | .custom answer => { result := answer request, asked := [request] }

/-- The slot of a session. -/
abbrev Slot := Option SecretReader

namespace Slot

/-- Puts a reader into an empty slot. -/
def install (slot : Slot) (reader : SecretReader) : Except Failure Slot :=
  match slot with
  | none => .ok (some reader)
  | some _ => .error .alreadyConfigured

/-- The reader in a slot. -/
def reader (slot : Slot) : Except Failure SecretReader :=
  match slot with
  | some reader => .ok reader
  | none => .error .notConfigured

/-- A reader is installed exactly if the slot is empty. -/
theorem install_eq_ok_iff (slot after : Slot) (reader : SecretReader) :
    slot.install reader = .ok after ↔ slot = none ∧ after = some reader := by
  cases slot with
  | none => simp [install, eq_comm]
  | some present => simp [install]

/-- The slot as a log line shows it. -/
def logText (slot : Slot) : String :=
  Text.Log.record "ClientSession" [("configured", Text.Log.flag slot.isSome)]

end Slot

end SecretSource.Provider
