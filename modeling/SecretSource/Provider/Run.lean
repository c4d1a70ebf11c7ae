/-
**The provider and whole runs of it.**

Configuring goes through four stages, and the first that fails ends it: the block is resolved, a client is
built, the client looks at its token, and the client is put into the slot. A run is a list of steps on one
provider; every step gives an answer.
-/

import SecretSource.Provider.Config
import SecretSource.Provider.DataSource
import SecretSource.Provider.Schema

namespace SecretSource.Provider

open SecretSource.Http (Delivery Exchange)
open SecretSource.Text

/-- An instance of the provider: the version of its build, the environment it looks into, and its session. -/
structure Instance where
  version : String
  environment : Environment
  slot : Slot := none

/-- Resolves a block and builds the client for it. -/
def prepare (environment : Environment) (config : Config) : Except Failure Vault.Client := do
  let resolved ← config.resolve environment
  (Vault.Client.make resolved).mapError .vault

/-- Lets a client look at its token. -/
def verify (client : Vault.Client) (delivery : Delivery) : Exchange Failure Vault.TokenInfo :=
  let exchange := client.lookupSelf delivery
  { sent := exchange.sent, result := exchange.result.mapError .vault }

/-- Fills the slot with the client of a block. -/
def connect (provider : Instance) (config : Config) (delivery : Delivery) : Exchange Failure Slot :=
  match prepare provider.environment config with
  | .error failure => { sent := [], result := .error failure }
  | .ok client =>
    let look := verify client delivery
    { sent := look.sent
      result := do
        let _ ← look.result
        provider.slot.install (.client client) }

/-- What comes of configuring: whether it is done, and what was sent. -/
structure ConfigureOutcome where
  returned : Bool
  provider : Instance
  diagnostics : Diagnostics
  sent : List Http.Request

/-- Configures a provider. -/
def configure (provider : Instance) (config : Config) (delivery : Delivery)
    (diagnostics : Diagnostics) : ConfigureOutcome :=
  let connection := connect provider config delivery
  match connection.result with
  | .ok slot => {
      returned := true
      provider := { provider with slot }
      diagnostics
      sent := connection.sent }
  | .error failure => {
      returned := false
      provider
      diagnostics := diagnostics.add failure.report
      sent := connection.sent }

/-- Validates the provider block. -/
def validateConfig (config : Config) (diagnostics : Diagnostics) : Diagnostics :=
  diagnostics.addAll (config.checkKnown.map Failure.report)

/-- The provider as a log line shows it. -/
def Instance.logText (provider : Instance) : String :=
  Log.partialRecord "VaultProvider" [
    ("version", quoted provider.version),
    ("session", provider.slot.logText)]

/-- A step of a run. -/
inductive Step where
  | status
  | schema
  | validateProvider (config : Config)
  | configure (config : Config) (delivery : Delivery)
  | install (reader : SecretReader)
  | validate (state : SecretState)
  | read (state : SecretState) (delivery : Delivery)

/-- The answer to a step. -/
inductive Answer where
  | status (isConfigured : Bool) (version : String) (reader : Except Failure Unit)
      (logText sourceLogText : String)
  | schema (provider secret : Schema) (sources : List String) (diagnostics : Diagnostics)
  | validated (diagnostics : Diagnostics)
  | configured (returned : Bool) (diagnostics : Diagnostics) (sent : List Http.Request)
      (isConfigured : Bool)
  | installed (result : Except Failure Unit)
  | read (outcome : ReadOutcome)

/-- Takes a step. -/
def step (provider : Instance) : Step → Instance × Answer
  | .status =>
    (provider, .status provider.slot.isSome provider.version (provider.slot.reader.map fun _ => ())
      provider.logText (sourceLogText provider.slot))
  | .schema => (provider, .schema providerSchema secretSchema dataSources {})
  | .validateProvider config => (provider, .validated (validateConfig config {}))
  | .configure config delivery =>
    let outcome := configure provider config delivery {}
    (outcome.provider,
      .configured outcome.returned outcome.diagnostics outcome.sent outcome.provider.slot.isSome)
  | .install reader =>
    match provider.slot.install reader with
    | .ok slot => ({ provider with slot }, .installed (.ok ()))
    | .error failure => (provider, .installed (.error failure))
  | .validate state => (provider, .validated (validateState state {}))
  | .read state delivery => (provider, .read (readState provider.slot state delivery {}))

/-- Takes steps one after the other and gives their answers. -/
def run (provider : Instance) : List Step → Instance × List Answer
  | [] => (provider, [])
  | next :: rest =>
    let (provider, answer) := step provider next
    let (provider, answers) := run provider rest
    (provider, answer :: answers)

end SecretSource.Provider
