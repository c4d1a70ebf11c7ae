/-
**A client of a vault.**

A client reads secrets and looks at its own token. It is built from a configuration that it checks first,
and composes the address of every request from its base address, segment by segment.

* `Client.make` builds a client, `Client.read` and `Client.lookupSelf` are its calls.
-/

import SecretSource.Http.Exchange
import SecretSource.Http.Status
import SecretSource.Vault.Config
import SecretSource.Vault.Request
import SecretSource.Vault.Secret

namespace SecretSource.Vault

open SecretSource.Http (Delivery Exchange Reply)
open SecretSource.Url (Address Target)

/-- A client: its configuration, its base address, and how it sends requests. -/
structure Client where
  config : Config
  base : Address
  settings : Http.Settings

/-- The explanation in the body of a failed request: the errors it lists, or else its text. -/
def explanation (body : String) : String :=
  let errors := match ErrorBody.ofText body with
    | .ok parsed => parsed.errors
    | .error _ => []
  if ! errors.isEmpty then String.intercalate "; " errors
  else if Unicode.isBlankText body then "no error detail"
  else Unicode.trimBlank body

/-- The body of a reply that tells of success, or else the failure that its status means. -/
def successBody (path : String) (status : Nat) (body : String) : Except Failure String :=
  if Http.isSuccess status then .ok body
  else
    match status with
    | 404 => .error (.secretNotFound path)
    | 401 | 403 => .error (.permissionDenied (path ++ ": " ++ explanation body))
    | 429 => .error .rateLimited
    | _ =>
      .error (.unavailable ("Status " ++ Http.statusText status ++ ": " ++ explanation body))

/-- The secret in the body of a reply that says that there is none: a version that was deleted or
destroyed is told of in this way. -/
def removedVersion (path body : String) : Option Secret :=
  match SecretBody.ofText body with
  | .ok parsed =>
    let metadata := parsed.data.metadata
    if metadata.deletionTime.isSome || metadata.destroyed then
      some (Secret.ofPayload path parsed.data)
    else none
  | .error _ => none

/-- The secret that a reply to a read tells of. -/
def secretOfReply (path : String) (status : Nat) (body : String) : Except Failure Secret :=
  let regular : Except Failure Secret := do
    let body ← successBody path status body
    let parsed ← (SecretBody.ofText body).mapError .decoding
    .ok (Secret.ofPayload path parsed.data)
  if status = 404 then
    match removedVersion path body with
    | some secret => .ok secret
    | none => regular
  else regular

/-- The path of the look at the token itself. -/
def lookupPath : List String := ["auth", "token", "lookup-self"]

/-- The token that a reply to a look at it tells of; who may not look has a wrong token. -/
def tokenOfReply (status : Nat) (body : String) : Except Failure TokenInfo :=
  match successBody (String.intercalate "/" lookupPath) status body with
  | .error (.permissionDenied cause) => .error (.authenticationFailed cause)
  | .error failure => .error failure
  | .ok body => ((TokenBody.ofText body).mapError .decoding).map (·.data)

namespace Client

/-- Builds a client. -/
def make (config : Config) : Except Failure Client := do
  config.check
  let settings : Http.Settings := { timeout := config.timeout }
  match Target.read config.baseUrl with
  | .error fault =>
    .error (.invalidConfig ("address " ++ config.address ++ ": " ++ fault.message))
  | .ok (.other _) =>
    .error (.invalidConfig ("address " ++ config.address ++ " cannot carry a path"))
  | .ok (.web base) => do
    settings.check.mapError .platform
    .ok { config, base, settings }

/-- The base address with the version of the interface and some segments behind its path. -/
def address (client : Client) (segments : List (List Char)) : Address :=
  { client.base with
    path := ((client.base.path.withoutEnd).push "v1".toList).extend segments }

/-- The headers that only the vault reads. -/
def headers (client : Client) (namespaceName : Option String) : List (String × String) :=
  ("x-vault-token", client.config.token)
    :: match namespaceName <|> client.config.namespaceName with
      | some name => [("x-vault-namespace", name)]
      | none => []

/-- Sends a request and reads status and body of its reply. -/
def send (client : Client) (address : Address) (namespaceName : Option String) (delivery : Delivery) :
    Exchange Failure (Nat × String) :=
  let exchange := Http.exchange client.settings address (client.headers namespaceName) delivery
  { sent := exchange.sent
    result := match exchange.result with
      | .error obstacle =>
        .error (.unavailable (client.config.baseUrl ++ ": " ++ obstacle.message))
      | .ok reply =>
        match reply.text? with
        | none => .error (.http "error decoding response body")
        | some body => .ok (reply.status, body) }

/-- The address under which a secret is read. -/
def secretAddress (client : Client) (request : SecretRequest) : Address :=
  let address := client.address request.segments
  match request.version with
  | some version => address.withPair "version".toList (Nat.toDigits 10 version)
  | none => address

/-- Reads a secret. -/
def read (client : Client) (request : SecretRequest) (delivery : Delivery) :
    Exchange Failure Secret :=
  let exchange := client.send (client.secretAddress request) request.namespaceName delivery
  { sent := exchange.sent
    result := do
      let (status, body) ← exchange.result
      secretOfReply request.path status body }

/-- Looks at the token. -/
def lookupSelf (client : Client) (delivery : Delivery) : Exchange Failure TokenInfo :=
  let exchange := client.send (client.address (lookupPath.map String.toList)) none delivery
  { sent := exchange.sent
    result := do
      let (status, body) ← exchange.result
      tokenOfReply status body }

/-- The client as a log line shows it; how its address and its sender are written is left to these. -/
def logText (writeAddress : Address → String) (writeSettings : Http.Settings → String)
    (client : Client) : String :=
  Text.Log.record "VaultClient" [
    ("config", client.config.logText),
    ("base", writeAddress client.base),
    ("http", writeSettings client.settings)]

end Client

end SecretSource.Vault
