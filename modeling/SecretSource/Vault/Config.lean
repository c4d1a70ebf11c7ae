/-
**Configuration of a vault client.**

The token never shows in a log line. `Config.check` says whether a client can work with a configuration.

* `logText_withToken`: log lines of configurations that differ only in the token are equal.
-/

import SecretSource.Text.Log
import SecretSource.Unicode.Blank
import SecretSource.Url.Address
import SecretSource.Vault.Failure

namespace SecretSource.Vault

open SecretSource.Text

/-- Where the vault is and how it is asked; the time for a request is in nanoseconds. -/
structure Config where
  address : String
  token : String
  namespaceName : Option String := none
  timeout : Nat := 30_000_000_000
deriving DecidableEq, Repr

/-- Refuses an address that is not of the web. -/
def checkAddress (address : String) : Except Failure Unit :=
  match Url.Target.read address with
  | .error fault =>
    .error (.invalidConfig ("invalid address " ++ quoted address ++ ": " ++ fault.message))
  | .ok (.other scheme) =>
    .error (.invalidConfig ("unsupported scheme " ++ quoted (String.ofList scheme) ++ " in address "
      ++ quoted address ++ ", expected http or https"))
  | .ok (.web target) =>
    if target.host.written.isEmpty then
      .error (.invalidConfig ("address " ++ quoted address ++ " has no host"))
    else .ok ()

namespace Config

/-- The configuration with a namespace; a blank one counts as none. -/
def withNamespace (config : Config) (name : String) : Config :=
  { config with namespaceName := if Unicode.isBlankText name then none else some name }

/-- The address without slashes at its end. -/
def baseUrl (config : Config) : String :=
  String.ofList (trimEnd (· == '/') config.address.toList)

/-- Refuses a blank token and an address that is not of the web. -/
def check (config : Config) : Except Failure Unit :=
  if Unicode.isBlankText config.token then .error (.invalidConfig "token must not be empty")
  else checkAddress config.address

/-- The configuration as a log line shows it. -/
def logText (config : Config) : String :=
  Log.record "VaultConfig" [
    ("address", quoted config.address),
    ("token", "SecretBox<str>([REDACTED])"),
    ("namespace", Log.optional quoted config.namespaceName),
    ("timeout", Log.duration config.timeout)]

/-- Log lines of configurations that differ only in the token are equal. -/
theorem logText_withToken (config : Config) (token : String) :
    { config with token := token }.logText = config.logText := rfl

end Config

end SecretSource.Vault
