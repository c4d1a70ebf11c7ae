/-
**Settings of the sender of requests.**

Times are in nanoseconds. `Settings.check` refuses settings that no sender can be built from.
-/

import SecretSource.Failure
import SecretSource.Text.Log

namespace SecretSource.Http

open SecretSource.Text

/-- How requests are sent. -/
structure Settings where
  timeout : Nat := 30_000_000_000
  connectTimeout : Nat := 10_000_000_000
  maxIdlePerHost : Nat := 4
  userAgent : String := "terraform-provider-vault/0.1.0"
deriving DecidableEq, Repr

/-- Whether a text may be the value of a header: no controls but tabs. -/
def isHeaderValue (value : String) : Bool :=
  value.toList.all fun letter => letter == '\t' || (0x20 ≤ letter.toNat && letter.toNat != 0x7F)

namespace Settings

/-- Refuses settings without time, or with a name that no header can hold. -/
def check (settings : Settings) : Except Failure Unit :=
  if settings.timeout = 0 then .error (.invalidInput "request timeout must be non-zero")
  else if isHeaderValue settings.userAgent then .ok ()
  else .error (.invalidInput "user agent: failed to parse header value")

/-- The settings as a log line shows them. -/
def logText (settings : Settings) : String :=
  Log.record "HttpConfig" [
    ("timeout", Log.duration settings.timeout),
    ("connect_timeout", Log.duration settings.connectTimeout),
    ("max_idle_per_host", toString settings.maxIdlePerHost),
    ("user_agent", quoted settings.userAgent)]

end Settings

end SecretSource.Http
