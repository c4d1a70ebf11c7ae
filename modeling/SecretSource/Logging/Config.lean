/-
**Configuration of logging.**

Logging is set up once in a process; setting it up again fails, and so does a filter that is not well formed.
-/

import SecretSource.Failure
import SecretSource.Logging.Filter
import SecretSource.Text.Log

namespace SecretSource.Logging

open SecretSource.Text

/-- How log lines are written. -/
inductive Format where
  | text
  | json
deriving DecidableEq, Repr

/-- The format that a flag chooses. -/
def Format.ofFlag (flag : Option String) : Format :=
  match flag.map Unicode.trimBlank with
  | some "1" | some "true" => .json
  | _ => .text

/-- How a format is named in log lines. -/
def Format.logText : Format → String
  | .text => "Text"
  | .json => "Json"

/-- How logging is set up. -/
structure Config where
  serviceName : String
  filter : String := "info"
  format : Format := .text
deriving DecidableEq, Repr

namespace Config

/-- Sets up logging; `isSetUp` says that this has been done before. -/
def setUp (config : Config) (isSetUp : Bool) : Except Failure Unit :=
  match checkFilter config.filter with
  | .error fault =>
    .error (.invalidInput ("log filter `" ++ config.filter ++ "`: " ++ fault.message))
  | .ok () =>
    if isSetUp then .error (.internal "a global default trace dispatcher has already been set")
    else .ok ()

/-- The configuration as a log line shows it. -/
def logText (config : Config) : String :=
  Log.record "TracingConfig" [
    ("service_name", quoted config.serviceName),
    ("default_directive", quoted config.filter),
    ("format", config.format.logText)]

end Config

end SecretSource.Logging
