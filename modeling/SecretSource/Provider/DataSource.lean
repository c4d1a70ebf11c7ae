/-
**The data source for secrets.**

`validateState` looks at what is known before anything is read. `buildRequest` needs mount and name, and a
version above zero if there is one; `readState` then asks the reader of the session, every time anew.

* `buildRequest_error_ne_nil`: a state from which no request can be built has something wrong with it.
-/

import SecretSource.Provider.Diagnostics
import SecretSource.Provider.Session
import SecretSource.Provider.State

namespace SecretSource.Provider

open SecretSource.Http (Delivery)
open SecretSource.Text
open SecretSource.Vault (SecretRequest)

/-- A name of an attribute as messages show it. -/
def ticked (subject : String) : String := "`" ++ subject ++ "`"

/-- The error of a version that is not above zero. -/
def versionError (version : Int) : Diagnostic where
  summary := "Invalid secret version"
  detail := "`version` must be a positive integer, got " ++ toString version
  subject := some "version"

/-- The text of an attribute that a read needs; slashes alone are no text. -/
def required (subject : String) (value : Attribute String) : Except Diagnostic String :=
  let missing : Diagnostic :=
    ⟨"Missing " ++ ticked subject, ticked subject ++ " must be a non-empty string", some subject⟩
  match value with
  | .known text => if trimSlashes text = "" then .error missing else .ok text
  | .null => .error missing
  | .unknown =>
    .error ⟨"Unknown " ++ ticked subject,
      ticked subject ++ " must be known before the secret can be read", some subject⟩

/-- The version that is asked for, if one is. -/
def requestedVersion (version : Attribute Int) : Except Diagnostic (Option Nat) :=
  match version with
  | .known number => if 0 < number then .ok (some number.toNat) else .error (versionError number)
  | _ => .ok none

/-- The request for the secret of a state, or what is wrong with the state. -/
def buildRequest (state : SecretState) : Except (List Diagnostic) SecretRequest :=
  match required "mount" state.mount, required "name" state.name with
  | .error first, .error second => .error [first, second]
  | .error first, .ok _ => .error [first]
  | .ok _, .error second => .error [second]
  | .ok mount, .ok name =>
    match requestedVersion state.version with
    | .error problem => .error [problem]
    | .ok version =>
      .ok {
        mount
        name
        namespaceName := state.namespaceName.value?.filter (· ≠ "")
        version }

/-- What is wrong with a known text that may not be empty. -/
def emptyErrors (subject : String) (value : Attribute String) : List Diagnostic :=
  match value with
  | .known text =>
    if trimSlashes text = "" then [⟨ticked subject ++ " must not be empty", "", some subject⟩] else []
  | _ => []

/-- What is wrong with the known attributes of a state. -/
def stateErrors (state : SecretState) : List Diagnostic :=
  emptyErrors "mount" state.mount ++ emptyErrors "name" state.name
    ++ match state.version with
      | .known number => if number ≤ 0 then [versionError number] else []
      | _ => []

/-- Validates a state. -/
def validateState (state : SecretState) (diagnostics : Diagnostics) : Diagnostics :=
  diagnostics.addAll (stateErrors state)

/-- What comes of a read. -/
structure ReadOutcome where
  state : Option SecretState
  diagnostics : Diagnostics
  sent : List Http.Request := []
  asked : List SecretRequest := []

/-- Reads the secret of a state. -/
def readState (slot : Slot) (state : SecretState) (delivery : Delivery) (diagnostics : Diagnostics) :
    ReadOutcome :=
  match buildRequest state with
  | .error errors => { state := none, diagnostics := diagnostics.addAll errors }
  | .ok request =>
    match slot.reader with
    | .error failure => { state := none, diagnostics := diagnostics.add failure.report }
    | .ok reader =>
      let reading := reader.read request delivery
      match reading.result with
      | .ok secret => {
          state := some (state.withSecret secret)
          diagnostics
          sent := reading.sent
          asked := reading.asked }
      | .error failure => {
          state := none
          diagnostics := diagnostics.add ⟨"Failed to read secret", failure.message, none⟩
          sent := reading.sent
          asked := reading.asked }

/-- A state from which no request can be built has at least one thing wrong with it. -/
theorem buildRequest_error_ne_nil {state : SecretState} {errors : List Diagnostic}
    (failed : buildRequest state = .error errors) : errors ≠ [] := by
  unfold buildRequest at failed
  split at failed
  · cases failed
    simp
  · cases failed
    simp
  · cases failed
    simp
  · split at failed
    · cases failed
      simp
    · cases failed

/-- The data source as a log line shows it. -/
def sourceLogText (slot : Slot) : String :=
  Log.record "KvSecretDataSource" [("session", slot.logText)]

end SecretSource.Provider
