/-
**Calls through one session that go on at the same time.**

Configuring and reading go through stages, and between two stages of one call any stages of other calls may be
taken. What the calls share is the slot of their session: configuring writes it in its last stage only, and
reading looks at it in its second stage only.

* `Stage.advance` takes the next stage of one call, `Traffic.advance` that of one of many.
* `Traffic.after` is what a schedule makes of calls that have just begun: a schedule says whose turn it is.
-/

import SecretSource.Provider.Run

namespace SecretSource.Provider

open SecretSource.Http (Delivery)
open SecretSource.Vault (SecretRequest)

/-- A call that configures a clone of the provider. -/
structure ConfigureCall where
  environment : Environment
  config : Config
  lookup : Delivery
  diagnostics : Diagnostics := {}

/-- A call that reads a state. -/
structure ReadCall where
  state : SecretState
  delivery : Delivery
  diagnostics : Diagnostics := {}

/-- A call through a session. -/
inductive Call where
  | configure (call : ConfigureCall)
  | read (call : ReadCall)

/-- How far a call has come. Configuring has a client ready, then has verified its token, and ends; reading has a
request ready, then has fetched the reader of the session, and ends. -/
inductive Stage where
  | called (call : Call)
  | prepared (call : ConfigureCall) (client : Vault.Client)
  | verified (call : ConfigureCall) (client : Vault.Client) (sent : List Http.Request)
  | configured (returned : Bool) (diagnostics : Diagnostics) (sent : List Http.Request)
  | requested (call : ReadCall) (request : SecretRequest)
  | fetched (call : ReadCall) (request : SecretRequest) (reader : SecretReader)
  | answered (outcome : ReadOutcome)

/-- The end of configuring that fails. -/
def ConfigureCall.failed (call : ConfigureCall) (failure : Failure) (sent : List Http.Request) : Stage :=
  .configured false (call.diagnostics.add failure.report) sent

/-- The end of reading through a reader that was fetched. -/
def ReadCall.ended (call : ReadCall) (request : SecretRequest) (reader : SecretReader) : Stage :=
  let reading := reader.read request call.delivery
  match reading.result with
  | .ok secret =>
    .answered {
      state := some (call.state.withSecret secret)
      diagnostics := call.diagnostics
      sent := reading.sent
      asked := reading.asked }
  | .error failure =>
    .answered {
      state := none
      diagnostics := call.diagnostics.add ⟨"Failed to read secret", failure.message, none⟩
      sent := reading.sent
      asked := reading.asked }

namespace Stage

/-- Takes the next stage of a call, with what the slot holds at this moment. Writing an empty slot is one step
with seeing that it is empty. -/
def advance (slot : Slot) : Stage → Slot × Stage
  | .called (.configure call) =>
    match prepare call.environment call.config with
    | .error failure => (slot, call.failed failure [])
    | .ok client => (slot, .prepared call client)
  | .prepared call client =>
    let look := verify client call.lookup
    match look.result with
    | .error failure => (slot, call.failed failure look.sent)
    | .ok _ => (slot, .verified call client look.sent)
  | .verified call client sent =>
    match slot.install (.client client) with
    | .error failure => (slot, call.failed failure sent)
    | .ok slot => (slot, .configured true call.diagnostics sent)
  | .called (.read call) =>
    match buildRequest call.state with
    | .error errors => (slot, .answered { state := none, diagnostics := call.diagnostics.addAll errors })
    | .ok request => (slot, .requested call request)
  | .requested call request =>
    match slot.reader with
    | .error failure =>
      (slot, .answered { state := none, diagnostics := call.diagnostics.add failure.report })
    | .ok reader => (slot, .fetched call request reader)
  | .fetched call request reader => (slot, call.ended request reader)
  | .configured returned diagnostics sent => (slot, .configured returned diagnostics sent)
  | .answered outcome => (slot, .answered outcome)

/-- How many stages of a call are left at most. -/
def stagesLeft : Stage → Nat
  | .called _ => 3
  | .prepared _ _ | .requested _ _ => 2
  | .verified _ _ _ | .fetched _ _ _ => 1
  | .configured _ _ _ | .answered _ => 0

end Stage

/-- Calls through one session: its slot, and how far the call of each caller has come. -/
structure Traffic (ι : Type) where
  slot : Slot := none
  stages : ι → Stage

namespace Traffic

variable {ι : Type}

/-- Calls that have just begun, through a session with an empty slot. -/
def start (calls : ι → Call) : Traffic ι where
  stages caller := .called (calls caller)

variable [DecidableEq ι]

/-- Takes the next stage of the call of one caller. -/
def advance (traffic : Traffic ι) (caller : ι) : Traffic ι :=
  let (slot, stage) := (traffic.stages caller).advance traffic.slot
  { slot, stages := fun other => if other = caller then stage else traffic.stages other }

/-- What a schedule makes of calls that have just begun. -/
def after (calls : ι → Call) (schedule : List ι) : Traffic ι := schedule.foldl advance (start calls)

end Traffic

end SecretSource.Provider
