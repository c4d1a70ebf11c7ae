/-
**A process: sessions that share their slots.**

A session does not hold a slot but says where one lies in the memory of its process, so a clone shares the
slot of its original and a new session has one of its own. Whoever holds a session takes steps through it:
the provider, every data source that was handed a clone, and whoever else was.

* `Process.perform` carries out acts one after the other and records every step with its answer.
-/

import SecretSource.Provider.Run

namespace SecretSource.Provider

/-- A session: the place of its slot. -/
structure Session where
  place : Nat
deriving DecidableEq, Repr

/-- A process: the version of the build, the environment, the slots in its memory, and the sessions that
are held. -/
structure Process where
  version : String
  environment : Environment
  memory : List Slot
  holders : List Session

/-- What happens in a process; holders are counted from zero. -/
inductive Act where
  | openSession
  | clone (holder : Nat)
  | surround (environment : Environment)
  | take (holder : Nat) (next : Step)

/-- A step that was taken: through which session, in which environment, and with which answer. -/
structure Entry where
  session : Session
  environment : Environment
  next : Step
  answer : Answer

namespace Process

/-- A process in which nobody but its provider holds a session. -/
def start (version : String) (environment : Environment) : Process where
  version
  environment
  memory := [none]
  holders := [⟨0⟩]

/-- The slot of a session. -/
def slot (process : Process) (session : Session) : Slot :=
  process.memory.getD session.place none

/-- The process with something else in the slot of a session. -/
def withSlot (process : Process) (session : Session) (slot : Slot) : Process :=
  { process with memory := process.memory.set session.place slot }

/-- The provider as it is seen through a session. -/
def instanceAt (process : Process) (session : Session) : Instance where
  version := process.version
  environment := process.environment
  slot := process.slot session

/-- Opens a session with a slot of its own. -/
def openSession (process : Process) : Process :=
  { process with
    memory := process.memory ++ [none]
    holders := process.holders ++ [⟨process.memory.length⟩] }

/-- Hands a clone of a session on: it shares the slot. -/
def clone (process : Process) (session : Session) : Process :=
  { process with holders := process.holders ++ [session] }

/-- Takes a step through a session. -/
def take (process : Process) (session : Session) (next : Step) : Process × Answer :=
  let (provider, answer) := step (process.instanceAt session) next
  (process.withSlot session provider.slot, answer)

/-- What is recorded of a step that is taken through a session. -/
def record (process : Process) (session : Session) (next : Step) : Entry where
  session
  environment := process.environment
  next
  answer := (process.take session next).2

/-- Carries out an act, and gives the step that was taken in it. Who holds no session does nothing. -/
def act (process : Process) : Act → Process × List Entry
  | .openSession => (process.openSession, [])
  | .clone holder =>
    match process.holders[holder]? with
    | some session => (process.clone session, [])
    | none => (process, [])
  | .surround environment => ({ process with environment }, [])
  | .take holder next =>
    match process.holders[holder]? with
    | some session => ((process.take session next).1, [process.record session next])
    | none => (process, [])

/-- Carries out acts one after the other, and gives the steps that were taken. -/
def perform (process : Process) : List Act → Process × List Entry
  | [] => (process, [])
  | first :: rest =>
    let (process, taken) := process.act first
    let (process, others) := process.perform rest
    (process, taken ++ others)

end Process

end SecretSource.Provider
