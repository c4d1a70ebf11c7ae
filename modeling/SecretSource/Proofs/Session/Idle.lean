/-
**Steps that fill no slot leave no trace.**

A step is idle if it neither configures nor installs, or fails to. An idle step leaves its process as it is, so
nothing that comes behind it can tell whether it was taken: if idle steps are left out of a run, all others are
answered as before. Reads are idle, so they may change places and are repeated with the same answer.

* `Process.records`, `Process.flatten_records`: what is recorded of a run, act by act, and that it is all of it.
* `Process.act_of_isIdleStep`: an idle step changes nothing.
* `records_without`: a run without some of its idle steps.
* `session_idleSteps_leaveNoTrace`: what follows for whole runs.
-/

import SecretSource.Proofs.Session.Sending

namespace SecretSource.Provider

open SecretSource.Http (Delivery)

/-! ### Idle steps -/

/-- Whether a step is idle: it neither configures nor installs, or it fails to. -/
def Entry.isIdle (entry : Entry) : Bool :=
  match entry.next with
  | .configure _ _ | .install _ => ! entry.answer.isFilling
  | _ => true

/-- Whether what is recorded of an act is one idle step. -/
def isIdleStep : List Entry → Bool
  | [entry] => entry.isIdle
  | _ => false

/-- Only configuring and installing bring a reader. -/
theorem Entry.isIdle_of_brings {entry : Entry} {environment : Environment} {reader : SecretReader}
    (brings : entry.next.reader? environment = some reader) :
    entry.isIdle = ! entry.answer.isFilling := by
  unfold Entry.isIdle
  cases next : entry.next with
  | configure config delivery => rfl
  | install brought => rfl
  | _ =>
    rw [next] at brings
    cases brings

namespace Process

/-- What is recorded of every act of a run. -/
def records (process : Process) : List Act → List (List Entry)
  | [] => []
  | first :: rest => (process.act first).2 :: (process.act first).1.records rest

/-- The acts of a run together are recorded as the run is. -/
theorem flatten_records (process : Process) (acts : List Act) :
    (process.records acts).flatten = (process.perform acts).2 := by
  induction acts generalizing process with
  | nil => rfl
  | cons first rest ih =>
    rw [records, List.flatten_cons, ih]
    rfl

theorem records_append (process : Process) (first second : List Act) :
    process.records (first ++ second) =
      process.records first ++ (process.perform first).1.records second := by
  induction first generalizing process with
  | nil => rfl
  | cons head rest ih =>
    rw [List.cons_append, records, ih]
    rfl

/-- **An idle step changes nothing.** -/
theorem act_of_isIdleStep {process : Process} {next : Act}
    (idle : isIdleStep (process.act next).2 = true) : (process.act next).1 = process := by
  cases next with
  | openSession => cases idle
  | surround environment => cases idle
  | clone holder =>
    simp only [act] at idle
    split at idle <;> cases idle
  | take holder next =>
    simp only [act] at idle ⊢
    cases found : process.holders[holder]? with
    | none => rfl
    | some session =>
      rw [found] at idle
      rcases process.take_cases session next with ⟨-, same⟩ | ⟨filling, -, reader, brought, -⟩
      · exact same
      · -- A step that fills a slot brings a reader, and is not idle.
        have isIdle : (process.record session next).isIdle = true := idle
        have notFilling : (process.record session next).isIdle =
            ! (process.record session next).answer.isFilling := Entry.isIdle_of_brings brought
        have isFilling : (process.record session next).answer.isFilling = true := filling
        rw [notFilling, isFilling] at isIdle
        cases isIdle

/-- Nor do idle steps one after the other. -/
theorem perform_of_isIdleStep {process : Process} {acts : List Act}
    (idle : ∀ taken ∈ process.records acts, isIdleStep taken = true) :
    (process.perform acts).1 = process := by
  induction acts with
  | nil => rfl
  | cons first rest ih =>
    have same : (process.act first).1 = process :=
      act_of_isIdleStep (idle _ List.mem_cons_self)
    have others : ∀ taken ∈ process.records rest, isIdleStep taken = true := by
      intro taken member
      refine idle taken (List.mem_cons_of_mem _ ?_)
      rw [same]
      exact member
    show ((process.act first).1.perform rest).1 = process
    rw [same]
    exact ih others

/-- A read changes nothing, whoever takes it. -/
theorem act_read (process : Process) (holder : Nat) (state : SecretState) (delivery : Delivery) :
    (process.act (.take holder (.read state delivery))).1 = process := by
  simp only [act]
  cases process.holders[holder]? with
  | none => rfl
  | some session => exact process.withSlot_slot session

end Process

/-! ### Leaving steps out -/

/-- A list without what stands at some positions, counted from zero. -/
def without {α : Type} (gone : Nat → Bool) : List α → List α
  | [] => []
  | first :: rest =>
    let others := without (fun position => gone (position + 1)) rest
    if gone 0 then others else first :: others

/-- A run without some of its idle steps is recorded as it was, without these steps, and ends as it did. -/
theorem records_without {process : Process} {acts : List Act} {gone : Nat → Bool}
    (idle : ∀ position, gone position = true →
      ((process.records acts)[position]?).all isIdleStep = true) :
    process.records (without gone acts) = without gone (process.records acts) ∧
      (process.perform (without gone acts)).1 = (process.perform acts).1 := by
  induction acts generalizing process gone with
  | nil => exact ⟨rfl, rfl⟩
  | cons first rest ih =>
    have later := @ih (process.act first).1 (fun position => gone (position + 1)) fun position isGone =>
      idle (position + 1) isGone
    simp only [without, Process.records]
    by_cases isGone : gone 0 = true
    · have same : (process.act first).1 = process := Process.act_of_isIdleStep (idle 0 isGone)
      rw [if_pos isGone, if_pos isGone]
      refine ⟨?_, ?_⟩
      · rw [same] at later ⊢
        exact later.1
      · show _ = ((process.act first).1.perform rest).1
        rw [same] at later ⊢
        exact later.2
    · rw [if_neg isGone, if_neg isGone]
      exact ⟨congrArg (_ :: ·) later.1, later.2⟩

/-- **Only a step that fills a slot matters to the rest of a run.** Leave out any idle steps of a run: every
other step is answered as before, nothing else is recorded, and the run ends as before. Two reads next to each
other, each with its own reply, are answered alike in either order, and so is everything around them. A read
with the same reply is answered in the same way again, if only idle steps are taken in between. -/
theorem session_idleSteps_leaveNoTrace (process : Process) :
    (∀ (acts : List Act) (gone : Nat → Bool),
      (∀ position, gone position = true →
        ((process.records acts)[position]?).all isIdleStep = true) →
      process.records (without gone acts) = without gone (process.records acts) ∧
        process.perform (without gone acts) =
          ((process.perform acts).1, (without gone (process.records acts)).flatten)) ∧
    (∀ (earlier later : List Act) (holder holder' : Nat) (state state' : SecretState)
        (delivery delivery' : Delivery),
      let before := (process.perform earlier).1
      let reading := Act.take holder (.read state delivery)
      let other := Act.take holder' (.read state' delivery')
      process.records (earlier ++ reading :: other :: later) =
          process.records earlier ++ (before.act reading).2 :: (before.act other).2 :: before.records later ∧
        process.records (earlier ++ other :: reading :: later) =
          process.records earlier ++ (before.act other).2 :: (before.act reading).2 :: before.records later) ∧
    ∀ (earlier between : List Act) (holder : Nat) (state : SecretState) (delivery : Delivery),
      let before := (process.perform earlier).1
      let reading := Act.take holder (.read state delivery)
      (∀ taken ∈ before.records between, isIdleStep taken = true) →
      process.records (earlier ++ reading :: (between ++ [reading])) =
        process.records earlier ++ (before.act reading).2 :: (before.records between ++ [(before.act reading).2]) := by
  refine ⟨fun acts gone idle => ?_, ?_, ?_⟩
  · obtain ⟨recorded, ends⟩ := records_without idle
    rw [← recorded, Process.flatten_records]
    exact ⟨rfl, Prod.ext ends rfl⟩
  · intro earlier later holder holder' state state' delivery delivery' before reading other
    have same : (before.act reading).1 = before := before.act_read holder state delivery
    have same' : (before.act other).1 = before := before.act_read holder' state' delivery'
    constructor
    · rw [Process.records_append, Process.records, Process.records, same, same']
    · rw [Process.records_append, Process.records, Process.records, same', same]
  · intro earlier between holder state delivery before reading idle
    have same : (before.act reading).1 = before := before.act_read holder state delivery
    rw [Process.records_append, Process.records, same, Process.records_append,
      Process.perform_of_isIdleStep idle]
    rfl

/-- A block without an address, a read that comes too early, and a block and a reader that come too late are left
out. The second block had let its client look at its token before it was refused. -/
theorem session_idleSteps_leaveNoTrace_refused :
    let process := Process.start "0.1.0" fun _ => none
    let reading : Act := .take 1 (.read (.ofNames "kv" "n") .dropped)
    let chosen : Act := .take 0 (.configure (.ofTexts "https://[::1]:8200" "t" none) acceptance)
    let acts : List Act := [.take 0 (.configure {} acceptance), .clone 0, reading, chosen,
      .take 1 (.configure (.ofTexts "https://[::2]:8200" "u" none) acceptance),
      .take 1 (.install (.custom fun _ => .error .rateLimited)), reading]
    let gone : Nat → Bool := fun position => [0, 2, 4, 5].contains position
    (∀ position, gone position = true → ((process.records acts)[position]?).all isIdleStep = true) ∧
    (process.records acts).map (fun taken => taken.map fun entry => entry.answer.sent.length) =
      [[0], [], [0], [1], [1], [0], [1]] ∧
    without gone acts = [.clone 0, chosen, reading] ∧
    process.records [.clone 0, chosen, reading] = without gone (process.records acts) ∧
    process.perform [.clone 0, chosen, reading] =
      ((process.perform acts).1, (without gone (process.records acts)).flatten) := by
  intro process reading chosen acts gone
  have idle : ∀ position, gone position = true →
      ((process.records acts)[position]?).all isIdleStep = true := by
    intro position isGone
    have among : position = 0 ∨ position = 2 ∨ position = 4 ∨ position = 5 := by
      simpa [gone] using isGone
    rcases among with rfl | rfl | rfl | rfl <;> decide +kernel
  exact ⟨idle, by decide +kernel, rfl, (session_idleSteps_leaveNoTrace process).1 acts gone idle⟩

end SecretSource.Provider
