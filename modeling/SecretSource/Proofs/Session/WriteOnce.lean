/-
**A session is written once, in every run of a process.**

Of all steps of a run that are taken through a session or a clone of it, at most one fills the slot. It
decides what everybody who shares the slot sees from then on.

* `Settled`: what the steps so far say about a slot.
* `Consistent.act`, `Consistent.perform`: one act and a whole run keep all slots settled.
* `Process.perform_take`: steps that are taken through one session are a run of the provider.
* `session_writtenOnce`: the session over whole runs.
-/

import SecretSource.Proofs.Session.Step
import SecretSource.Provider.Process

namespace SecretSource.Provider

/-- Whether a step filled the slot at a place. -/
def Entry.fills (place : Nat) (entry : Entry) : Bool :=
  entry.session.place == place && entry.answer.isFilling

/-- The steps that filled the slot at a place. -/
def fillings (place : Nat) (taken : List Entry) : List Entry :=
  taken.filter (·.fills place)

/-- A slot is empty if no step filled it, and otherwise holds the reader that the only step that did
brought. -/
def Settled (process : Process) (taken : List Entry) (session : Session) : Prop :=
  (fillings session.place taken = [] ∧ process.slot session = none) ∨
  ∃ entry reader, fillings session.place taken = [entry] ∧
    entry.next.reader? entry.environment = some reader ∧ process.slot session = some reader

/-- Every slot is settled, and every session that is held has one in memory. -/
structure Consistent (process : Process) (taken : List Entry) : Prop where
  held : ∀ session ∈ process.holders, session.place < process.memory.length
  settled : ∀ session, Settled process taken session

namespace Process

/-! ### One step -/

theorem slot_withSlot {process : Process} {session : Session}
    (held : session.place < process.memory.length) (slot : Slot) (other : Session) :
    (process.withSlot session slot).slot other =
      if session.place = other.place then slot else process.slot other := by
  unfold Process.slot withSlot
  rw [List.getD_eq_getElem?_getD]
  by_cases same : session.place = other.place
  · rw [if_pos same, ← same, List.getElem?_set_self held]
    rfl
  · rw [if_neg same, List.getElem?_set_ne same, List.getD_eq_getElem?_getD]

/-- Writing back what was there changes nothing. -/
theorem withSlot_slot (process : Process) (session : Session) :
    process.withSlot session (process.slot session) = process := by
  have same : process.memory.set session.place (process.slot session) = process.memory := by
    unfold Process.slot
    by_cases held : session.place < process.memory.length
    · rw [List.getD_eq_getElem?_getD, List.getElem?_eq_getElem held, Option.getD_some,
        List.set_getElem_self]
    · exact List.set_eq_of_length_le (Nat.not_lt.mp held)
  unfold withSlot
  rw [same]

theorem take_fst (process : Process) (session : Session) (next : Step) :
    (process.take session next).1 =
      process.withSlot session (step (process.instanceAt session) next).1.slot := rfl

/-- A step that leaves the provider as it is leaves the process as it is. -/
theorem take_of_unchanged {process : Process} {session : Session} {next : Step} {answer : Answer}
    (unchanged : step (process.instanceAt session) next = (process.instanceAt session, answer)) :
    process.take session next = (process, answer) := by
  unfold take
  rw [unchanged]
  exact congrArg (·, answer) (process.withSlot_slot session)

/-- A step changes nothing, or it fills the empty slot of its session with the reader that it brings. -/
theorem take_cases (process : Process) (session : Session) (next : Step) :
    ((process.take session next).2.isFilling = false ∧ (process.take session next).1 = process) ∨
    ((process.take session next).2.isFilling = true ∧ process.slot session = none ∧
      ∃ reader, next.reader? process.environment = some reader ∧
        (process.take session next).1 = process.withSlot session (some reader)) := by
  rw [take_fst]
  rcases step_cases (process.instanceAt session) next with
    ⟨notFilling, same⟩ | ⟨filling, empty, reader, brought, filled⟩
  · refine Or.inl ⟨notFilling, ?_⟩
    rw [same]
    exact process.withSlot_slot session
  · refine Or.inr ⟨filling, empty, reader, brought, ?_⟩
    rw [filled]

end Process

/-! ### One act -/

theorem fillings_append (place : Nat) (first second : List Entry) :
    fillings place (first ++ second) = fillings place first ++ fillings place second :=
  List.filter_append ..

theorem fillings_singleton (place : Nat) (entry : Entry) :
    fillings place [entry] = if entry.fills place then [entry] else [] := by
  unfold fillings
  cases fills : entry.fills place <;> simp [fills]

/-- The step that filled a slot brought the reader in it, and no other step filled it. -/
theorem Settled.of_mem {process : Process} {taken : List Entry} {session : Session} {entry : Entry}
    (settled : Settled process taken session) (member : entry ∈ fillings session.place taken) :
    fillings session.place taken = [entry] ∧
      ∃ reader, entry.next.reader? entry.environment = some reader ∧
        process.slot session = some reader := by
  rcases settled with ⟨nothing, _⟩ | ⟨only, reader, single, brought, filled⟩
  · rw [nothing] at member
    cases member
  · rw [single] at member
    rw [List.mem_singleton.mp member]
    exact ⟨single, reader, brought, filled⟩

/-- In a new process nothing was done. -/
theorem consistent_start (version : String) (environment : Environment) :
    Consistent (Process.start version environment) [] := by
  refine ⟨fun session member => ?_, fun session => Or.inl ⟨rfl, ?_⟩⟩
  · rw [List.mem_singleton.mp member]
    exact Nat.zero_lt_one
  · unfold Process.slot Process.start
    rcases session with ⟨place⟩
    cases place <;> rfl

namespace Consistent

variable {process : Process} {taken : List Entry}

/-- A session that is opened has an empty slot. -/
theorem openSession (consistent : Consistent process taken) :
    Consistent process.openSession taken := by
  have longer : process.openSession.memory.length = process.memory.length + 1 := by
    simp [Process.openSession]
  refine ⟨fun session member => ?_, fun session => ?_⟩
  · rw [longer]
    rcases List.mem_append.mp member with old | new
    · exact Nat.lt_succ_of_lt (consistent.held session old)
    · rw [List.mem_singleton.mp new]
      exact Nat.lt_succ_self _
  · have same : process.openSession.slot session = process.slot session := by
      unfold Process.slot Process.openSession
      rw [List.getD_eq_getElem?_getD, List.getD_eq_getElem?_getD]
      rcases Nat.lt_trichotomy session.place process.memory.length with held | new | beyond
      · rw [List.getElem?_append_left held]
      · rw [new, List.getElem?_concat_length, List.getElem?_eq_none (Nat.le_refl _)]
        rfl
      · rw [List.getElem?_eq_none (Nat.le_of_lt beyond),
          List.getElem?_eq_none (by simpa using Nat.succ_le_of_lt beyond)]
    unfold Settled
    rw [same]
    exact consistent.settled session

/-- A step settles the slot that it fills and leaves the others as they are. -/
theorem take (consistent : Consistent process taken) {session : Session}
    (held : session ∈ process.holders) (next : Step) :
    Consistent (process.take session next).1 (taken ++ [process.record session next]) := by
  have inMemory := consistent.held session held
  rcases process.take_cases session next with
    ⟨notFilling, same⟩ | ⟨filling, empty, reader, brought, filled⟩
  · rw [same]
    refine ⟨consistent.held, fun other => ?_⟩
    have nothing : (process.record session next).fills other.place = false := by
      simp [Entry.fills, Process.record, notFilling]
    unfold Settled
    rw [fillings_append, fillings_singleton, nothing, if_neg Bool.false_ne_true, List.append_nil]
    exact consistent.settled other
  · rw [filled]
    have sameLength : (process.withSlot session (some reader)).memory.length =
        process.memory.length := List.length_set
    have fills : ∀ other : Session, (process.record session next).fills other.place =
        (session.place == other.place) := by
      intro other
      simp [Entry.fills, Process.record, filling]
    refine ⟨fun other member => ?_, fun other => ?_⟩
    · rw [sameLength]
      exact consistent.held other member
    · unfold Settled
      rw [fillings_append, fillings_singleton, fills, Process.slot_withSlot inMemory]
      by_cases here : session.place = other.place
      · have before : fillings other.place taken = [] := by
          rw [← here]
          rcases consistent.settled session with ⟨nothing, _⟩ | ⟨_, _, _, _, present⟩
          · exact nothing
          · rw [empty] at present
            cases present
        rw [before, List.nil_append, if_pos (beq_iff_eq.mpr here), if_pos here]
        exact Or.inr ⟨process.record session next, reader, rfl, brought, rfl⟩
      · rw [if_neg (mt beq_iff_eq.mp here), if_neg here, List.append_nil]
        exact consistent.settled other

/-- Every act keeps all slots settled. -/
theorem act (consistent : Consistent process taken) (next : Act) :
    Consistent (process.act next).1 (taken ++ (process.act next).2) := by
  have nothing : Consistent process (taken ++ []) := by
    rw [List.append_nil]
    exact consistent
  cases next with
  | openSession =>
    simp only [Process.act, List.append_nil]
    exact consistent.openSession
  | surround environment =>
    simp only [Process.act, List.append_nil]
    exact ⟨consistent.held, consistent.settled⟩
  | clone holder =>
    simp only [Process.act]
    cases found : process.holders[holder]? with
    | none => exact nothing
    | some session =>
      simp only [List.append_nil]
      refine ⟨fun other member => ?_, consistent.settled⟩
      rcases List.mem_append.mp member with old | new
      · exact consistent.held other old
      · rw [List.mem_singleton.mp new]
        exact consistent.held session (List.mem_of_getElem? found)
  | take holder next =>
    simp only [Process.act]
    cases found : process.holders[holder]? with
    | none => exact nothing
    | some session => exact consistent.take (List.mem_of_getElem? found) next

/-- A whole run keeps all slots settled. -/
theorem perform (consistent : Consistent process taken) (acts : List Act) :
    Consistent (process.perform acts).1 (taken ++ (process.perform acts).2) := by
  induction acts generalizing process taken with
  | nil =>
    simp only [Process.perform, List.append_nil]
    exact consistent
  | cons first rest ih =>
    have later := ih (consistent.act first)
    rw [List.append_assoc] at later
    exact later

end Consistent

/-! ### Whole runs -/

namespace Process

theorem perform_append (process : Process) (first second : List Act) :
    process.perform (first ++ second) =
      (((process.perform first).1.perform second).1,
        (process.perform first).2 ++ ((process.perform first).1.perform second).2) := by
  induction first generalizing process with
  | nil => rfl
  | cons head rest ih => simp only [List.cons_append, perform, ih, List.append_assoc]

/-- A step that somebody takes is recorded. -/
theorem mem_perform_take {process : Process} {session : Session} {holder : Nat}
    (holds : process.holders[holder]? = some session) (next : Step) (rest : List Act) :
    process.record session next ∈ (process.perform (.take holder next :: rest)).2 := by
  simp only [perform, act, holds]
  exact List.mem_append_left _ (List.mem_singleton.mpr rfl)

/-- What is seen through a session after a step is what the step makes of the provider. -/
theorem instanceAt_take {process : Process} {session : Session}
    (held : session.place < process.memory.length) (next : Step) :
    (process.take session next).1.instanceAt session =
      (step (process.instanceAt session) next).1 := by
  have seen : (process.take session next).1.slot session =
      (step (process.instanceAt session) next).1.slot := by
    rw [take_fst, slot_withSlot held, if_pos rfl]
  rcases step_cases (process.instanceAt session) next with ⟨_, same⟩ | ⟨_, _, reader, _, filled⟩
  · rw [same] at seen ⊢
    exact congrArg (Instance.mk process.version process.environment) seen
  · rw [filled] at seen ⊢
    exact congrArg (Instance.mk process.version process.environment) seen

/-- Taking steps through one session is running the provider as it is seen through it. -/
theorem perform_take {process : Process} {session : Session} {holder : Nat}
    (holds : process.holders[holder]? = some session)
    (held : session.place < process.memory.length) (steps : List Step) :
    (process.perform (steps.map (.take holder))).1.instanceAt session =
        (run (process.instanceAt session) steps).1 ∧
      (process.perform (steps.map (.take holder))).2.map (·.answer) =
        (run (process.instanceAt session) steps).2 := by
  induction steps generalizing process with
  | nil => exact ⟨rfl, rfl⟩
  | cons first rest ih =>
    have sameLength : (process.take session first).1.memory.length = process.memory.length :=
      List.length_set
    have later := @ih (process.take session first).1 holds (by rw [sameLength]; exact held)
    rw [instanceAt_take held] at later
    simp only [List.map_cons, perform, act, holds, run, List.map_append, List.map_nil]
    exact ⟨later.1, congrArg (_ :: ·) later.2⟩

end Process

/-- The reader that a step brought when it filled a slot is there at every later point, for everybody who
shares the slot. -/
theorem exists_reader_of_mem_fillings {version : String} {environment : Environment}
    {acts : List Act} {place : Nat} {entry : Entry}
    (member : entry ∈ fillings place ((Process.start version environment).perform acts).2) :
    ∃ reader, entry.next.reader? entry.environment = some reader ∧
      ∀ (later : List Act) (session : Session), session.place = place →
        (((Process.start version environment).perform acts).1.perform later).1.slot session =
          some reader := by
  have consistent := (consistent_start version environment).perform
  obtain ⟨_, reader, brought, _⟩ := ((consistent acts).settled ⟨place⟩).of_mem member
  refine ⟨reader, brought, ?_⟩
  rintro later session rfl
  have whole := (consistent (acts ++ later)).settled session
  rw [Process.perform_append] at whole
  have among : entry ∈ fillings session.place
      (((Process.start version environment).perform acts).2 ++
        (((Process.start version environment).perform acts).1.perform later).2) := by
    rw [fillings_append]
    exact List.mem_append_left _ member
  obtain ⟨_, present, brings, filled⟩ := whole.of_mem among
  rw [← brought, brings]
  exact filled

/-- **A session is written once.** At every point of a run, whoever shares a slot sees it filled exactly if
an earlier step filled it; at most one does, and it brought the reader that everybody reads through from
then on. Nothing is installed or configured after it. Steps that are taken through one session alone are answered as
in a run of the provider. -/
theorem session_writtenOnce (version : String) (environment : Environment) (acts : List Act)
    (place : Nat) :
    let process := ((Process.start version environment).perform acts).1
    let filled := fillings place ((Process.start version environment).perform acts).2
    filled.length ≤ 1 ∧
    (∀ session ∈ process.holders, session.place = place →
      ((process.slot session).isSome = true ↔ filled ≠ []) ∧
      (filled = [] → (process.slot session).reader = .error .notConfigured)) ∧
    (∀ entry ∈ filled, ∃ reader, entry.next.reader? entry.environment = some reader ∧
      ∀ later : List Act,
        let after := (process.perform later).1
        ∀ session ∈ after.holders, session.place = place →
          (after.slot session).reader = .ok reader ∧
          (∀ other, after.take session (.install other) =
            (after, .installed (.error .alreadyConfigured))) ∧
          ∀ config delivery, ∃ diagnostics sent,
            after.take session (.configure config delivery) =
              (after, .configured false diagnostics sent true)) ∧
    ∀ holder session, process.holders[holder]? = some session → ∀ steps : List Step,
      (process.perform (steps.map (.take holder))).2.map (·.answer) = (run (process.instanceAt session) steps).2 := by
  intro process filled
  have consistent : Consistent process ((Process.start version environment).perform acts).2 :=
    (consistent_start version environment).perform acts
  refine ⟨?_, ?_, fun entry member => ?_, fun holder session holds steps => ?_⟩
  · rcases consistent.settled ⟨place⟩ with ⟨nothing, _⟩ | ⟨entry, _, single, _⟩
    · exact Nat.le_trans (Nat.le_of_eq (congrArg List.length nothing)) (Nat.zero_le 1)
    · exact Nat.le_of_eq (congrArg List.length single)
  · rintro session - rfl
    rcases consistent.settled session with ⟨nothing, empty⟩ | ⟨entry, reader, single, _, present⟩
    · exact ⟨by simp [filled, nothing, empty], fun _ => congrArg Slot.reader empty⟩
    · exact ⟨by simp [filled, single, present],
        fun nothing => absurd (nothing.symm.trans single) (List.cons_ne_nil entry []).symm⟩
  · obtain ⟨reader, brought, present⟩ := exists_reader_of_mem_fillings member
    refine ⟨reader, brought, ?_⟩
    intro later after session _ shared
    have slot : after.slot session = some reader := present later session shared
    refine ⟨congrArg Slot.reader slot, fun other => ?_, fun config delivery => ?_⟩
    · exact Process.take_of_unchanged (step_install_of_filled slot other)
    · have notEmpty : (after.instanceAt session).slot ≠ none := by
        intro empty
        cases slot.symm.trans empty
      obtain ⟨diagnostics, sent, failed⟩ := step_configure_of_filled notEmpty config delivery
      exact ⟨diagnostics, sent, Process.take_of_unchanged failed⟩
  · exact (Process.perform_take holds (consistent.held session (List.mem_of_getElem? holds)) steps).2

end SecretSource.Provider
