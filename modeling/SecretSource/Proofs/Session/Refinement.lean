/-
**A read in a session refines a read by its client.**

Once a provider was configured, every read through its session gives what the client of that one block
gives for the same request and reply: whatever was configured, installed or read in between, and through
whichever clone.

* `AgreesWithClient`: what it means that a read of a state agrees with a client.
* `readState_cases`: the four things that a read can do, through any slot.
* `readState_agreesWithClient`: a read through a slot that holds a client agrees with it.
* `session_read_agreesWithClient`: reads in whole runs.
-/

import SecretSource.Proofs.Session.WriteOnce

namespace SecretSource.Provider

open SecretSource.Http (Delivery)
open SecretSource.Vault (Secret SecretRequest)

/-- A read of a state agrees with a client: without a request for the state nothing is sent and no state is
given; otherwise the requests are those of the client, and its secret fills the state, or its failure is
the one error that is added. -/
structure AgreesWithClient (client : Vault.Client) (state : SecretState) (delivery : Delivery)
    (diagnostics : Diagnostics) (outcome : ReadOutcome) : Prop where
  asked : outcome.asked = []
  unbuilt : ∀ errors, buildRequest state = .error errors →
    outcome.sent = [] ∧ outcome.state = none ∧ outcome.diagnostics = diagnostics.addAll errors
  sent : ∀ request, buildRequest state = .ok request →
    outcome.sent = (client.read request delivery).sent
  secret : ∀ request secret, buildRequest state = .ok request →
    (client.read request delivery).result = .ok secret →
      outcome.state = some (state.withSecret secret) ∧ outcome.diagnostics = diagnostics
  failure : ∀ request failure, buildRequest state = .ok request →
    (client.read request delivery).result = .error failure →
      outcome.state = none ∧
        outcome.diagnostics.errors =
          diagnostics.errors ++ [⟨"Failed to read secret", failure.message, none⟩] ∧
        outcome.diagnostics.warnings = diagnostics.warnings

/-! ### One read -/

variable {client : Vault.Client} {state : SecretState} {delivery : Delivery} {diagnostics : Diagnostics}

theorem readState_of_unbuilt {slot : Slot} {errors : List Diagnostic}
    (unbuilt : buildRequest state = .error errors) :
    readState slot state delivery diagnostics =
      { state := none, diagnostics := diagnostics.addAll errors } := by
  unfold readState
  rw [unbuilt]

theorem readState_of_secret {request : SecretRequest} {secret : Secret}
    (built : buildRequest state = .ok request)
    (answered : (client.read request delivery).result = .ok secret) :
    readState (some (.client client)) state delivery diagnostics =
      { state := some (state.withSecret secret)
        diagnostics
        sent := (client.read request delivery).sent } := by
  unfold readState
  rw [built]
  simp only [Slot.reader, SecretReader.read, answered]

theorem readState_of_failure {request : SecretRequest} {failure : Vault.Failure}
    (built : buildRequest state = .ok request)
    (answered : (client.read request delivery).result = .error failure) :
    readState (some (.client client)) state delivery diagnostics =
      { state := none
        diagnostics := diagnostics.add ⟨"Failed to read secret", failure.message, none⟩
        sent := (client.read request delivery).sent } := by
  unfold readState
  rw [built]
  simp only [Slot.reader, SecretReader.read, answered]

/-- **What a read can do.** Without a request for its state it tells what is wrong with the state, through an empty slot
that there is no reader, and otherwise it hands on the failure of the reader or fills the state with its secret. -/
theorem readState_cases (slot : Slot) (state : SecretState) (delivery : Delivery) (diagnostics : Diagnostics) :
    (∃ errors, buildRequest state = .error errors ∧
      readState slot state delivery diagnostics = { state := none, diagnostics := diagnostics.addAll errors }) ∨
    (∃ request, buildRequest state = .ok request ∧ slot = none ∧
      readState slot state delivery diagnostics =
        { state := none, diagnostics := diagnostics.add Failure.notConfigured.report }) ∨
    (∃ request reader failure, buildRequest state = .ok request ∧ slot = some reader ∧
      (reader.read request delivery).result = .error failure ∧
      readState slot state delivery diagnostics =
        { state := none
          diagnostics := diagnostics.add ⟨"Failed to read secret", failure.message, none⟩
          sent := (reader.read request delivery).sent
          asked := (reader.read request delivery).asked }) ∨
    ∃ request reader secret, buildRequest state = .ok request ∧ slot = some reader ∧
      (reader.read request delivery).result = .ok secret ∧
      readState slot state delivery diagnostics =
        { state := some (state.withSecret secret)
          diagnostics
          sent := (reader.read request delivery).sent
          asked := (reader.read request delivery).asked } := by
  cases built : buildRequest state with
  | error errors => exact Or.inl ⟨errors, rfl, readState_of_unbuilt built⟩
  | ok request =>
    refine Or.inr ?_
    unfold readState
    rw [built]
    cases slot with
    | none => exact Or.inl ⟨request, rfl, rfl, rfl⟩
    | some reader =>
      refine Or.inr ?_
      cases answered : (reader.read request delivery).result with
      | error failure =>
        exact Or.inl ⟨request, reader, failure, rfl, rfl, answered, by simp only [Slot.reader, answered]⟩
      | ok secret =>
        exact Or.inr ⟨request, reader, secret, rfl, rfl, answered, by simp only [Slot.reader, answered]⟩

/-- A read that gives a state has filled it with the secret that its reader gave. -/
theorem exists_reader_of_readState {slot : Slot} {after : SecretState}
    (given : (readState slot state delivery diagnostics).state = some after) :
    ∃ request reader secret, buildRequest state = .ok request ∧ slot = some reader ∧
      (reader.read request delivery).result = .ok secret ∧ after = state.withSecret secret := by
  rcases readState_cases slot state delivery diagnostics with ⟨_, -, outcome⟩ | ⟨_, -, -, outcome⟩ |
    ⟨_, _, _, -, -, -, outcome⟩ | ⟨request, reader, secret, built, filled, answered, outcome⟩
  · rw [outcome] at given
    cases given
  · rw [outcome] at given
    cases given
  · rw [outcome] at given
    cases given
  · rw [outcome] at given
    exact ⟨request, reader, secret, built, filled, answered, (Option.some.inj given).symm⟩

/-- A read through a slot that holds a client agrees with it. -/
theorem readState_agreesWithClient (client : Vault.Client) (state : SecretState)
    (delivery : Delivery) (diagnostics : Diagnostics) :
    AgreesWithClient client state delivery diagnostics
      (readState (some (.client client)) state delivery diagnostics) where
  asked := by
    cases built : buildRequest state with
    | error errors => rw [readState_of_unbuilt built]
    | ok request =>
      cases answered : (client.read request delivery).result with
      | error failure => rw [readState_of_failure built answered]
      | ok secret => rw [readState_of_secret built answered]
  unbuilt errors unbuilt := by
    rw [readState_of_unbuilt unbuilt]
    exact ⟨rfl, rfl, rfl⟩
  sent request built := by
    cases answered : (client.read request delivery).result with
    | error failure => rw [readState_of_failure built answered]
    | ok secret => rw [readState_of_secret built answered]
  secret request secret built answered := by
    rw [readState_of_secret built answered]
    exact ⟨rfl, rfl⟩
  failure request failure built answered := by
    rw [readState_of_failure built answered]
    exact ⟨rfl, rfl, rfl⟩

/-! ### Reads in a run -/

/-- A step that configured a provider fills the slot of its session with the client of its block. -/
theorem take_configure_of_returned {process : Process} {session : Session} {config : Config}
    {lookup : Delivery}
    (returned : (process.take session (.configure config lookup)).2.isFilling = true) :
    ∃ resolved client, config.resolve process.environment = .ok resolved ∧
      Vault.Client.make resolved = .ok client ∧
      (Step.configure config lookup).reader? process.environment = some (.client client) := by
  rcases process.take_cases session (.configure config lookup) with
    ⟨notFilling, _⟩ | ⟨_, _, reader, brought, _⟩
  · rw [notFilling] at returned
    cases returned
  · cases prepared : prepare process.environment config with
    | error failure =>
      simp only [Step.reader?, prepared] at brought
      cases brought
    | ok client =>
      obtain ⟨resolved, first, second⟩ := prepare_eq_ok_iff.mp prepared
      refine ⟨resolved, client, first, second, ?_⟩
      simp only [Step.reader?, prepared]
      rfl

/-- **A read in a session refines a read by the client of its block.** Let a holder of a session configure
the provider, at some point of a run, and let that succeed: then the block resolves in the environment of
that point, and to something that a client is built for. At every later point, a read through any session
that shares the slot agrees with this client and changes nothing. -/
theorem session_read_agreesWithClient (version : String) (environment : Environment)
    (earlier : List Act) {holder : Nat} {session : Session} {config : Config} {lookup : Delivery}
    (holds : ((Process.start version environment).perform earlier).1.holders[holder]? = some session)
    (returned : (((Process.start version environment).perform earlier).1.take session
      (.configure config lookup)).2.isFilling = true) :
    ∃ resolved client,
      config.resolve ((Process.start version environment).perform earlier).1.environment = .ok resolved ∧
      Vault.Client.make resolved = .ok client ∧
      ∀ between : List Act,
        let process := ((Process.start version environment).perform
          (earlier ++ .take holder (.configure config lookup) :: between)).1
        ∀ reading ∈ process.holders, reading.place = session.place →
          ∀ state delivery, ∃ outcome,
            process.take reading (.read state delivery) = (process, .read outcome) ∧
            AgreesWithClient client state delivery {} outcome := by
  obtain ⟨resolved, client, first, second, brought⟩ := take_configure_of_returned returned
  refine ⟨resolved, client, first, second, ?_⟩
  rintro between process reading - shared state delivery
  have member : ((Process.start version environment).perform earlier).1.record session
      (.configure config lookup) ∈ fillings session.place
      ((Process.start version environment).perform
        (earlier ++ [.take holder (.configure config lookup)])).2 := by
    rw [Process.perform_append]
    refine List.mem_filter.mpr ⟨List.mem_append_right _ (Process.mem_perform_take holds _ []), ?_⟩
    simp [Entry.fills, Process.record, returned]
  obtain ⟨reader, same, present⟩ := exists_reader_of_mem_fillings member
  have whole : process = (((Process.start version environment).perform
      (earlier ++ [.take holder (.configure config lookup)])).1.perform between).1 := by
    have joined := (Process.start version environment).perform_append
      (earlier ++ [.take holder (.configure config lookup)]) between
    rw [List.append_assoc, List.singleton_append] at joined
    have firsts := congrArg Prod.fst joined
    exact firsts
  have slot : process.slot reading = some (.client client) := by
    rw [whole, present between reading shared, ← same]
    exact brought
  refine ⟨readState (process.slot reading) state delivery {}, Process.take_of_unchanged rfl, ?_⟩
  rw [slot]
  exact readState_agreesWithClient client state delivery {}

/-- A block without an address is refused, a clone is handed on, and the provider is configured through it. -/
theorem session_read_agreesWithClient_throughClone :
    let environment : Environment := fun _ => none
    let config : Config := .ofTexts "https://[::1]:8200" "t" none
    let token := "\x7b\"data\":\x7b\"accessor\":\"a\",\"display_name\":\"d\",\"policies\":[],"
      ++ "\"ttl\":0,\"renewable\":false\x7d\x7d"
    let lookup : Delivery := .answered { status := 200, body := Text.Utf8.encode token.toList }
    let earlier : List Act := [.take 0 (.configure {} lookup), .clone 0]
    let process := ((Process.start "0.1.0" environment).perform earlier).1
    process.holders[1]? = some ⟨0⟩ ∧
    (process.take ⟨0⟩ (.configure config lookup)).2.isFilling = true ∧
    ∃ resolved client, config.resolve process.environment = .ok resolved ∧
      Vault.Client.make resolved = .ok client ∧
      ∀ between : List Act,
        let process := ((Process.start "0.1.0" environment).perform
          (earlier ++ .take 1 (.configure config lookup) :: between)).1
        ∀ reading ∈ process.holders, reading.place = 0 →
          ∀ state delivery, ∃ outcome,
            process.take reading (.read state delivery) = (process, .read outcome) ∧
            AgreesWithClient client state delivery {} outcome := by
  intro environment config token lookup earlier process
  have holds : process.holders[1]? = some ⟨0⟩ := by decide +kernel
  have returned : (process.take ⟨0⟩ (.configure config lookup)).2.isFilling = true := by
    decide +kernel
  exact ⟨holds, returned, session_read_agreesWithClient "0.1.0" environment earlier holds returned⟩

end SecretSource.Provider
