/-
**Where the requests of a run come from.**

Only two steps send anything: configuring lets the client of the block look at its token, and reading asks
the client in the slot for the secret of a state. In a whole run, the client in a slot is the one that the
step which filled the slot had brought, so every request leads back to a step that brought its client.

* `sent_cases`: the requests of one step.
* `Process.exists_of_mem_perform`: every step of a run is taken at some point of it.
* `exists_source_of_mem_sent`: the requests of a whole run.
-/

import SecretSource.Proofs.Session.WriteOnce
import SecretSource.Proofs.Vault.Composing

namespace SecretSource.Provider

open SecretSource.Http (Delivery Request)

/-- The requests that were sent before an answer was given. -/
def Answer.sent : Answer → List Request
  | .configured _ _ sent _ => sent
  | .read outcome => outcome.sent
  | _ => []

/-- The reply to a look at the token, of a vault that accepts it. -/
def acceptance : Delivery :=
  .answered {
    status := 200
    body := Text.Utf8.encode <| String.toList <|
      "\x7b\"data\":\x7b\"accessor\":\"a\",\"display_name\":\"d\",\"policies\":[],"
        ++ "\"ttl\":0,\"renewable\":false\x7d\x7d" }

/-! ### One step -/

/-- Configuring sends what connecting sends. -/
theorem configure_sent (provider : Instance) (config : Config) (delivery : Delivery)
    (diagnostics : Diagnostics) :
    (configure provider config delivery diagnostics).sent = (connect provider config delivery).sent := by
  unfold configure
  cases result : (connect provider config delivery).result <;> simp only [result]

/-- Configuring sends nothing but the look of the block's client at its token. -/
theorem eq_composedLookup_of_mem_configure_sent {provider : Instance} {config : Config}
    {delivery : Delivery} {diagnostics : Diagnostics} {request : Request}
    (member : request ∈ (configure provider config delivery diagnostics).sent) :
    ∃ client, prepare provider.environment config = .ok client ∧ request = client.composedLookup := by
  rw [configure_sent] at member
  unfold connect at member
  cases prepared : prepare provider.environment config with
  | error failure =>
    rw [prepared] at member
    cases member
  | ok client =>
    rw [prepared] at member
    exact ⟨client, rfl, Vault.Client.eq_composedLookup_of_mem_lookupSelf_sent member⟩

/-- Reading a state sends nothing but the request of the client in the slot for its secret. -/
theorem eq_composed_of_mem_readState_sent {slot : Slot} {state : SecretState} {delivery : Delivery}
    {diagnostics : Diagnostics} {request : Request}
    (member : request ∈ (readState slot state delivery diagnostics).sent) :
    ∃ client built, slot = some (.client client) ∧ buildRequest state = .ok built ∧
      request = client.composed built := by
  unfold readState at member
  cases built : buildRequest state with
  | error errors =>
    rw [built] at member
    cases member
  | ok asked =>
    rw [built] at member
    cases slot with
    | none => cases member
    | some reader =>
      have sent : request ∈ (reader.read asked delivery).sent := by
        simp only [Slot.reader] at member
        split at member <;> exact member
      cases reader with
      | custom answer => cases sent
      | client vault => exact ⟨vault, asked, rfl, rfl, Vault.Client.eq_composed_of_mem_read_sent sent⟩

/-- **The requests of a step.** The client of the block that is configured looks at its token, or the client
in the slot asks for the secret of the state that is read. -/
theorem sent_cases {provider : Instance} {next : Step} {request : Request}
    (member : request ∈ (step provider next).2.sent) :
    (∃ config delivery client, next = .configure config delivery ∧
      prepare provider.environment config = .ok client ∧ request = client.composedLookup) ∨
    (∃ state delivery client built, next = .read state delivery ∧
      provider.slot = some (.client client) ∧ buildRequest state = .ok built ∧
      request = client.composed built) := by
  cases next with
  | configure config delivery =>
    obtain ⟨client, prepared, composed⟩ := eq_composedLookup_of_mem_configure_sent member
    exact Or.inl ⟨config, delivery, client, rfl, prepared, composed⟩
  | read state delivery =>
    obtain ⟨client, built, present, asked, composed⟩ := eq_composed_of_mem_readState_sent member
    exact Or.inr ⟨state, delivery, client, built, rfl, present, asked, composed⟩
  | install reader =>
    simp only [step] at member
    split at member <;> cases member
  | status => cases member
  | schema => cases member
  | validateProvider config => cases member
  | validate state => cases member

/-! ### Whole runs -/

/-- What is recorded of an act is the one step that is taken in it, by somebody who holds a session. -/
theorem Process.exists_of_mem_act {process : Process} {act : Act} {entry : Entry}
    (member : entry ∈ (process.act act).2) :
    ∃ session ∈ process.holders, ∃ next, entry = process.record session next := by
  cases act with
  | openSession => cases member
  | surround environment => cases member
  | clone holder =>
    simp only [Process.act] at member
    split at member <;> cases member
  | take holder next =>
    simp only [Process.act] at member
    split at member
    · rename_i session found
      exact ⟨session, List.mem_of_getElem? found, next, List.mem_singleton.mp member⟩
    · cases member

/-- A step of a run was taken, by somebody who held a session, behind the acts before it. -/
theorem Process.exists_of_mem_perform {process : Process} {acts : List Act} {entry : Entry}
    (member : entry ∈ (process.perform acts).2) :
    ∃ earlier later, acts = earlier ++ later ∧ ∃ session ∈ (process.perform earlier).1.holders, ∃ next,
      entry = (process.perform earlier).1.record session next := by
  induction acts generalizing process with
  | nil => cases member
  | cons first rest ih =>
    rcases List.mem_append.mp member with here | there
    · exact ⟨[], first :: rest, rfl, exists_of_mem_act here⟩
    · obtain ⟨earlier, later, rfl, taken⟩ := ih there
      exact ⟨first :: earlier, later, rfl, taken⟩

/-- A step brings a client that is built for what its block resolves to. -/
theorem exists_resolved_of_reader? {environment : Environment} {config : Config} {delivery : Delivery}
    {client : Vault.Client}
    (brought : (Step.configure config delivery).reader? environment = some (.client client)) :
    ∃ resolved, config.resolve environment = .ok resolved ∧ Vault.Client.make resolved = .ok client ∧
      client.config = resolved := by
  cases prepared : prepare environment config with
  | error failure =>
    simp only [Step.reader?, prepared] at brought
    cases brought
  | ok prepares =>
    simp only [Step.reader?, prepared] at brought
    cases brought
    obtain ⟨resolved, first, second⟩ := prepare_eq_ok_iff.mp prepared
    exact ⟨resolved, first, second, (Vault.Client.make_eq_ok second).2.2.1⟩

/-- **The requests of a run.** Every request was sent by a client that a step of the run had brought: by the
step itself, which configures the provider and lets the client look at its token, or by the step that filled
the slot which the step reads through. -/
theorem exists_source_of_mem_sent {version : String} {environment : Environment} {acts : List Act}
    {entry : Entry} {request : Request}
    (member : entry ∈ ((Process.start version environment).perform acts).2)
    (sent : request ∈ entry.answer.sent) :
    ∃ source ∈ ((Process.start version environment).perform acts).2, ∃ client,
      source.session.place = entry.session.place ∧
      source.next.reader? source.environment = some (.client client) ∧
      ((source = entry ∧ (∃ config delivery, entry.next = .configure config delivery) ∧
          request = client.composedLookup) ∨
        (source.answer.isFilling = true ∧ ∃ state delivery built,
          entry.next = .read state delivery ∧ buildRequest state = .ok built ∧
          request = client.composed built)) := by
  obtain ⟨earlier, later, rfl, session, -, next, rfl⟩ := Process.exists_of_mem_perform member
  rcases sent_cases sent with
    ⟨config, delivery, client, rfl, prepared, composed⟩ |
    ⟨state, delivery, client, built, rfl, present, asked, composed⟩
  · refine ⟨_, member, client, rfl, ?_, Or.inl ⟨rfl, ⟨config, delivery, rfl⟩, composed⟩⟩
    have brings : prepare ((Process.start version environment).perform earlier).1.environment config =
      .ok client := prepared
    simp only [Process.record, Step.reader?, brings]
    rfl
  · -- The slot was filled by a step among the earlier ones.
    have consistent : Consistent _ ((Process.start version environment).perform earlier).2 :=
      (consistent_start version environment).perform earlier
    rcases consistent.settled session with ⟨-, empty⟩ | ⟨source, reader, single, brought, filled⟩
    · cases empty.symm.trans present
    · cases Option.some.inj (filled.symm.trans present)
      have fills : source ∈ fillings session.place
          ((Process.start version environment).perform earlier).2 := by
        rw [single]
        exact List.mem_singleton.mpr rfl
      obtain ⟨inRun, filling⟩ := List.mem_filter.mp fills
      rw [Entry.fills, Bool.and_eq_true, beq_iff_eq] at filling
      refine ⟨source, ?_, client, filling.1, brought, Or.inr ⟨filling.2, state, delivery, built, rfl,
        asked, composed⟩⟩
      rw [Process.perform_append]
      exact List.mem_append_left _ inRun

end SecretSource.Provider
