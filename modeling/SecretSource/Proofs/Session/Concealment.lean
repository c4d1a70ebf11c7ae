/-
**What a run shows of tokens.**

A run reads tokens from the attribute and from the environment. Concealing them in everything a run starts
from and is given conceals them in everything it leaves behind, and changes no answer but for the tokens in
the requests that were sent. So two runs whose tokens are concealed alike give the same answers.

* `Config.resolve_concealed`, `configure_concealed`, `readState_concealed`: the stages of a step.
* `step_concealed`, `Process.act_concealed`: one step and one act.
* `Process.perform_concealed`: a whole run.
-/

import SecretSource.Proofs.Except
import SecretSource.Proofs.Vault.Concealment
import SecretSource.Provider.Process

namespace SecretSource.Provider

open SecretSource.Http (Delivery Exchange Request)
open SecretSource.Vault (SecretRequest)

/-! ### Blocks -/

/-- An environment with the token in it concealed. -/
def Environment.concealed (environment : Environment) : Environment := fun name =>
  if name = "VAULT_TOKEN" then (environment name).map Vault.concealed else environment name

/-- A block with its token concealed. -/
def Config.concealed (config : Config) : Config :=
  { config with token := config.token.map Vault.concealed }

theorem resolveAttribute_token_concealed (value : Attribute String) (environment : Environment) :
    resolveAttribute (value.map Vault.concealed) "token" "VAULT_TOKEN" environment.concealed =
      (resolveAttribute value "token" "VAULT_TOKEN" environment).map (Option.map Vault.concealed) := by
  have filtered : ∀ text : Option String,
      (text.map Vault.concealed).filter (! Unicode.isBlankText ·) =
        (text.filter (! Unicode.isBlankText ·)).map Vault.concealed := by
    intro text
    cases text with
    | none => rfl
    | some text => cases blank : Unicode.isBlankText text <;> simp [Option.filter, blank]
  cases value with
  | unknown => rfl
  | known text => exact congrArg Except.ok (filtered (some text))
  | null => exact congrArg Except.ok (filtered (environment "VAULT_TOKEN"))

theorem resolveAttribute_concealed (value : Attribute String) (subject : String) (environment : Environment)
    {name : String} (other : name ≠ "VAULT_TOKEN") :
    resolveAttribute value subject name environment.concealed =
      resolveAttribute value subject name environment := by
  cases value with
  | null => simp only [resolveAttribute, Environment.concealed, if_neg other]
  | unknown => rfl
  | known text => rfl

namespace Config

/-- A block resolves to a configuration with the token concealed, or with the same problem. -/
theorem resolve_concealed (config : Config) (environment : Environment) :
    config.concealed.resolve environment.concealed =
      (config.resolve environment).map Vault.Config.concealed := by
  have address := resolveAttribute_concealed config.address "address" environment
    (show "VAULT_ADDR" ≠ "VAULT_TOKEN" by decide)
  have namespaceName := resolveAttribute_concealed config.namespaceName "namespace" environment
    (show "VAULT_NAMESPACE" ≠ "VAULT_TOKEN" by decide)
  unfold resolve
  simp only [concealed, address, namespaceName]
  -- Only the second stage sees the token; what it gives is handed on to the configuration.
  refine bind_eq_map_bind_right fun address => ?_
  cases address with
  | none => rfl
  | some address =>
    refine bind_eq_map_bind (resolveAttribute_token_concealed config.token environment) fun token => ?_
    cases token with
    | none => rfl
    | some token =>
      refine bind_eq_map_bind_right fun name => bind_eq_map_bind_right fun _ => ?_
      cases name <;> rfl

/-- A block has the same known problems with its token concealed. -/
theorem checkKnown_concealed (config : Config) : config.concealed.checkKnown = config.checkKnown := by
  unfold checkKnown addressProblem? tokenProblem? concealed
  cases config.token <;> simp [Attribute.map]

end Config

theorem prepare_concealed (environment : Environment) (config : Config) :
    prepare environment.concealed config.concealed =
      (prepare environment config).map Vault.Client.concealed := by
  unfold prepare
  refine bind_eq_map_bind (config.resolve_concealed environment) fun resolved => ?_
  rw [Vault.Client.make_concealed]
  cases Vault.Client.make resolved <;> rfl

/-! ### Slots -/

/-- A reader with its token concealed, if it has one. -/
def SecretReader.concealed : SecretReader → SecretReader
  | .client vault => .client vault.concealed
  | .custom answer => .custom answer

/-- A slot with the token of its reader concealed. -/
def Slot.concealed (slot : Slot) : Slot := slot.map SecretReader.concealed

namespace Slot

theorem install_concealed (slot : Slot) (reader : SecretReader) :
    slot.concealed.install reader.concealed = (slot.install reader).map concealed := by
  cases slot <;> rfl

theorem reader_concealed (slot : Slot) :
    slot.concealed.reader = slot.reader.map SecretReader.concealed := by
  cases slot <;> rfl

theorem isSome_concealed (slot : Slot) : slot.concealed.isSome = slot.isSome := by
  cases slot <;> rfl

theorem logText_concealed (slot : Slot) : slot.concealed.logText = slot.logText := by
  unfold logText
  rw [isSome_concealed]

end Slot

theorem SecretReader.read_concealed (reader : SecretReader) (request : SecretRequest)
    (delivery : Delivery) :
    (reader.concealed.read request delivery).result = (reader.read request delivery).result ∧
      (reader.concealed.read request delivery).sent.map Request.withoutToken =
        (reader.read request delivery).sent.map Request.withoutToken ∧
      (reader.concealed.read request delivery).asked = (reader.read request delivery).asked := by
  cases reader with
  | custom answer => exact ⟨rfl, rfl, rfl⟩
  | client vault =>
    obtain ⟨sent, result⟩ := Exchange.withoutTokens_eq_iff.mp (vault.read_concealed request delivery)
    exact ⟨result, sent, rfl⟩

/-! ### Steps -/

/-- What comes of a read, with the tokens taken out of what was sent. -/
def ReadOutcome.withoutTokens (outcome : ReadOutcome) : ReadOutcome :=
  { outcome with sent := outcome.sent.map Request.withoutToken }

/-- An answer with the tokens taken out of what was sent. -/
def Answer.withoutTokens : Answer → Answer
  | .configured returned diagnostics sent isConfigured =>
    .configured returned diagnostics (sent.map Request.withoutToken) isConfigured
  | .read outcome => .read outcome.withoutTokens
  | answer => answer

/-- An instance of the provider with its tokens concealed. -/
def Instance.concealed (provider : Instance) : Instance :=
  { provider with environment := provider.environment.concealed, slot := provider.slot.concealed }

/-- A step with the tokens in it concealed. -/
def Step.concealed : Step → Step
  | .validateProvider config => .validateProvider config.concealed
  | .configure config delivery => .configure config.concealed delivery
  | .install reader => .install reader.concealed
  | next => next

theorem verify_concealed (client : Vault.Client) (delivery : Delivery) :
    (verify client.concealed delivery).withoutTokens = (verify client delivery).withoutTokens := by
  obtain ⟨sent, result⟩ := Exchange.withoutTokens_eq_iff.mp (client.lookupSelf_concealed delivery)
  exact Exchange.withoutTokens_eq_iff.mpr ⟨sent, congrArg (Except.mapError Failure.vault) result⟩

theorem connect_concealed (provider : Instance) (config : Config) (delivery : Delivery) :
    (connect provider.concealed config.concealed delivery).sent.map Request.withoutToken =
        (connect provider config delivery).sent.map Request.withoutToken ∧
      (connect provider.concealed config.concealed delivery).result =
        (connect provider config delivery).result.map Slot.concealed := by
  unfold connect
  rw [show provider.concealed.environment = provider.environment.concealed from rfl, prepare_concealed]
  cases prepare provider.environment config with
  | error failure => exact ⟨rfl, rfl⟩
  | ok client =>
    obtain ⟨sent, result⟩ := Exchange.withoutTokens_eq_iff.mp (verify_concealed client delivery)
    refine ⟨sent, ?_⟩
    simp only [Except.map, result]
    cases (verify client delivery).result with
    | error failure => rfl
    | ok token => exact provider.slot.install_concealed (.client client)

theorem configure_concealed (provider : Instance) (config : Config) (delivery : Delivery)
    (diagnostics : Diagnostics) :
    let plain := configure provider config delivery diagnostics
    let outcome := configure provider.concealed config.concealed delivery diagnostics
    outcome.returned = plain.returned ∧ outcome.provider = plain.provider.concealed ∧
      outcome.diagnostics = plain.diagnostics ∧
      outcome.sent.map Request.withoutToken = plain.sent.map Request.withoutToken := by
  obtain ⟨sent, result⟩ := connect_concealed provider config delivery
  unfold configure
  simp only [result]
  cases (connect provider config delivery).result with
  | error failure => exact ⟨rfl, rfl, rfl, sent⟩
  | ok slot => exact ⟨rfl, rfl, rfl, sent⟩

theorem readState_concealed (slot : Slot) (state : SecretState) (delivery : Delivery)
    (diagnostics : Diagnostics) :
    (readState slot.concealed state delivery diagnostics).withoutTokens =
      (readState slot state delivery diagnostics).withoutTokens := by
  unfold readState
  rw [slot.reader_concealed]
  cases buildRequest state with
  | error errors => rfl
  | ok request =>
    cases slot.reader with
    | error failure => rfl
    | ok reader =>
      obtain ⟨result, sent, asked⟩ := reader.read_concealed request delivery
      simp only [Except.map, result]
      cases (reader.read request delivery).result <;>
        simp only [ReadOutcome.withoutTokens, sent, asked]

/-- **A step shows nothing of the tokens.** Taken with all tokens concealed, it leaves the same behind with
the tokens concealed, and gives the same answer but for the tokens in what was sent. -/
theorem step_concealed (provider : Instance) (next : Step) :
    (step provider.concealed next.concealed).1 = (step provider next).1.concealed ∧
      (step provider.concealed next.concealed).2.withoutTokens = (step provider next).2.withoutTokens := by
  cases next with
  | status =>
    refine ⟨rfl, ?_⟩
    have slot : provider.concealed.slot = provider.slot.concealed := rfl
    have reader : (provider.slot.concealed.reader.map fun _ => ()) = provider.slot.reader.map fun _ => () := by
      rw [Slot.reader_concealed]
      cases provider.slot.reader <;> rfl
    simp only [Step.concealed, step, Instance.logText, sourceLogText, slot, Slot.isSome_concealed, reader,
      Slot.logText_concealed]
    rfl
  | schema => exact ⟨rfl, rfl⟩
  | validateProvider config =>
    refine ⟨rfl, ?_⟩
    simp only [Step.concealed, step, validateConfig, config.checkKnown_concealed]
  | validate state => exact ⟨rfl, rfl⟩
  | configure config delivery =>
    obtain ⟨returned, after, diagnostics, sent⟩ := configure_concealed provider config delivery {}
    refine ⟨after, ?_⟩
    simp only [Step.concealed, step, Answer.withoutTokens, returned, after, diagnostics, sent]
    exact congrArg _ (Slot.isSome_concealed _)
  | install reader =>
    simp only [Step.concealed, step]
    rw [show provider.concealed.slot = provider.slot.concealed from rfl, Slot.install_concealed]
    cases provider.slot.install reader with
    | error failure => exact ⟨rfl, rfl⟩
    | ok slot => exact ⟨rfl, rfl⟩
  | read state delivery =>
    exact ⟨rfl, congrArg Answer.read (readState_concealed provider.slot state delivery {})⟩

/-! ### Processes -/

/-- A process with its tokens concealed. -/
def Process.concealed (process : Process) : Process :=
  { process with
    environment := process.environment.concealed
    memory := process.memory.map Slot.concealed }

/-- An act with the tokens in it concealed. -/
def Act.concealed : Act → Act
  | .surround environment => .surround environment.concealed
  | .take holder next => .take holder next.concealed
  | next => next

/-- Through which session a step was taken, and its answer with the tokens taken out of what was sent. -/
def Entry.shown (entry : Entry) : Session × Answer := (entry.session, entry.answer.withoutTokens)

namespace Process

theorem slot_concealed (process : Process) (session : Session) :
    process.concealed.slot session = (process.slot session).concealed := by
  unfold Process.slot concealed
  rw [List.getD_eq_getElem?_getD, List.getD_eq_getElem?_getD, List.getElem?_map]
  cases process.memory[session.place]? <;> rfl

theorem instanceAt_concealed (process : Process) (session : Session) :
    process.concealed.instanceAt session = (process.instanceAt session).concealed := by
  unfold instanceAt
  rw [slot_concealed]
  rfl

theorem take_concealed (process : Process) (session : Session) (next : Step) :
    (process.concealed.take session next.concealed).1 = (process.take session next).1.concealed ∧
      (process.concealed.take session next.concealed).2.withoutTokens =
        (process.take session next).2.withoutTokens := by
  obtain ⟨after, answer⟩ := step_concealed (process.instanceAt session) next
  rw [← instanceAt_concealed] at after answer
  refine ⟨?_, answer⟩
  unfold take
  simp only [after]
  unfold withSlot concealed
  rw [List.map_set]
  rfl

/-- An act shows nothing of the tokens. -/
theorem act_concealed (process : Process) (next : Act) :
    (process.concealed.act next.concealed).1 = (process.act next).1.concealed ∧
      (process.concealed.act next.concealed).2.map Entry.shown = (process.act next).2.map Entry.shown := by
  cases next with
  | openSession =>
    refine ⟨?_, rfl⟩
    simp only [Act.concealed, act, openSession, concealed, List.map_append, List.length_map]
    rfl
  | surround environment => exact ⟨rfl, rfl⟩
  | clone holder =>
    simp only [Act.concealed, act]
    rw [show process.concealed.holders = process.holders from rfl]
    cases process.holders[holder]? <;> exact ⟨rfl, rfl⟩
  | take holder next =>
    simp only [Act.concealed, act]
    rw [show process.concealed.holders = process.holders from rfl]
    cases process.holders[holder]? with
    | none => exact ⟨rfl, rfl⟩
    | some session =>
      obtain ⟨after, answer⟩ := process.take_concealed session next
      refine ⟨after, ?_⟩
      simp only [List.map_cons, List.map_nil, Entry.shown, record, answer]

/-- **A run shows nothing of the tokens.** -/
theorem perform_concealed (process : Process) (acts : List Act) :
    (process.concealed.perform (acts.map Act.concealed)).1 = (process.perform acts).1.concealed ∧
      (process.concealed.perform (acts.map Act.concealed)).2.map Entry.shown =
        (process.perform acts).2.map Entry.shown := by
  induction acts generalizing process with
  | nil => exact ⟨rfl, rfl⟩
  | cons first rest ih =>
    obtain ⟨after, taken⟩ := process.act_concealed first
    obtain ⟨last, others⟩ := ih (process.act first).1
    simp only [List.map_cons, perform, after, List.map_append, taken, others]
    exact ⟨last, trivial⟩

end Process

end SecretSource.Provider
