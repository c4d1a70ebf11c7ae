/-
**The token reaches only its header.**

Two runs that differ only in their tokens cannot be told apart by their answers, if of each two tokens both
are blank or neither is, and both can be the value of a header or neither can. What they send differs only
in the value of one header: the token of the client that sends.

* `logText_make_eq`: log lines of clients that are built for two tokens.
* `session_tokensConcealed`: two whole runs.
-/

import SecretSource.Proofs.Session.Concealment
import SecretSource.Proofs.Session.Sending

namespace SecretSource.Provider

open SecretSource.Http (Delivery)
open SecretSource.Url (Address)

/-- Processes that are started alike, with their tokens concealed, are concealed alike. -/
theorem Process.concealed_start (version : String) (environment : Environment) :
    (start version environment).concealed = start version environment.concealed := rfl

/-- Clients that are built for two tokens have the same log line. -/
theorem logText_make_eq {config : Vault.Config} {token token' : String} {client client' : Vault.Client}
    (made : Vault.Client.make { config with token := token } = .ok client)
    (made' : Vault.Client.make { config with token := token' } = .ok client')
    (writeAddress : Address → String) (writeSettings : Http.Settings → String) :
    client.logText writeAddress writeSettings = client'.logText writeAddress writeSettings := by
  obtain ⟨-, base, given, settings⟩ := Vault.Client.make_eq_ok made
  obtain ⟨-, base', given', settings'⟩ := Vault.Client.make_eq_ok made'
  have sameBase : client.base = client'.base :=
    Url.Target.web.inj (Except.ok.inj (base.symm.trans base'))
  have sameConfig : client.config.logText = client'.config.logText := by
    rw [given, given', config.logText_withToken token, config.logText_withToken token']
  unfold Vault.Client.logText
  rw [sameBase, sameConfig, settings, settings']

/-- **The token reaches only its header.** Let two runs have the same steps and replies, in environments and
with blocks that are the same once every token is concealed. Then they give the same answers, but for the
value of the token in the requests that were sent; and in every request that value is the token of the
client that sends it, which is the one that the block of the client resolved to. Two tokens are the same once
they are concealed exactly if both are blank or neither is, and both can be the value of a header or neither
can. Log lines of blocks, configurations and clients that differ only in the token are equal. -/
theorem session_tokensConcealed (version : String) {environment environment' : Environment}
    {acts acts' : List Act} (sameEnvironment : environment.concealed = environment'.concealed)
    (sameActs : acts.map Act.concealed = acts'.map Act.concealed) :
    let taken := ((Process.start version environment).perform acts).2
    taken.map Entry.shown = ((Process.start version environment').perform acts').2.map Entry.shown ∧
    (∀ entry ∈ taken, ∀ request ∈ entry.answer.sent, ∃ source ∈ taken, ∃ client,
      source.session.place = entry.session.place ∧ (source = entry ∨ source.answer.isFilling = true) ∧
      source.next.reader? source.environment = some (.client client) ∧
      request.headers.find? "x-vault-token" = some client.config.token ∧
      ∀ config delivery, source.next = .configure config delivery →
        ∃ resolved, config.resolve source.environment = .ok resolved ∧ client.config = resolved) ∧
    ∀ token token' : String,
      (Vault.concealed token = Vault.concealed token' ↔
        (Unicode.isBlankText token = true ↔ Unicode.isBlankText token' = true) ∧
        (Http.isHeaderValue token = true ↔ Http.isHeaderValue token' = true)) ∧
      (∀ config : Config, { config with token := .known token }.logText =
        { config with token := .known token' }.logText) ∧
      (∀ config : Vault.Config, { config with token := token }.logText =
        { config with token := token' }.logText) ∧
      ∀ (config : Vault.Config) (client client' : Vault.Client),
        Vault.Client.make { config with token := token } = .ok client →
        Vault.Client.make { config with token := token' } = .ok client' →
        ∀ writeAddress writeSettings,
          client.logText writeAddress writeSettings = client'.logText writeAddress writeSettings := by
  intro taken
  refine ⟨?_, fun entry member request sent => ?_, fun token token' =>
    ⟨Vault.concealed_eq_iff, fun _ => rfl, fun _ => rfl, fun _ _ _ made made' => logText_make_eq made made'⟩⟩
  · have shown := ((Process.start version environment).perform_concealed acts).2
    have shown' := ((Process.start version environment').perform_concealed acts').2
    rw [Process.concealed_start, sameEnvironment, sameActs, ← Process.concealed_start] at shown
    exact shown.symm.trans shown'
  · obtain ⟨source, inRun, client, shared, brought, composed⟩ := exists_source_of_mem_sent member sent
    have holds : (source = entry ∨ source.answer.isFilling = true) ∧
        request.headers.find? "x-vault-token" = some client.config.token := by
      rcases composed with ⟨same, -, rfl⟩ | ⟨filling, _, _, built, -, -, rfl⟩
      · exact ⟨Or.inl same, client.find?_token_compose _ none⟩
      · exact ⟨Or.inr filling, client.find?_token_compose _ built.namespaceName⟩
    refine ⟨source, inRun, client, shared, holds.1, brought, holds.2, fun config delivery configures => ?_⟩
    rw [configures] at brought
    obtain ⟨resolved, resolves, -, same⟩ := exists_resolved_of_reader? brought
    exact ⟨resolved, resolves, same⟩

/-- Two tokens from the environment, and two from a block, in runs that send requests with each. -/
theorem session_tokensConcealed_bothSources :
    let environment : String → Environment := fun token name =>
      if name = "VAULT_TOKEN" then some token else none
    let acts : String → List Act := fun token =>
      [.take 0 (.configure { address := .known "https://[::1]:8200" } acceptance), .clone 0,
        .take 1 (.read (.ofNames "kv" "n") .dropped), .openSession,
        .take 2 (.configure (.ofTexts "https://[::1]:8200" token none) acceptance), .take 2 .status]
    (environment "s.first").concealed = (environment "hvs.second").concealed ∧
    (acts "t").map Act.concealed = (acts "u").map Act.concealed ∧
    (((Process.start "0.1.0" (environment "s.first")).perform (acts "t")).2.map fun entry =>
      entry.answer.sent.length) = [1, 1, 1, 0] ∧
    ((Process.start "0.1.0" (environment "s.first")).perform (acts "t")).2.map Entry.shown =
      ((Process.start "0.1.0" (environment "hvs.second")).perform (acts "u")).2.map Entry.shown := by
  intro environment acts
  have sameEnvironment : (environment "s.first").concealed = (environment "hvs.second").concealed := by
    funext name
    by_cases token : name = "VAULT_TOKEN"
    · rw [token]
      decide
    · simp only [Environment.concealed, environment, if_neg token]
  have sameToken : Vault.concealed "t" = Vault.concealed "u" := by decide
  have sameActs : (acts "t").map Act.concealed = (acts "u").map Act.concealed := by
    simp only [acts, List.map_cons, List.map_nil, Act.concealed, Step.concealed, Config.concealed,
      Config.ofTexts, Attribute.map, sameToken]
  have sent : (((Process.start "0.1.0" (environment "s.first")).perform (acts "t")).2.map fun entry =>
      entry.answer.sent.length) = [1, 1, 1, 0] := by
    decide +kernel
  exact ⟨sameEnvironment, sameActs, sent, (session_tokensConcealed "0.1.0" sameEnvironment sameActs).1⟩

end SecretSource.Provider
