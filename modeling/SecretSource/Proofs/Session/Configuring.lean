/-
**Configuring is all or nothing.**

Configuring goes through four stages: the block is resolved, a client is built for what it resolves to, the
client looks at its token, and the client is put into the slot. Either all of them succeed, and nothing but
the slot is changed; or one of them is the first that fails, nothing is changed, and its failure is the one
error that is added.

* `ConnectsWith`, `FailsFirst`: the two things that can happen; `connectsWith_or_failsFirst` and
  `FailsFirst.unique`: exactly one of them does, and only one stage is the first that fails.
* `ConnectsWith.configure`, `FailsFirst.configure`: what comes of each of them.
* `lookup_of_mem_configure_sent`: what is sent, and where to; `connect_sent_ne_nil_iff`: when it is.
* `exists_connectsWith_iff`: which answers let all stages succeed.
* `configure_allOrNothing`: what configuring gives, in every state of the session.
-/

import SecretSource.Proofs.Session.Sending
import SecretSource.Proofs.Vault.Classifying
import SecretSource.Proofs.Vault.Components
import SecretSource.Proofs.Vault.Spelling

namespace SecretSource.Http

/-- A reply that is not truncated is received in full. -/
theorem Reply.exists_text_of_not_truncated {reply : Reply} (whole : reply.isTruncated = false) :
    ∃ body, reply.text? = some body := by
  unfold Reply.text?
  by_cases bodiless : reply.status = 204 ∨ reply.status = 304
  · exact ⟨"", if_pos bodiless⟩
  · rw [if_neg bodiless, whole]
    exact ⟨Text.Encoding.decode reply.body, rfl⟩

end SecretSource.Http

namespace SecretSource.Vault

open SecretSource.Http (Delivery Reply isSuccess)

/-- Who may not look at the token has a wrong token. -/
theorem tokenOfReply_of_denied {status : Nat} (denied : status = 401 ∨ status = 403) (body : String) :
    ∃ cause, tokenOfReply status body = .error (.authenticationFailed cause) := by
  rcases denied with rfl | rfl <;> exact ⟨_, rfl⟩

/-- A token is told of exactly by a reply of success with a body that tells of one. -/
theorem tokenOfReply_eq_ok_iff {status : Nat} {body : String} {token : TokenInfo} :
    tokenOfReply status body = .ok token ↔
      isSuccess status = true ∧ ∃ parsed, TokenBody.ofText body = .ok parsed ∧ parsed.data = token := by
  cases succeeds : isSuccess status with
  | true =>
    rw [tokenOfReply_of_isSuccess succeeds]
    constructor
    · intro told
      obtain ⟨parsed, reads, same⟩ := exists_of_map_eq_ok told
      exact ⟨rfl, parsed, mapError_eq_ok_iff.mp reads, same⟩
    · rintro ⟨-, parsed, reads, rfl⟩
      rw [reads]
      rfl
  | false =>
    obtain ⟨failure, means⟩ := exists_means (String.intercalate "/" lookupPath) body succeeds
    unfold tokenOfReply
    rw [successBody_eq_error_iff.mpr means]
    cases failure <;> simp

namespace Client

/-- A client looks at its token behind the version of the interface, at a path of its own. -/
theorem lookup_address_path (client : Client) :
    (client.address (lookupPath.map String.toList)).path.written =
      (client.address []).path.written ++ "/auth/token/lookup-self".toList := by
  rw [address_path_eq_append client (by decide), Url.Path.written_append]
  rfl

/-- Whether a client can look at its token: its token and its namespace can stand in headers, and the address of the
look can be sent. -/
def canLook (client : Client) : Bool :=
  Http.canSend (client.address (lookupPath.map String.toList)) (client.headers none)

/-- A look at the token is sent exactly if it can be, and is not refused on its way. -/
theorem lookupSelf_sent_ne_nil_iff {client : Client} {delivery : Delivery} :
    (client.lookupSelf delivery).sent ≠ [] ↔ client.canLook = true ∧ delivery ≠ .refused :=
  Http.exchange_sent_ne_nil_iff

/-- A look at the token sends one request, or none. -/
theorem lookupSelf_sent (client : Client) (delivery : Delivery) :
    (client.lookupSelf delivery).sent = [] ∨
      (client.lookupSelf delivery).sent = [client.composedLookup] :=
  Http.exchange_sent

/-- A look at the token that can be sent and is answered gets the answer. -/
theorem replyToLookup_eq_ok_iff {client : Client} {delivery : Delivery} {reply : Reply} :
    client.replyToLookup delivery = .ok reply ↔ client.canLook = true ∧ delivery = .answered reply :=
  Http.exchange_result_eq_ok_iff

/-- **A look at the token succeeds** exactly if it is sent, and answered in full by a reply of success with a body
that tells of a token. -/
theorem lookupSelf_eq_ok_iff {client : Client} {delivery : Delivery} {token : TokenInfo} :
    (client.lookupSelf delivery).result = .ok token ↔
      client.canLook = true ∧ ∃ reply text parsed, delivery = .answered reply ∧ isSuccess reply.status = true ∧
        reply.text? = some text ∧ TokenBody.ofText text = .ok parsed ∧ parsed.data = token := by
  constructor
  · intro looks
    rw [lookupSelf_result] at looks
    cases replied : client.replyToLookup delivery with
    | error obstacle =>
      rw [replied] at looks
      cases looks
    | ok reply =>
      rw [replied] at looks
      obtain ⟨can, answered⟩ := replyToLookup_eq_ok_iff.mp replied
      cases received : reply.text? with
      | none =>
        simp only [received] at looks
        cases looks
      | some text =>
        simp only [received] at looks
        obtain ⟨succeeds, parsed, reads, same⟩ := tokenOfReply_eq_ok_iff.mp looks
        exact ⟨can, reply, text, parsed, answered, succeeds, received, reads, same⟩
  · rintro ⟨can, reply, text, parsed, answered, succeeds, received, reads, same⟩
    rw [lookupSelf_result_of_text (replyToLookup_eq_ok_iff.mpr ⟨can, answered⟩) received]
    exact tokenOfReply_eq_ok_iff.mpr ⟨succeeds, parsed, reads, same⟩

/-- A look at the token that is answered by a denial, received in full, fails to authenticate. -/
theorem lookupSelf_of_denied {client : Client} {reply : Reply}
    (sent : (client.lookupSelf (.answered reply)).sent ≠ []) (whole : reply.isTruncated = false)
    (denied : reply.status = 401 ∨ reply.status = 403) :
    ∃ cause, (client.lookupSelf (.answered reply)).result = .error (.authenticationFailed cause) := by
  obtain ⟨body, received⟩ := Http.Reply.exists_text_of_not_truncated whole
  have replied : client.replyToLookup (.answered reply) = .ok reply :=
    replyToLookup_eq_ok_iff.mpr ⟨(lookupSelf_sent_ne_nil_iff.mp sent).1, rfl⟩
  rw [lookupSelf_result_of_text replied received]
  exact tokenOfReply_of_denied denied body

end Client

end SecretSource.Vault

namespace SecretSource.Provider

open SecretSource.Http (Delivery)

variable {provider : Instance} {config : Config} {delivery : Delivery}

/-- All stages of configuring succeed with a client: the slot is empty, the block resolves to what the client
is built for, and the client is told about its token. -/
structure ConnectsWith (provider : Instance) (config : Config) (delivery : Delivery)
    (client : Vault.Client) : Prop where
  empty : provider.slot = none
  resolves : config.resolve provider.environment = .ok client.config
  builds : Vault.Client.make client.config = .ok client
  looks : ∃ token, (client.lookupSelf delivery).result = .ok token

/-- A failure of the first stage of configuring that fails: every stage before it succeeds. -/
inductive FailsFirst (provider : Instance) (config : Config) (delivery : Delivery) : Failure → Prop where
  | resolving {failure : Failure} (fails : config.resolve provider.environment = .error failure) :
      FailsFirst provider config delivery failure
  | building {resolved : Vault.Config} {failure : Vault.Failure}
      (resolves : config.resolve provider.environment = .ok resolved)
      (fails : Vault.Client.make resolved = .error failure) :
      FailsFirst provider config delivery (.vault failure)
  | looking {resolved : Vault.Config} {client : Vault.Client} {failure : Vault.Failure}
      (resolves : config.resolve provider.environment = .ok resolved)
      (builds : Vault.Client.make resolved = .ok client)
      (fails : (client.lookupSelf delivery).result = .error failure) :
      FailsFirst provider config delivery (.vault failure)
  | installing {resolved : Vault.Config} {client : Vault.Client} {token : Vault.TokenInfo}
      (resolves : config.resolve provider.environment = .ok resolved)
      (builds : Vault.Client.make resolved = .ok client)
      (looks : (client.lookupSelf delivery).result = .ok token)
      (filled : provider.slot ≠ none) :
      FailsFirst provider config delivery .alreadyConfigured

/-! ### One stage after the other -/

theorem connect_of_unresolved {failure : Failure}
    (fails : config.resolve provider.environment = .error failure) :
    connect provider config delivery = { sent := [], result := .error failure } := by
  have unprepared : prepare provider.environment config = .error failure := by
    unfold prepare
    rw [fails]
    rfl
  unfold connect
  rw [unprepared]

theorem connect_of_unbuilt {resolved : Vault.Config} {failure : Vault.Failure}
    (resolves : config.resolve provider.environment = .ok resolved)
    (fails : Vault.Client.make resolved = .error failure) :
    connect provider config delivery = { sent := [], result := .error (.vault failure) } := by
  have unprepared : prepare provider.environment config = .error (.vault failure) := by
    unfold prepare
    rw [resolves]
    show (Vault.Client.make resolved).mapError Failure.vault = _
    rw [fails]
    rfl
  unfold connect
  rw [unprepared]

/-- A client that was built looks at its token, and is put into the slot if it may. -/
theorem connect_of_built {resolved : Vault.Config} {client : Vault.Client}
    (resolves : config.resolve provider.environment = .ok resolved)
    (builds : Vault.Client.make resolved = .ok client) :
    connect provider config delivery =
      { sent := (client.lookupSelf delivery).sent
        result := do
          let _ ← (client.lookupSelf delivery).result.mapError .vault
          provider.slot.install (.client client) } := by
  unfold connect
  rw [prepare_eq_ok_iff.mpr ⟨resolved, resolves, builds⟩]
  rfl

/-- If all stages succeed, connecting gives the client for the slot. -/
theorem ConnectsWith.result {client : Vault.Client} (connects : ConnectsWith provider config delivery client) :
    (connect provider config delivery).result = .ok (some (.client client)) := by
  obtain ⟨empty, resolves, builds, token, looks⟩ := connects
  rw [connect_of_built resolves builds, looks, empty]
  rfl

/-- If one stage is the first that fails, connecting gives its failure. -/
theorem FailsFirst.result {failure : Failure} (fails : FailsFirst provider config delivery failure) :
    (connect provider config delivery).result = .error failure := by
  cases fails with
  | resolving fails => rw [connect_of_unresolved fails]
  | building resolves fails => rw [connect_of_unbuilt resolves fails]
  | looking resolves builds fails =>
    rw [connect_of_built resolves builds, fails]
    rfl
  | installing resolves builds looks filled =>
    obtain ⟨present, slot⟩ := Option.ne_none_iff_exists'.mp filled
    rw [connect_of_built resolves builds, looks, slot]
    rfl

/-- Either all stages succeed, or one of them is the first that fails. -/
theorem connectsWith_or_failsFirst (provider : Instance) (config : Config) (delivery : Delivery) :
    (∃ client, ConnectsWith provider config delivery client) ∨
      ∃ failure, FailsFirst provider config delivery failure := by
  cases resolves : config.resolve provider.environment with
  | error failure => exact Or.inr ⟨failure, .resolving resolves⟩
  | ok resolved =>
    cases builds : Vault.Client.make resolved with
    | error failure => exact Or.inr ⟨.vault failure, .building resolves builds⟩
    | ok client =>
      cases looks : (client.lookupSelf delivery).result with
      | error failure => exact Or.inr ⟨.vault failure, .looking resolves builds looks⟩
      | ok token =>
        by_cases empty : provider.slot = none
        · obtain ⟨-, -, rfl, -⟩ := Vault.Client.make_eq_ok builds
          exact Or.inl ⟨client, empty, resolves, builds, token, looks⟩
        · exact Or.inr ⟨.alreadyConfigured, .installing resolves builds looks empty⟩

/-- If all stages succeed, none of them fails. -/
theorem ConnectsWith.not_failsFirst {client : Vault.Client} {failure : Failure}
    (connects : ConnectsWith provider config delivery client) :
    ¬ FailsFirst provider config delivery failure :=
  fun fails => by cases connects.result.symm.trans fails.result

/-- Only one stage is the first that fails, and it fails in one way. -/
theorem FailsFirst.unique {first second : Failure} (fails : FailsFirst provider config delivery first)
    (fails' : FailsFirst provider config delivery second) : first = second :=
  Except.error.inj (fails.result.symm.trans fails'.result)

/-! ### What is sent -/

/-- Whatever a block sends, it is one look at the token by the client that is built for what the block
resolves to. -/
theorem connect_sent (provider : Instance) (config : Config) (delivery : Delivery) :
    (connect provider config delivery).sent = [] ∨
    ∃ client, config.resolve provider.environment = .ok client.config ∧
      Vault.Client.make client.config = .ok client ∧
      (connect provider config delivery).sent = (client.lookupSelf delivery).sent ∧
      (connect provider config delivery).sent = [client.composedLookup] := by
  cases resolves : config.resolve provider.environment with
  | error failure => exact Or.inl (by rw [connect_of_unresolved resolves])
  | ok resolved =>
    cases builds : Vault.Client.make resolved with
    | error failure => exact Or.inl (by rw [connect_of_unbuilt resolves builds])
    | ok client =>
      rw [connect_of_built resolves builds]
      rcases client.lookupSelf_sent delivery with nothing | single
      · exact Or.inl nothing
      · obtain ⟨-, -, rfl, -⟩ := Vault.Client.make_eq_ok builds
        exact Or.inr ⟨client, rfl, builds, rfl, single⟩

/-- Something is sent exactly if a client is built for what the block resolves to, this client can look at its token,
and the look is not refused on its way. -/
theorem connect_sent_ne_nil_iff :
    (connect provider config delivery).sent ≠ [] ↔
      delivery ≠ .refused ∧ ∃ client : Vault.Client, config.resolve provider.environment = .ok client.config ∧
        Vault.Client.make client.config = .ok client ∧ client.canLook = true := by
  constructor
  · intro sent
    rcases connect_sent provider config delivery with nothing | ⟨client, resolves, builds, looks, -⟩
    · exact absurd nothing sent
    · rw [looks] at sent
      obtain ⟨can, notRefused⟩ := Vault.Client.lookupSelf_sent_ne_nil_iff.mp sent
      exact ⟨notRefused, client, resolves, builds, can⟩
  · rintro ⟨notRefused, client, resolves, builds, can⟩
    rw [connect_of_built resolves builds]
    exact Vault.Client.lookupSelf_sent_ne_nil_iff.mpr ⟨can, notRefused⟩

/-- All stages succeed exactly if the slot is empty, and the look at the token is sent and answered in full by a reply
of success with a body that tells of a token. -/
theorem exists_connectsWith_iff :
    (∃ client, ConnectsWith provider config delivery client) ↔
      provider.slot = none ∧ (connect provider config delivery).sent ≠ [] ∧
        ∃ reply text parsed, delivery = .answered reply ∧ Http.isSuccess reply.status = true ∧
          reply.text? = some text ∧ Vault.TokenBody.ofText text = .ok parsed := by
  constructor
  · rintro ⟨client, empty, resolves, builds, token, looks⟩
    obtain ⟨can, reply, text, parsed, answered, succeeds, received, reads, -⟩ :=
      Vault.Client.lookupSelf_eq_ok_iff.mp looks
    have notRefused : delivery ≠ .refused := by
      intro refused
      cases refused.symm.trans answered
    exact ⟨empty, connect_sent_ne_nil_iff.mpr ⟨notRefused, client, resolves, builds, can⟩, reply, text, parsed,
      answered, succeeds, received, reads⟩
  · rintro ⟨empty, sent, reply, text, parsed, answered, succeeds, received, reads⟩
    obtain ⟨-, client, resolves, builds, can⟩ := connect_sent_ne_nil_iff.mp sent
    exact ⟨client, empty, resolves, builds, parsed.data, Vault.Client.lookupSelf_eq_ok_iff.mpr
      ⟨can, reply, text, parsed, answered, succeeds, received, reads, rfl⟩⟩

/-- Configuring sends one request, or none. -/
theorem configure_sent_length (provider : Instance) (config : Config) (delivery : Delivery)
    (diagnostics : Diagnostics) :
    (configure provider config delivery diagnostics).sent.length ≤ 1 := by
  rw [configure_sent]
  rcases connect_sent provider config delivery with nothing | ⟨client, -, -, -, single⟩
  · rw [nothing]
    exact Nat.zero_le 1
  · rw [single]
    exact Nat.le_refl 1

/-- What configuring sends is a `GET` by the client that is built for what the block resolves to, and goes to
the address of this client, to a path of its own behind the version of the interface. -/
theorem lookup_of_mem_configure_sent {diagnostics : Diagnostics} {request : Http.Request}
    (member : request ∈ (configure provider config delivery diagnostics).sent) :
    ∃ client : Vault.Client, config.resolve provider.environment = .ok client.config ∧
      Vault.Client.make client.config = .ok client ∧
      request = client.composedLookup ∧ request.method = "GET" ∧
      (Http.toldAddress client.base).SameOutsidePath request.address ∧
      request.address.path.written =
        (client.address []).path.written ++ "/auth/token/lookup-self".toList ∧
      ∃ front blanks : Url.Path, client.base.path = front ++ blanks ∧ (∀ blank ∈ blanks, blank = []) ∧
        (client.address []).path = front ++ ["v1".toList] := by
  obtain ⟨client, prepared, rfl⟩ := eq_composedLookup_of_mem_configure_sent member
  obtain ⟨resolved, resolves, builds⟩ := prepare_eq_ok_iff.mp prepared
  obtain ⟨-, -, rfl, -⟩ := Vault.Client.make_eq_ok builds
  exact ⟨client, resolves, builds, rfl, rfl,
    Http.sameOutsidePath_toldAddress (client.sameOutsidePath_address _), client.lookup_address_path,
    Url.Path.exists_pushVersion client.base.path⟩

/-- A look at the token that is denied, in a reply that is received in full, is the failure of a block,
whether or not the slot is filled. -/
theorem failsFirst_of_denied {reply : Http.Reply}
    (sent : (connect provider config (.answered reply)).sent ≠ []) (whole : reply.isTruncated = false)
    (denied : reply.status = 401 ∨ reply.status = 403) :
    ∃ cause, FailsFirst provider config (.answered reply) (.vault (.authenticationFailed cause)) := by
  rcases connect_sent provider config (.answered reply) with nothing | ⟨client, resolves, builds, looks, -⟩
  · exact absurd nothing sent
  · rw [looks] at sent
    obtain ⟨cause, fails⟩ := Vault.Client.lookupSelf_of_denied sent whole denied
    exact ⟨cause, .looking resolves builds fails⟩

/-! ### Configuring -/

/-- If all stages succeed, the client is put into the slot and nothing else is changed. -/
theorem ConnectsWith.configure {client : Vault.Client}
    (connects : ConnectsWith provider config delivery client) (diagnostics : Diagnostics) :
    configure provider config delivery diagnostics = {
      returned := true
      provider := { provider with slot := some (.client client) }
      diagnostics
      sent := (connect provider config delivery).sent } := by
  simp only [Provider.configure, connects.result]

/-- If a stage fails, its failure is reported and nothing else is changed. -/
theorem FailsFirst.configure {failure : Failure} (fails : FailsFirst provider config delivery failure)
    (diagnostics : Diagnostics) :
    configure provider config delivery diagnostics = {
      returned := false
      provider
      diagnostics := diagnostics.add failure.report
      sent := (connect provider config delivery).sent } := by
  simp only [Provider.configure, fails.result]

/-- Configuring is done exactly if all stages succeed. -/
theorem returned_configure_iff (diagnostics : Diagnostics) :
    (Provider.configure provider config delivery diagnostics).returned = true ↔
      ∃ client, ConnectsWith provider config delivery client := by
  rcases connectsWith_or_failsFirst provider config delivery with ⟨client, connects⟩ | ⟨failure, fails⟩
  · rw [connects.configure]
    exact iff_of_true rfl ⟨client, connects⟩
  · rw [fails.configure]
    exact iff_of_false Bool.false_ne_true fun ⟨_, connects⟩ => connects.not_failsFirst fails

/-- **Configuring is all or nothing.** It is done exactly if the slot is empty, the block resolves, a client
is built for what it resolves to and this client may look at its token; then no error is added and the slot
holds this client. Otherwise nothing is changed and one error is added, the report of the first stage that
fails. Nothing is sent for a block that does not resolve, and never more than one request: the look of the
client at its token. It is sent whenever it can be and is not refused on its way. If it is answered in full by a
success with a body that tells of a token, an empty slot is filled, and by nothing else; if it is denied, and the reply
is received in full, the error says so of the token, whatever the slot holds. -/
theorem configure_allOrNothing (provider : Instance) (config : Config) (delivery : Delivery)
    (diagnostics : Diagnostics) :
    let outcome := configure provider config delivery diagnostics
    (outcome.returned = true ↔ provider.slot = none ∧ ∃ resolved client token,
      config.resolve provider.environment = .ok resolved ∧ Vault.Client.make resolved = .ok client ∧
      (client.lookupSelf delivery).result = .ok token) ∧
    (outcome.returned = true → outcome.diagnostics = diagnostics ∧ ∃ client,
      config.resolve provider.environment = .ok client.config ∧
      Vault.Client.make client.config = .ok client ∧
      outcome.provider = { provider with slot := some (.client client) }) ∧
    (outcome.returned = false → outcome.provider = provider ∧ ∃ failure,
      FailsFirst provider config delivery failure ∧
      (∀ other, FailsFirst provider config delivery other → other = failure) ∧
      outcome.diagnostics.errors =
        diagnostics.errors ++ [⟨failure.summary, failure.message, failure.subject?⟩] ∧
      outcome.diagnostics.warnings = diagnostics.warnings) ∧
    (∀ failure, config.resolve provider.environment = .error failure → outcome.sent = []) ∧
    outcome.sent.length ≤ 1 ∧
    (outcome.sent ≠ [] ↔ delivery ≠ .refused ∧ ∃ client : Vault.Client,
      config.resolve provider.environment = .ok client.config ∧
      Vault.Client.make client.config = .ok client ∧ client.canLook = true) ∧
    (∀ request ∈ outcome.sent, ∃ client : Vault.Client,
      config.resolve provider.environment = .ok client.config ∧
      Vault.Client.make client.config = .ok client ∧
      request = client.composedLookup ∧ request.method = "GET" ∧
      (Http.toldAddress client.base).SameOutsidePath request.address ∧
      request.address.path.written =
        (client.address []).path.written ++ "/auth/token/lookup-self".toList ∧
      ∃ front blanks : Url.Path, client.base.path = front ++ blanks ∧ (∀ blank ∈ blanks, blank = []) ∧
        (client.address []).path = front ++ ["v1".toList]) ∧
    (outcome.returned = true ↔ provider.slot = none ∧ outcome.sent ≠ [] ∧ ∃ reply text parsed,
      delivery = .answered reply ∧ Http.isSuccess reply.status = true ∧ reply.text? = some text ∧
      Vault.TokenBody.ofText text = .ok parsed) ∧
    ∀ reply, delivery = .answered reply → outcome.sent ≠ [] → reply.isTruncated = false →
      reply.status = 401 ∨ reply.status = 403 → outcome.returned = false ∧ ∃ detail,
        outcome.diagnostics.errors =
          diagnostics.errors ++ [⟨"Vault authentication failed", detail, some "token"⟩] := by
  intro outcome
  have sends : outcome.sent = (connect provider config delivery).sent :=
    configure_sent provider config delivery diagnostics
  refine ⟨(returned_configure_iff diagnostics).trans ⟨?_, ?_⟩, fun returned => ?_, fun refused => ?_,
    fun failure fails => ?_, configure_sent_length provider config delivery diagnostics,
    sends ▸ connect_sent_ne_nil_iff, fun request => lookup_of_mem_configure_sent,
    (returned_configure_iff diagnostics).trans (sends ▸ exists_connectsWith_iff),
    fun reply answered sent whole denied => ?_⟩
  · rintro ⟨client, empty, resolves, builds, token, looks⟩
    exact ⟨empty, client.config, client, token, resolves, builds, looks⟩
  · rintro ⟨empty, resolved, client, token, resolves, builds, looks⟩
    obtain ⟨-, -, rfl, -⟩ := Vault.Client.make_eq_ok builds
    exact ⟨client, empty, resolves, builds, token, looks⟩
  · obtain ⟨client, connects⟩ := (returned_configure_iff diagnostics).mp returned
    have shape : outcome = _ := connects.configure diagnostics
    rw [shape]
    exact ⟨rfl, client, connects.resolves, connects.builds, rfl⟩
  · rcases connectsWith_or_failsFirst provider config delivery with ⟨client, connects⟩ | ⟨failure, fails⟩
    · cases refused.symm.trans ((returned_configure_iff diagnostics).mpr ⟨client, connects⟩)
    · have shape : outcome = _ := fails.configure diagnostics
      rw [shape]
      exact ⟨rfl, failure, fails, fun other fails' => fails'.unique fails, rfl, rfl⟩
  · rw [sends, connect_of_unresolved fails]
  · subst answered
    obtain ⟨cause, denies⟩ := failsFirst_of_denied (sends ▸ sent) whole denied
    have shape : outcome = _ := denies.configure diagnostics
    rw [shape]
    exact ⟨rfl, (Failure.vault (.authenticationFailed cause)).message, rfl⟩

/-- A token that is denied is told of, and not the slot that is filled already. -/
example :
    let provider : Instance := {
      version := "0.1.0"
      environment := fun _ => none
      slot := some (.custom fun _ => .error .rateLimited) }
    let denial : Delivery := .answered { status := 403, body := [] }
    let outcome := configure provider (.ofTexts "https://[::1]:8200" "t" none) denial {}
    outcome.sent.length = 1 ∧ outcome.diagnostics.errors.map (fun error => (error.summary, error.subject)) =
      [("Vault authentication failed", some "token")] := by
  decide +kernel

end SecretSource.Provider
