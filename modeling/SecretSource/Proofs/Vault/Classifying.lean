/-
**What a client makes of a reply.**

The status of a reply decides what its body counts as. Every status and every body is one case of `ReadsAs`, and
of one only; a look at the token sorts its replies in the same way, but for who is denied and for what is missing.

* `Means`, `successBody_eq_error_iff`: the failures that a status means.
* `ReadsAs`, `secretOfReply_eq_iff`: the cases of a reply to a read.
* `secretOfReply_missing_eq_ok_iff`: what is missing is told of exactly if it was removed.
* `Corresponds`, `tokenOfReply_missing`: how a look at the token fails.
* `replies_classified`: what a read and a look at the token give, whatever comes back.
-/

import SecretSource.Proofs.Except
import SecretSource.Vault.Client

namespace SecretSource.Http

open SecretSource.Url (Address)

variable {settings : Settings} {address : Address} {headers : List (String × String)} {delivery : Delivery}
  {reply : Reply}

/-- Where one reply is received, any other would be. -/
theorem exchange_result_of_other (received : (exchange settings address headers delivery).result = .ok reply)
    (other : Reply) : (exchange settings address headers (.answered other)).result = .ok other :=
  exchange_result_eq_ok_iff.mpr ⟨(exchange_result_eq_ok_iff.mp received).1, rfl⟩

/-- What is read of a body does not depend on which of two statuses that announce one comes with it. -/
theorem text?_withStatus {status : Nat} (announces : reply.status ∉ [204, 304])
    (announces' : status ∉ [204, 304]) : { reply with status }.text? = reply.text? := by
  simp only [List.mem_cons, List.not_mem_nil, or_false] at announces announces'
  unfold Reply.text?
  rw [if_neg announces, if_neg announces']

end SecretSource.Http

namespace SecretSource.Vault

open SecretSource.Http (Delivery Obstacle Reply isSuccess)

/-! ### Failures -/

/-- The failure of a status that tells of no success. Where a failure has a cause, the body explains it. -/
inductive Means (path body : String) : Nat → Failure → Prop where
  | missing : Means path body 404 (.secretNotFound path)
  | denied {status : Nat} (either : status = 401 ∨ status = 403) :
      Means path body status (.permissionDenied (path ++ ": " ++ explanation body))
  | limited : Means path body 429 .rateLimited
  | other {status : Nat} (fails : isSuccess status = false) (noneOf : status ∉ [401, 403, 404, 429]) :
      Means path body status (.unavailable ("Status " ++ Http.statusText status ++ ": " ++ explanation body))

variable {path body : String} {status : Nat}

/-- A status that means a failure tells of no success. -/
theorem Means.isSuccess_eq_false {failure : Failure} (means : Means path body status failure) :
    isSuccess status = false := by
  cases means with
  | missing => rfl
  | denied either => rcases either with rfl | rfl <;> rfl
  | limited => rfl
  | other fails => exact fails

/-- A status that tells of no success means a failure. -/
theorem exists_means (path body : String) (fails : isSuccess status = false) :
    ∃ failure, Means path body status failure := by
  by_cases common : status ∈ [401, 403, 404, 429]
  · simp only [List.mem_cons, List.not_mem_nil, or_false] at common
    rcases common with rfl | rfl | rfl | rfl
    · exact ⟨_, .denied (Or.inl rfl)⟩
    · exact ⟨_, .denied (Or.inr rfl)⟩
    · exact ⟨_, .missing⟩
    · exact ⟨_, .limited⟩
  · exact ⟨_, .other fails common⟩

theorem successBody_of_isSuccess (succeeds : isSuccess status = true) :
    successBody path status body = .ok body :=
  if_pos succeeds

/-- **A status means one failure, or none.** -/
theorem successBody_eq_error_iff {failure : Failure} :
    successBody path status body = .error failure ↔ Means path body status failure := by
  constructor
  · intro fails
    unfold successBody at fails
    split at fails
    · cases fails
    · rename_i noSuccess
      split at fails
      · cases fails
        exact .missing
      · cases fails
        exact .denied (Or.inl rfl)
      · cases fails
        exact .denied (Or.inr rfl)
      · cases fails
        exact .limited
      · cases fails
        refine .other (Bool.eq_false_iff.mpr noSuccess) ?_
        grind
  · intro means
    have noSuccess := means.isSuccess_eq_false
    unfold successBody
    rw [if_neg (Bool.eq_false_iff.mp noSuccess)]
    cases means with
    | missing => rfl
    | denied either => rcases either with rfl | rfl <;> rfl
    | limited => rfl
    | other fails noneOf =>
      simp only [List.mem_cons, List.not_mem_nil, or_false, not_or] at noneOf
      split <;> simp_all

/-! ### Reads -/

/-- A version that was deleted or destroyed, as a reply tells of it. -/
def SecretPayload.IsRemoved (payload : SecretPayload) : Prop :=
  payload.metadata.deletionTime.isSome = true ∨ payload.metadata.destroyed = true

/-- What a reply to a read tells of: a secret, or none because its body does not parse; what is missing, if it was
removed; or the failure that its status means. -/
inductive ReadsAs (path : String) (status : Nat) (body : String) : Except Failure Secret → Prop where
  | told {parsed : SecretBody} (succeeds : isSuccess status = true)
      (reads : SecretBody.ofText body = .ok parsed) : ReadsAs path status body (.ok (.ofPayload path parsed.data))
  | garbled {fault : Json.Fault} (succeeds : isSuccess status = true)
      (garbled : SecretBody.ofText body = .error fault) : ReadsAs path status body (.error (.decoding fault))
  | removed {parsed : SecretBody} (missing : status = 404) (reads : SecretBody.ofText body = .ok parsed)
      (gone : parsed.data.IsRemoved) : ReadsAs path status body (.ok (.ofPayload path parsed.data))
  | failed {failure : Failure} (means : Means path body status failure)
      (notRemoved : status = 404 → ∀ parsed, SecretBody.ofText body = .ok parsed → ¬ parsed.data.IsRemoved) :
      ReadsAs path status body (.error failure)

theorem removedVersion_eq_some_iff {secret : Secret} :
    removedVersion path body = some secret ↔
      ∃ parsed, SecretBody.ofText body = .ok parsed ∧ parsed.data.IsRemoved ∧
        secret = .ofPayload path parsed.data := by
  unfold removedVersion
  cases reads : SecretBody.ofText body with
  | error fault => simp
  | ok parsed =>
    simp only [Option.ite_none_right_eq_some, Bool.or_eq_true, Option.some.injEq, Except.ok.injEq, exists_eq_left',
      SecretPayload.IsRemoved]
    exact and_congr_right fun _ => eq_comm

/-- Nothing was removed where nothing is told of it. -/
theorem removedVersion_eq_none_iff :
    removedVersion path body = none ↔
      ∀ parsed, SecretBody.ofText body = .ok parsed → ¬ parsed.data.IsRemoved := by
  rw [Option.eq_none_iff_forall_ne_some]
  constructor
  · intro nothing parsed reads gone
    exact nothing _ (removedVersion_eq_some_iff.mpr ⟨parsed, reads, gone, rfl⟩)
  · intro notRemoved secret told
    obtain ⟨parsed, reads, gone, -⟩ := removedVersion_eq_some_iff.mp told
    exact notRemoved parsed reads gone

theorem secretOfReply_of_isSuccess (succeeds : isSuccess status = true) :
    secretOfReply path status body =
      ((SecretBody.ofText body).mapError .decoding).map fun parsed => Secret.ofPayload path parsed.data := by
  have other : status ≠ 404 := by
    rintro rfl
    cases succeeds
  unfold secretOfReply
  rw [if_neg other, successBody_of_isSuccess succeeds]
  show ((SecretBody.ofText body).mapError Failure.decoding >>= _) = _
  cases SecretBody.ofText body <;> rfl

theorem secretOfReply_of_means {failure : Failure} (means : Means path body status failure)
    (notRemoved : status = 404 → removedVersion path body = none) :
    secretOfReply path status body = .error failure := by
  unfold secretOfReply
  rw [successBody_eq_error_iff.mpr means]
  split
  · rw [notRemoved ‹_›]
    rfl
  · rfl

/-- **Every reply to a read is one case, and of one only.** -/
theorem secretOfReply_eq_iff {result : Except Failure Secret} :
    secretOfReply path status body = result ↔ ReadsAs path status body result := by
  constructor
  · rintro rfl
    cases succeeds : isSuccess status with
    | true =>
      rw [secretOfReply_of_isSuccess succeeds]
      cases reads : SecretBody.ofText body with
      | ok parsed => exact .told succeeds reads
      | error fault => exact .garbled succeeds reads
    | false =>
      obtain ⟨failure, means⟩ := exists_means path body succeeds
      by_cases removed : status = 404 ∧ ∃ secret, removedVersion path body = some secret
      · obtain ⟨rfl, secret, told⟩ := removed
        obtain ⟨parsed, reads, gone, rfl⟩ := removedVersion_eq_some_iff.mp told
        have given : secretOfReply path 404 body = .ok (.ofPayload path parsed.data) := by
          unfold secretOfReply
          rw [if_pos rfl, told]
        rw [given]
        exact .removed rfl reads gone
      · have notRemoved : status = 404 → removedVersion path body = none := fun missing =>
          Option.eq_none_iff_forall_ne_some.mpr fun secret told => removed ⟨missing, secret, told⟩
        rw [secretOfReply_of_means means notRemoved]
        exact .failed means fun missing => removedVersion_eq_none_iff.mp (notRemoved missing)
  · intro reading
    cases reading with
    | told succeeds reads => rw [secretOfReply_of_isSuccess succeeds, reads]; rfl
    | garbled succeeds garbled => rw [secretOfReply_of_isSuccess succeeds, garbled]; rfl
    | removed missing reads gone =>
      unfold secretOfReply
      rw [if_pos missing, removedVersion_eq_some_iff.mpr ⟨_, reads, gone, rfl⟩]
    | failed means notRemoved =>
      exact secretOfReply_of_means means fun missing => removedVersion_eq_none_iff.mpr (notRemoved missing)

/-- **What is missing is told of exactly if it would be told of otherwise, as removed.** -/
theorem secretOfReply_missing_eq_ok_iff {secret : Secret} :
    secretOfReply path 404 body = .ok secret ↔
      secretOfReply path 200 body = .ok secret ∧
        (secret.metadata.deletionTime.isSome = true ∨ secret.metadata.destroyed = true) := by
  rw [secretOfReply_eq_iff, secretOfReply_eq_iff]
  constructor
  · intro reading
    cases reading with
    | told succeeds => cases succeeds
    | removed _ reads gone => exact ⟨.told rfl reads, gone⟩
  · rintro ⟨reading, gone⟩
    cases reading with
    | told _ reads => exact .removed rfl reads gone
    | removed missing => cases missing

/-- Whatever else is missing is not found. -/
theorem eq_secretNotFound_of_secretOfReply {failure : Failure}
    (fails : secretOfReply path 404 body = .error failure) : failure = .secretNotFound path := by
  cases secretOfReply_eq_iff.mp fails with
  | garbled succeeds => cases succeeds
  | failed means =>
    cases means with
    | missing => rfl
    | denied either => rcases either with absurdly | absurdly <;> cases absurdly
    | other _ noneOf => exact absurd (by decide) noneOf

/-! ### Looks at the token -/

/-- The path of a look at the token, as its failures name it. -/
def lookupText : String := "auth/token/lookup-self"

theorem lookupText_eq : String.intercalate "/" lookupPath = lookupText := by decide

/-- A failure of a read with a status, and the failure of a look at the token with the same: the text is the same up
to the path that it names, and who is denied has a wrong token. -/
inductive Corresponds (path : String) : Failure → Failure → Prop where
  | denied (detail : String) :
      Corresponds path (.permissionDenied (path ++ ": " ++ detail))
        (.authenticationFailed (lookupText ++ ": " ++ detail))
  | same {failure : Failure} (noDenial : ∀ cause, failure ≠ .permissionDenied cause) :
      Corresponds path failure failure

/-- A look at the token fails for what fails a read, unless something is missing. -/
theorem exists_tokenOfReply_of_means {failure : Failure} (means : Means path body status failure)
    (other : status ≠ 404) :
    ∃ failure', tokenOfReply status body = .error failure' ∧ Corresponds path failure failure' := by
  unfold tokenOfReply
  rw [lookupText_eq]
  cases means with
  | missing => exact absurd rfl other
  | denied either =>
    rw [successBody_eq_error_iff.mpr (.denied either)]
    exact ⟨_, rfl, .denied _⟩
  | limited =>
    rw [successBody_eq_error_iff.mpr .limited]
    exact ⟨_, rfl, .same nofun⟩
  | other fails noneOf =>
    rw [successBody_eq_error_iff.mpr (.other fails noneOf)]
    exact ⟨_, rfl, .same nofun⟩

theorem tokenOfReply_of_isSuccess (succeeds : isSuccess status = true) :
    tokenOfReply status body = ((TokenBody.ofText body).mapError .decoding).map (·.data) := by
  unfold tokenOfReply
  rw [successBody_of_isSuccess succeeds]

theorem tokenOfReply_missing (body : String) : tokenOfReply 404 body = .error (.secretNotFound lookupText) := by
  unfold tokenOfReply
  rw [lookupText_eq, successBody_eq_error_iff.mpr .missing]

/-- A look at the token is never denied: who may not look has a wrong token. -/
theorem tokenOfReply_ne_permissionDenied (status : Nat) (body cause : String) :
    tokenOfReply status body ≠ .error (.permissionDenied cause) := by
  unfold tokenOfReply
  split
  · nofun
  · rename_i failure noDenial _
    intro same
    exact noDenial cause (Except.error.inj same)
  · cases TokenBody.ofText _ <;> nofun

/-! ### Clients -/

namespace Client

variable {client : Client} {request : SecretRequest} {delivery : Delivery} {reply : Reply}

/-- The reply to a read, or why there is none. -/
def replyTo (client : Client) (request : SecretRequest) (delivery : Delivery) : Except Obstacle Reply :=
  (Http.exchange client.settings (client.secretAddress request) (client.headers request.namespaceName)
    delivery).result

/-- The reply to a look at the token, or why there is none. -/
def replyToLookup (client : Client) (delivery : Delivery) : Except Obstacle Reply :=
  (Http.exchange client.settings (client.address (lookupPath.map String.toList)) (client.headers none)
    delivery).result

theorem read_result (client : Client) (request : SecretRequest) (delivery : Delivery) :
    (client.read request delivery).result =
      match client.replyTo request delivery with
      | .error obstacle => .error (.unavailable (client.config.baseUrl ++ ": " ++ obstacle.message))
      | .ok reply =>
        match reply.text? with
        | none => .error (.http "error decoding response body")
        | some body => secretOfReply request.path reply.status body := by
  unfold read send replyTo
  dsimp only
  cases (Http.exchange client.settings (client.secretAddress request) (client.headers request.namespaceName)
    delivery).result with
  | error obstacle => rfl
  | ok reply =>
    dsimp only
    cases reply.text? <;> rfl

theorem lookupSelf_result (client : Client) (delivery : Delivery) :
    (client.lookupSelf delivery).result =
      match client.replyToLookup delivery with
      | .error obstacle => .error (.unavailable (client.config.baseUrl ++ ": " ++ obstacle.message))
      | .ok reply =>
        match reply.text? with
        | none => .error (.http "error decoding response body")
        | some body => tokenOfReply reply.status body := by
  unfold lookupSelf send replyToLookup
  dsimp only
  cases (Http.exchange client.settings (client.address (lookupPath.map String.toList)) (client.headers none)
    delivery).result with
  | error obstacle => rfl
  | ok reply =>
    dsimp only
    cases reply.text? <;> rfl

/-- With its body, a reply to a read is sorted by its status. -/
theorem read_result_of_text {body : String} (replied : client.replyTo request delivery = .ok reply)
    (received : reply.text? = some body) :
    (client.read request delivery).result = secretOfReply request.path reply.status body := by
  rw [read_result, replied]
  simp only [received]

/-- With its body, a reply to a look at the token is sorted by its status. -/
theorem lookupSelf_result_of_text {body : String} (replied : client.replyToLookup delivery = .ok reply)
    (received : reply.text? = some body) :
    (client.lookupSelf delivery).result = tokenOfReply reply.status body := by
  rw [lookupSelf_result, replied]
  simp only [received]

/-- **Every reply is sorted, in the same way for a read and for a look at the token.** -/
theorem replies_classified (client : Client) (request : SecretRequest) (delivery : Delivery) :
    -- Without a reply, or without its body, both fail in the same way.
    (∀ obstacle, client.replyTo request delivery = .error obstacle →
      (client.read request delivery).result =
        .error (.unavailable (client.config.baseUrl ++ ": " ++ obstacle.message))) ∧
    (∀ obstacle, client.replyToLookup delivery = .error obstacle →
      (client.lookupSelf delivery).result =
        .error (.unavailable (client.config.baseUrl ++ ": " ++ obstacle.message))) ∧
    (∀ reply, client.replyTo request delivery = .ok reply → reply.text? = none →
      (client.read request delivery).result = .error (.http "error decoding response body")) ∧
    (∀ reply, client.replyToLookup delivery = .ok reply → reply.text? = none →
      (client.lookupSelf delivery).result = .error (.http "error decoding response body")) ∧
    -- With its body, a reply to a read is one case.
    (∀ reply body, client.replyTo request delivery = .ok reply → reply.text? = some body →
      ∀ result, (client.read request delivery).result = result ↔
        ReadsAs request.path reply.status body result) ∧
    (∀ reply body, client.replyTo request delivery = .ok reply → reply.text? = some body →
      reply.status = 404 →
      (∀ secret, (client.read request delivery).result = .ok secret ↔
        (client.read request (.answered { reply with status := 200 })).result = .ok secret ∧
          (secret.metadata.deletionTime.isSome = true ∨ secret.metadata.destroyed = true)) ∧
      ∀ failure, (client.read request delivery).result = .error failure →
        failure = .secretNotFound request.path) ∧
    -- A look at the token fails with the same, but for the two cases that are its own.
    (∀ reply, client.replyTo request delivery = .ok reply → client.replyToLookup delivery = .ok reply →
      isSuccess reply.status = false → reply.status ≠ 404 →
      ∃ failure failure', (client.read request delivery).result = .error failure ∧
        (client.lookupSelf delivery).result = .error failure' ∧ Corresponds request.path failure failure') ∧
    (∀ reply body, client.replyToLookup delivery = .ok reply → reply.text? = some body →
      reply.status = 404 →
      (client.lookupSelf delivery).result = .error (.secretNotFound "auth/token/lookup-self")) ∧
    (∀ cause, (client.lookupSelf delivery).result ≠ .error (.permissionDenied cause)) := by
  refine ⟨fun obstacle failed => ?_, fun obstacle failed => ?_, fun reply replied unread => ?_,
    fun reply replied unread => ?_, fun reply body replied received result => ?_,
    fun reply body replied received missing => ?_, fun reply replied replied' fails other => ?_,
    fun reply body replied received missing => ?_, fun cause => ?_⟩
  · rw [read_result, failed]
  · rw [lookupSelf_result, failed]
  · rw [read_result, replied]
    simp only [unread]
  · rw [lookupSelf_result, replied]
    simp only [unread]
  · rw [read_result_of_text replied received]
    exact secretOfReply_eq_iff
  · have replied' : client.replyTo request (.answered { reply with status := 200 }) =
        .ok { reply with status := 200 } := Http.exchange_result_of_other replied _
    have received' : { reply with status := 200 }.text? = some body :=
      (Http.text?_withStatus (by rw [missing]; decide) (by decide)).trans received
    rw [read_result_of_text replied received, read_result_of_text replied' received', missing]
    exact ⟨fun _ => secretOfReply_missing_eq_ok_iff, fun _ => eq_secretNotFound_of_secretOfReply⟩
  · cases received : reply.text? with
    | none =>
      rw [read_result, lookupSelf_result, replied, replied']
      simp only [received]
      exact ⟨_, _, rfl, rfl, .same nofun⟩
    | some body =>
      obtain ⟨failure, means⟩ := exists_means request.path body fails
      obtain ⟨failure', fails', corresponds⟩ := exists_tokenOfReply_of_means means other
      have given := secretOfReply_of_means means fun missing => absurd missing other
      exact ⟨failure, failure', (read_result_of_text replied received).trans given,
        (lookupSelf_result_of_text replied' received).trans fails', corresponds⟩
  · rw [lookupSelf_result_of_text replied received, missing, tokenOfReply_missing]
    rfl
  · rw [lookupSelf_result]
    cases client.replyToLookup delivery with
    | error obstacle => nofun
    | ok reply =>
      cases received : reply.text? with
      | none =>
        simp only [received]
        nofun
      | some body =>
        simp only [received]
        exact tokenOfReply_ne_permissionDenied _ body cause

/-- The reply for a version that was destroyed. -/
def destroyedReply : Reply where
  status := 404
  body := Text.Utf8.encode <| String.toList <|
    "\x7b\"data\":\x7b\"data\":null,\"metadata\":\x7b\"version\":2,\"destroyed\":true,"
      ++ "\"created_time\":\"2024-01-01T00:00:00Z\"\x7d\x7d\x7d"

/-- A version that was destroyed, and the same body with a denial. -/
theorem replies_classified_destroyed :
    let request : SecretRequest := { mount := "kv", name := "app" }
    let denied : Reply := { destroyedReply with status := 403 }
    ∃ client secret, make { address := "https://[::1]:8200/", token := "t" } = .ok client ∧
      client.replyTo request (.answered destroyedReply) = .ok destroyedReply ∧
      client.replyToLookup (.answered destroyedReply) = .ok destroyedReply ∧
      client.replyTo request (.answered denied) = .ok denied ∧
      client.replyToLookup (.answered denied) = .ok denied ∧
      (client.read request (.answered destroyedReply)).result = .ok secret ∧ secret.metadata.destroyed = true ∧
      (client.read request (.answered { destroyedReply with status := 200 })).result = .ok secret ∧
      (client.lookupSelf (.answered destroyedReply)).result = .error (.secretNotFound "auth/token/lookup-self") ∧
      ∃ failure failure', (client.read request (.answered denied)).result = .error failure ∧
        (client.lookupSelf (.answered denied)).result = .error failure' ∧
        Corresponds request.path failure failure' := by
  intro request denied
  have computed : ((make { address := "https://[::1]:8200/", token := "t" }).toOption.bind fun client =>
      (client.read request (.answered destroyedReply)).result.toOption.map fun secret =>
        (secret.metadata.destroyed, (client.replyTo request (.answered destroyedReply)).isOk,
          (client.replyToLookup (.answered destroyedReply)).isOk)) = some (true, true, true) := by
    decide +kernel
  obtain ⟨client, made, computed⟩ := Option.bind_eq_some_iff.mp computed
  obtain ⟨secret, read, computed⟩ := Option.map_eq_some_iff.mp computed
  rw [toOption_eq_some_iff] at made read
  obtain ⟨destroyed, replied, replied'⟩ : secret.metadata.destroyed = true ∧
      (client.replyTo request (.answered destroyedReply)).isOk = true ∧
      (client.replyToLookup (.answered destroyedReply)).isOk = true := by
    simpa using computed
  -- What is received of one reply is received of any.
  have received : ∀ reply, client.replyTo request (.answered reply) = .ok reply := by
    cases first : client.replyTo request (.answered destroyedReply) with
    | error obstacle =>
      rw [first] at replied
      cases replied
    | ok other => exact Http.exchange_result_of_other first
  have received' : ∀ reply, client.replyToLookup (.answered reply) = .ok reply := by
    cases first : client.replyToLookup (.answered destroyedReply) with
    | error obstacle =>
      rw [first] at replied'
      cases replied'
    | ok other => exact Http.exchange_result_of_other first
  obtain ⟨-, -, -, -, -, missing, -, lookup, -⟩ := replies_classified client request (.answered destroyedReply)
  obtain ⟨-, -, -, -, -, -, corresponds, -⟩ := replies_classified client request (.answered denied)
  obtain ⟨body, text⟩ : ∃ body, destroyedReply.text? = some body := ⟨_, rfl⟩
  exact ⟨client, secret, made, received _, received' _, received _, received' _, read, destroyed,
    (((missing _ _ (received _) text rfl).1 secret).mp read).1, lookup _ _ (received' _) text rfl,
    corresponds _ (received _) (received' _) rfl (by decide)⟩

end Client

end SecretSource.Vault
