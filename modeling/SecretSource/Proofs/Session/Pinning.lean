/-
**What becomes of a pinned version.**

A state may pin the version that is read. The request asks for that version, but what comes back is not compared with
it: the state that a read gives shows the number in the reply, in both of its places, and keeps the pinned one exactly
if the reply tells that one.

* `query_of_mem_readState_sent`: the pinned version is asked for.
* `versionAttribute_eq_known_iff`: which number a version that is filled in shows.
* `readState_pinned`: what a read shows of the version that was pinned.
* `readState_overwritesPinned`: a reply that tells another version, and one that tells no number that is held.
-/

import SecretSource.Proofs.Session.Filling
import SecretSource.Proofs.Session.Sending
import SecretSource.Proofs.Session.Validating
import SecretSource.Proofs.Vault.Components

namespace SecretSource.Provider

open SecretSource.Http (Delivery)
open SecretSource.Json
open SecretSource.Vault

variable {slot : Slot} {state after : SecretState} {delivery : Delivery} {diagnostics : Diagnostics}

/-! ### What is asked for -/

/-- A request that is built for a state with a pinned version asks for it, and the version is positive. -/
theorem version_of_buildRequest {request : SecretRequest} {version : Int}
    (pinned : state.version = .known version) (built : buildRequest state = .ok request) :
    0 < version ∧ request.version = some version.toNat := by
  rcases buildRequest_cases state with ⟨-, _, fails, -⟩ | ⟨-, -, _, fails, -⟩ | ⟨-, good, _, same, -, -, asks⟩
  · cases fails.symm.trans built
  · cases fails.symm.trans built
  · cases same.symm.trans built
    unfold SecretState.hasBadVersion at good
    rw [pinned] at good
    have positive : 0 < version := Int.not_le.mp (of_decide_eq_false good)
    refine ⟨positive, (asks _).mpr ⟨?_, ?_⟩⟩
    · omega
    · rw [pinned, Int.toNat_of_nonneg (Int.le_of_lt positive)]

/-- What is sent for a state carries the version that its request asks for in the query. -/
theorem query_of_mem_readState_sent {client : Client} {request : SecretRequest} {sent : Http.Request}
    (filled : slot = some (.client client)) (built : buildRequest state = .ok request)
    (member : sent ∈ (readState slot state delivery diagnostics).sent) :
    sent.address.query = askedQuery client.base.query request.version := by
  obtain ⟨client', request', filled', built', rfl⟩ := eq_composed_of_mem_readState_sent member
  cases filled.symm.trans filled'
  cases built.symm.trans built'
  exact (client.sameOutsidePath_withQuery request).query.symm

/-! ### What is shown -/

/-- A version that is filled in shows a number exactly if it is this number and 64 bits with a sign hold it. -/
theorem versionAttribute_eq_known_iff (told : Nat) {version : Int} (isVersion : version ≤ 9223372036854775807) :
    versionAttribute told = .known version ↔ (told : Int) = version := by
  unfold versionAttribute
  by_cases held : told ≤ 9223372036854775807
  · rw [if_pos held, Attribute.known.injEq]
  · rw [if_neg held]
    exact iff_of_false nofun fun same => held (by omega)

/-- **What becomes of a pinned version.** If a read of a state with a pinned version gives a state, then the pinned
version was asked for, of any reader, and by a client in the query of its request. The version of the state that is
given and the one in its metadata are the same, that of the secret; they are the pinned one exactly if the secret is of
this version, and of a client exactly if the body of the reply tells this number. -/
theorem readState_pinned {version : Int} (pinned : state.version = .known version)
    (isVersion : IsVersion state.version)
    (given : (readState slot state delivery diagnostics).state = some after) :
    ∃ request reader secret metadata, buildRequest state = .ok request ∧ 0 < version ∧
      request.version = some version.toNat ∧ slot = some reader ∧
      (reader.read request delivery).result = .ok secret ∧
      after.metadata = .known metadata ∧ metadata.version = after.version ∧
      after.version = versionAttribute secret.metadata.version ∧
      (after.version = .known version ↔ (secret.metadata.version : Int) = version) ∧
      ∀ client, reader = .client client →
        (∀ sent ∈ (readState slot state delivery diagnostics).sent,
          sent.address.query = askedQuery client.base.query (some version.toNat)) ∧
        ∃ reply body tree, ∃ told : Nat, delivery = .answered reply ∧ reply.text? = some body ∧
          SpellsDocument tree body ∧ toldVersion? tree = some (.number (some (.integer told))) ∧
          (after.version = .known version ↔ (told : Int) = version) := by
  obtain ⟨request, reader, secret, built, filled, answered, rfl⟩ := exists_reader_of_readState given
  obtain ⟨positive, asks⟩ := version_of_buildRequest pinned built
  have held := (isVersion version pinned).2
  have shown := versionAttribute_eq_known_iff secret.metadata.version held
  refine ⟨request, reader, secret, _, built, positive, asks, filled, answered, rfl, rfl, rfl, shown,
    fun client isClient => ⟨fun sent member => ?_, ?_⟩⟩
  · rw [← asks]
    exact query_of_mem_readState_sent (filled.trans (congrArg some isClient)) built member
  · subst isClient
    obtain ⟨reply, body, parsed, arrived, received, reads, rfl⟩ := Client.exists_payload_of_read answered
    obtain ⟨tree, spells, made⟩ := Shape.exists_spellsDocument SecretBody.shape_placeFree reads
    exact ⟨reply, body, tree, _, arrived, received, spells, toldVersion?_of_on_read made, shown⟩

/-- A secret of version 7. -/
def seventhVersion : Delivery :=
  .answered {
    status := 200
    body := Text.Utf8.encode <| String.toList <|
      "\x7b\"data\":\x7b\"data\":\x7b\"k\":\"v\"\x7d,\"metadata\":\x7b\"version\":7,"
        ++ "\"created_time\":\"2024-01-01T00:00:00Z\"\x7d\x7d\x7d" }

/-- What a read shows of the version: its own attribute, and the one in the metadata. -/
def ReadOutcome.shownVersions (outcome : ReadOutcome) : Option (List (Attribute Int)) :=
  outcome.state.map fun after => after.version :: (after.metadata.value?.map (·.version)).toList

/-- A state that is pinned to version 7 and read as version 7 stays pinned. -/
theorem readState_pinned_kept :
    let state : SecretState := { mount := .known "kv", name := .known "app", version := .known 7 }
    state.version = .known 7 ∧ IsVersion state.version ∧
    ∃ client after secret, Client.make { address := "http://[::1]:8200", token := "t" } = .ok client ∧
      (readState (some (.client client)) state seventhVersion {}).state = some after ∧
      after.version = versionAttribute secret.metadata.version ∧
      (after.version = .known 7 ↔ ((secret : Secret).metadata.version : Int) = 7) ∧ after.version = .known 7 := by
  intro state
  have isVersion : IsVersion state.version := fun version same => by
    cases same
    decide
  have computed : ((Client.make { address := "http://[::1]:8200", token := "t" }).toOption.map fun client =>
      (readState (some (.client client)) state seventhVersion {}).shownVersions) =
        some (some [.known 7, .known 7]) := by
    decide +kernel
  obtain ⟨client, made, computed⟩ := Option.map_eq_some_iff.mp computed
  obtain ⟨after, given, shown⟩ := Option.map_eq_some_iff.mp computed
  obtain ⟨_, _, secret, _, -, -, -, -, -, -, -, told, kept, -⟩ := readState_pinned rfl isVersion given
  exact ⟨rfl, isVersion, client, after, secret, toOption_eq_some_iff.mp made, given, told, kept,
    (List.cons.inj shown).1⟩

/-- **A read overwrites a pinned version.** The state is pinned to version 3. A reply that tells version 7 gives a state
of version 7, and one that tells 2⁶³ a state without a version, both without an error. -/
theorem readState_overwritesPinned :
    let state : SecretState := { mount := .known "kv", name := .known "app", version := .known 3 }
    ∃ client, Client.make { address := "http://[::1]:8200", token := "t" } = .ok client ∧
      [seventhVersion, removal].map (fun delivery =>
        let outcome := readState (some (.client client)) state delivery {}
        (outcome.diagnostics, outcome.shownVersions)) =
      [({}, some [.known 7, .known 7]), ({}, some [.null, .null])] := by
  intro state
  have computed : ((Client.make { address := "http://[::1]:8200", token := "t" }).toOption.map fun client =>
      [seventhVersion, removal].map fun delivery =>
        let outcome := readState (some (.client client)) state delivery {}
        (outcome.diagnostics, outcome.shownVersions)) =
      some [({}, some [.known 7, .known 7]), ({}, some [.null, .null])] := by
    decide +kernel
  obtain ⟨client, made, shown⟩ := Option.map_eq_some_iff.mp computed
  exact ⟨client, toOption_eq_some_iff.mp made, shown⟩

end SecretSource.Provider
