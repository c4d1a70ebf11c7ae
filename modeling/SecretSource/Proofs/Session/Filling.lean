/-
**What a read gives fits the schema.**

Whatever state is read and whatever the vault replies: if the read gives a state, the text of this state is an object
with the attributes of the schema, its computed attributes are known, and they are made of the mount, the name and the
reply. Of what had been computed before, nothing is left.

* `toldVersion?_of_on_read`: the version that is read of a reply is the number in its body.
* `withSecret_hasVersions`: no version that is filled in is out of range.
* `IsFilled`: what it means that a read fills a state; `readState_fills`: it does.
-/

import SecretSource.Proofs.Session.Refinement
import SecretSource.Proofs.State.Arrival
import SecretSource.Proofs.State.RoundTrip
import SecretSource.Proofs.State.Schema
import SecretSource.Proofs.Vault.Identity

namespace SecretSource.Provider

open SecretSource.Http (Delivery)
open SecretSource.Json
open SecretSource.Vault

/-! ### The version that a reply tells -/

/-- What a body tells as the version of a secret. -/
def toldVersion? (tree : Tree) : Option Tree :=
  ((tree.part? "data" 0).bind (·.part? "metadata" 1)).bind (·.part? "version" 3)

/-- What is read as a natural number is one. -/
theorem eq_of_on_readNatural {limit : Nat} {tree : Tree} {value : Nat}
    (made : readNatural.on limit tree = some value) : tree = .number (some (.integer value)) := by
  cases tree with
  | number number =>
    rcases number with _ | ⟨whole⟩ | ⟨binary⟩
    · cases made
    · have natural := (toOption_readNatural_integer limit whole .start).symm.trans made
      split at natural
      · rename_i positive
        rw [← Option.some.inj natural, Int.toNat_of_nonneg positive]
      · cases natural
    · cases made
  | text text => cases text <;> cases made
  | _ => cases made

/-- What is told about a version holds the number that is told. -/
theorem version_of_on_read {limit : Nat} {tree : Tree} {told : VersionPayload}
    (made : Reader.on VersionPayload.shape.read limit tree = some told) :
    tree.part? "version" 3 = some (.number (some (.integer told.version))) := by
  have isField : VersionPayload.shape.fields = VersionPayload.shape.fields.take 3 ++
      .ofSlot "version" (·.version) readNatural (fun draft value => { draft with version := some value }) ::
      VersionPayload.shape.fields.drop 4 := rfl
  obtain ⟨draft, finished, held⟩ := Shape.exists_draft_of_on_read_at VersionPayload.shape_placeFree isField
    (by decide) (fun _ _ => rfl) (fun field member => by
      simp only [VersionPayload.shape, List.take, List.drop, List.cons_append, List.nil_append, List.mem_cons,
        List.not_mem_nil, or_false] at member
      rcases member with rfl | rfl | rfl | rfl <;> exact Shape.keeps_ofSlot fun _ _ => rfl) made
  have place : (VersionPayload.shape.fields.take 3).length = 3 := rfl
  rw [place] at held
  obtain ⟨createdTime, deletionTime, destroyed, version, customMetadata⟩ := draft
  cases found : tree.part? "version" 3 with
  | none =>
    rw [found] at held
    cases held
    cases createdTime <;> cases finished
  | some part =>
    rw [found] at held
    obtain ⟨number, isNumber, held⟩ := held
    cases held
    cases createdTime with
    | none => cases finished
    | some createdTime =>
      cases finished
      rw [eq_of_on_readNatural isNumber]

/-- A version of a secret holds what is told about it. -/
theorem exists_metadata_of_on_read {limit : Nat} {tree : Tree} {payload : SecretPayload}
    (made : Reader.on SecretPayload.shape.read limit tree = some payload) :
    ∃ part, tree.part? "metadata" 1 = some part ∧
      Reader.on VersionPayload.shape.read (limit - 1) part = some payload.metadata := by
  have isField : SecretPayload.shape.fields = SecretPayload.shape.fields.take 1 ++
      .ofSlot "metadata" (·.metadata) VersionPayload.shape.read
        (fun draft value => { draft with metadata := some value }) ::
      SecretPayload.shape.fields.drop 2 := rfl
  obtain ⟨draft, finished, held⟩ := Shape.exists_draft_of_on_read_at SecretPayload.shape_placeFree isField
    (by decide) (fun _ _ => rfl) (fun field member => by
      simp only [SecretPayload.shape, List.take, List.drop, List.append_nil, List.mem_singleton] at member
      subst member
      exact Shape.keeps_ofSlot fun _ _ => rfl) made
  have place : (SecretPayload.shape.fields.take 1).length = 1 := rfl
  rw [place] at held
  obtain ⟨values, metadata⟩ := draft
  cases found : tree.part? "metadata" 1 with
  | none =>
    rw [found] at held
    cases held
    cases finished
  | some part =>
    rw [found] at held
    obtain ⟨told, isTold, held⟩ := held
    cases held
    cases finished
    exact ⟨part, rfl, isTold⟩

/-- **The version that is read of a body is the number that it tells.** -/
theorem toldVersion?_of_on_read {limit : Nat} {tree : Tree} {body : SecretBody}
    (made : Reader.on SecretBody.shape.read limit tree = some body) :
    toldVersion? tree = some (.number (some (.integer body.data.metadata.version))) := by
  obtain ⟨part, isPart, madePart⟩ := exists_payload_of_on_read made
  obtain ⟨inner, isInner, madeInner⟩ := exists_metadata_of_on_read madePart
  rw [toldVersion?, isPart, Option.bind_some, isInner, Option.bind_some, version_of_on_read madeInner]

/-! ### What is filled in -/

/-- A version that is filled in is a number of 64 bits with a sign, if it is there. -/
theorem isVersion_versionAttribute (version : Nat) : IsVersion (versionAttribute version) := by
  intro number isNumber
  unfold versionAttribute at isNumber
  split at isNumber
  · cases isNumber
    omega
  · cases isNumber

/-- Whatever secret fills a state, the versions of the state are such numbers. -/
theorem withSecret_hasVersions (state : SecretState) (secret : Secret) : (state.withSecret secret).HasVersions := by
  refine ⟨isVersion_versionAttribute _, fun metadata isMetadata => ?_⟩
  cases isMetadata
  exact isVersion_versionAttribute _

/-- All texts of a table are known. -/
def IsKnownTable (field : Attribute TextTable) : Prop :=
  ∃ table, field = .known table ∧ ∀ row ∈ table.rows, ∃ text, row.2 = .known text

/-- A table of a secret is known, and so are all its texts. -/
theorem isKnownTable_map (table : Table String) : IsKnownTable (.known (table.map .known)) := by
  refine ⟨_, rfl, fun row member => ?_⟩
  obtain ⟨row', -, rfl⟩ := List.mem_map.mp member
  exact ⟨row'.2, rfl⟩

/-- The mount and the name that a request names are the ones of its state. -/
theorem exists_names_of_buildRequest {state : SecretState} {request : SecretRequest}
    (built : buildRequest state = .ok request) :
    state.mount = .known request.mount ∧ state.name = .known request.name := by
  have known {subject text : String} {value : Attribute String} (given : required subject value = .ok text) :
      value = .known text := by
    unfold required at given
    dsimp only at given
    split at given
    · split at given
      · cases given
      · rw [Except.ok.inj given]
    · cases given
    · cases given
  unfold buildRequest at built
  split at built
  · cases built
  · cases built
  · cases built
  · rename_i mount name isMount isName
    split at built
    · cases built
    · cases built
      exact ⟨known isMount, known isName⟩

/-- A read that gives a state has filled it with the secret that its client read. -/
theorem exists_secret_of_readState {client : Client} {state after : SecretState} {delivery : Delivery}
    {diagnostics : Diagnostics}
    (given : (readState (some (.client client)) state delivery diagnostics).state = some after) :
    ∃ request secret, buildRequest state = .ok request ∧ (client.read request delivery).result = .ok secret ∧
      after = state.withSecret secret := by
  obtain ⟨request, reader, secret, built, filled, answered, rfl⟩ := exists_reader_of_readState given
  cases filled
  exact ⟨request, secret, built, answered, rfl⟩

/-! ### What a read gives -/

/-- A state is filled from the state that was read and the reply to the read. -/
structure IsFilled (before : SecretState) (delivery : Delivery) (after : SecretState) : Prop where
  /-- Its text spells its JSON. -/
  spelled : SpellsDocument after.toJson.tree after.toJson.toText
  /-- Its JSON has exactly the attributes of the schema, each one null, unknown or of its type. -/
  admitted : secretSchema.Admits after.toJson
  /-- What the user gave to find the secret is kept. -/
  inputs : after.mount = before.mount ∧ after.name = before.name ∧ after.namespaceName = before.namespaceName
  /-- Identifier and path are the path of the secret. -/
  path : ∃ mount name, before.mount = .known mount ∧ before.name = .known name ∧
    after.id = .known (dataPath mount name) ∧ after.path = .known (dataPath mount name)
  /-- The values of the secret are known. -/
  data : IsKnownTable after.data
  /-- What is told about the version is known, and the version in it is that of the state. -/
  metadata : ∃ metadata, after.metadata = .known metadata ∧ IsKnownTable metadata.customMetadata ∧
    metadata.version = after.version
  /-- The version is the number in the reply if 64 bits with a sign hold it, and otherwise null. -/
  version : ∃ reply body tree, ∃ version : Nat, delivery = .answered reply ∧ reply.text? = some body ∧
    SpellsDocument tree body ∧ toldVersion? tree = some (.number (some (.integer version))) ∧
    after.version = if version ≤ 9223372036854775807 then .known version else .null

/-- **What a read gives fits the schema**, and is the same whatever had been computed before. -/
theorem readState_fills {client : Client} {state after : SecretState} {delivery : Delivery} {diagnostics : Diagnostics}
    (given : (readState (some (.client client)) state delivery diagnostics).state = some after) :
    IsFilled state delivery after ∧
      ∀ id path data metadata,
        readState (some (.client client)) { state with id, path, data, metadata } delivery diagnostics =
          readState (some (.client client)) state delivery diagnostics := by
  refine ⟨?_, fun _ _ _ _ => rfl⟩
  obtain ⟨request, secret, built, answered, rfl⟩ := exists_secret_of_readState given
  obtain ⟨mount, name⟩ := exists_names_of_buildRequest built
  obtain ⟨reply, body, parsed, arrived, received, reads, rfl⟩ := Client.exists_payload_of_read answered
  obtain ⟨tree, spells, made⟩ := Shape.exists_spellsDocument SecretBody.shape_placeFree reads
  exact {
    spelled := Value.spellsDocument (SecretState.allNumbers_toJson (withSecret_hasVersions _ _))
    admitted := SecretState.admits_toJson _
    inputs := SecretState.withSecret_inputs _ _
    path := ⟨_, _, mount, name, rfl, rfl⟩
    data := isKnownTable_map _
    metadata := ⟨_, rfl, isKnownTable_map _, rfl⟩
    version := ⟨reply, body, tree, _, arrived, received, spells, toldVersion?_of_on_read made, rfl⟩ }

/-- The reply to a read of a version that was deleted, and whose number 64 bits with a sign do not hold. -/
def removal : Delivery :=
  .answered {
    status := 404
    body := Text.Utf8.encode <| String.toList <|
      "\x7b\"data\":\x7b\"data\":null,\"metadata\":\x7b\"version\":9223372036854775808,"
        ++ "\"created_time\":\"2024-01-01T00:00:00Z\",\"deletion_time\":\"2024-01-02T00:00:00Z\","
        ++ "\"custom_metadata\":\x7b\"owner\":\"me\"\x7d\x7d\x7d\x7d" }

/-- The state that is filled from it. -/
def removedState : SecretState where
  id := .known "kv/data/app"
  mount := .known "/kv"
  name := .known "app"
  namespaceName := .unknown
  path := .known "kv/data/app"
  data := .known ∅
  metadata := .known {
    createdTime := .known "2024-01-01T00:00:00Z"
    deletionTime := .known "2024-01-02T00:00:00Z"
    destroyed := .known false
    customMetadata := .known (.ofRows [("owner", .known "me")]) }

theorem readState_fills_removedState :
    let before : SecretState := { mount := .known "/kv", name := .known "app", namespaceName := .unknown }
    ∃ client, Client.make { address := "https://[::1]:8200", token := "t" } = .ok client ∧
      (readState (some (.client client)) before removal {}).state = some removedState ∧
      IsFilled before removal removedState ∧
      ∀ id path data metadata,
        readState (some (.client client)) { before with id, path, data, metadata } removal {} =
          readState (some (.client client)) before removal {} := by
  intro before
  have computed : ((Client.make { address := "https://[::1]:8200", token := "t" }).toOption.map fun client =>
      (readState (some (.client client)) before removal {}).state) = some (some removedState) := by
    decide +kernel
  cases made : Client.make { address := "https://[::1]:8200", token := "t" } with
  | error failure =>
    rw [made] at computed
    cases computed
  | ok client =>
    rw [made] at computed
    have given := Option.some.inj computed
    exact ⟨client, rfl, given, readState_fills given⟩

end SecretSource.Provider
