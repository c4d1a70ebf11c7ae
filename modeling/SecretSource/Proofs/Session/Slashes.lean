/-
**Slashes around mount and name do not matter.**

Mount and name are looked at without the slashes around them wherever it counts: when a state is validated, when its
request is built, in the path that is reported and in the address that is asked. So states whose mounts and names differ
only in such slashes are validated and read alike, and the states that are given differ in nothing but these two
attributes, which are handed back as they were given.

* `trimSlashes_withSlashes`: slashes around a text are trimmed, however many there are.
* `SecretRequest.SameTarget`, `Client.read_congr`: a client knows a request only by its path, namespace and version.
* `SecretReader.GoesByPath`: so may any other reader.
* `buildRequest_named`, `stateErrors_named`: a state is checked alike.
* `readState_withSlashes`: what validating and reading a state give.
-/

import Mathlib.Data.List.Forall2
import SecretSource.Proofs.Session.Pinning
import SecretSource.Proofs.Session.Refinement
import SecretSource.Proofs.Text.Cutting

namespace SecretSource.Text

/-- A text with some slashes before it and behind it. -/
def withSlashes (before behind : Nat) (text : String) : String :=
  String.ofList (List.replicate before '/' ++ text.toList ++ List.replicate behind '/')

/-- Slashes around a text are trimmed, however many there are. -/
theorem trimSlashes_withSlashes (before behind : Nat) (text : String) :
    trimSlashes (withSlashes before behind text) = trimSlashes text := by
  have slashes (count : Nat) : ∀ letter ∈ List.replicate count '/', (letter == '/') = true :=
    fun letter member => beq_iff_eq.mpr (List.eq_of_mem_replicate member)
  unfold trimSlashes withSlashes
  rw [String.toList_ofList, trim_append_append (slashes before) (slashes behind)]

end SecretSource.Text

namespace SecretSource.Vault

open SecretSource.Http (Delivery)

/-- Two requests have the same path, in the same namespace and of the same version. -/
structure SecretRequest.SameTarget (first second : SecretRequest) : Prop where
  path : first.path = second.path
  namespaceName : first.namespaceName = second.namespaceName
  version : first.version = second.version

/-- A client knows a request only by its path, namespace and version. -/
theorem Client.read_congr (client : Client) {first second : SecretRequest} (same : first.SameTarget second)
    (delivery : Delivery) : client.read first delivery = client.read second delivery := by
  unfold read secretAddress
  rw [SecretRequest.segments_eq_pieces, SecretRequest.segments_eq_pieces, same.path, same.namespaceName, same.version]

end SecretSource.Vault

namespace SecretSource.Provider

open SecretSource.Http (Delivery)
open SecretSource.Text
open SecretSource.Vault

/-- What a reader answers depends on nothing of a request but its path, namespace and version. -/
def SecretReader.GoesByPath : SecretReader → Prop
  | .client _ => True
  | .custom answer => ∀ first second : SecretRequest, first.SameTarget second → answer first = answer second

/-- Such a reader answers alike, sends the same and is asked for the same. -/
theorem SecretReader.GoesByPath.read {reader : SecretReader} (goesByPath : reader.GoesByPath)
    {first second : SecretRequest} (same : first.SameTarget second) (delivery : Delivery) :
    (reader.read first delivery).result = (reader.read second delivery).result ∧
      (reader.read first delivery).sent = (reader.read second delivery).sent ∧
      List.Forall₂ SecretRequest.SameTarget (reader.read first delivery).asked (reader.read second delivery).asked := by
  cases reader with
  | client vault =>
    have alike := vault.read_congr same delivery
    exact ⟨congrArg (·.result) alike, congrArg (·.sent) alike, .nil⟩
  | custom answer => exact ⟨goesByPath first second same, rfl, .cons same .nil⟩

namespace SecretState

/-- The state with a mount and a name that are known. -/
def named (state : SecretState) (mount name : String) : SecretState :=
  { state with mount := .known mount, name := .known name }

end SecretState

variable {mount name mount' name' : String}

/-- A text that a read needs is taken or refused by what is left of it without slashes around it. -/
theorem required_congr (subject : String) {text text' : String} (same : trimSlashes text = trimSlashes text') :
    (∃ error, required subject (.known text) = .error error ∧ required subject (.known text') = .error error) ∨
      required subject (.known text) = .ok text ∧ required subject (.known text') = .ok text' := by
  unfold required
  dsimp only
  rw [same]
  split
  · exact Or.inl ⟨_, rfl, rfl⟩
  · exact Or.inr ⟨rfl, rfl⟩

/-- **Building a request fails in the same way, or gives a request for the same.** -/
theorem buildRequest_named (state : SecretState) (sameMount : trimSlashes mount = trimSlashes mount')
    (sameName : trimSlashes name = trimSlashes name') :
    (∃ errors, buildRequest (state.named mount name) = .error errors ∧
      buildRequest (state.named mount' name') = .error errors) ∨
    ∃ request request', buildRequest (state.named mount name) = .ok request ∧
      buildRequest (state.named mount' name') = .ok request' ∧ request.SameTarget request' := by
  unfold buildRequest SecretState.named
  dsimp only
  rcases required_congr "mount" sameMount with ⟨error, misses, misses'⟩ | ⟨takes, takes'⟩ <;>
    rcases required_congr "name" sameName with ⟨error', lacks, lacks'⟩ | ⟨finds, finds'⟩
  · rw [misses, misses', lacks, lacks']
    exact Or.inl ⟨_, rfl, rfl⟩
  · rw [misses, misses', finds, finds']
    exact Or.inl ⟨_, rfl, rfl⟩
  · rw [takes, takes', lacks, lacks']
    exact Or.inl ⟨_, rfl, rfl⟩
  · rw [takes, takes', finds, finds']
    cases requestedVersion state.version with
    | error problem => exact Or.inl ⟨_, rfl, rfl⟩
    | ok version =>
      refine Or.inr ⟨_, _, rfl, rfl, ?_, rfl, rfl⟩
      show dataPath mount name = dataPath mount' name'
      rw [dataPath, dataPath, sameMount, sameName]

/-- Validating finds the same wrong. -/
theorem stateErrors_named (state : SecretState) (sameMount : trimSlashes mount = trimSlashes mount')
    (sameName : trimSlashes name = trimSlashes name') :
    stateErrors (state.named mount name) = stateErrors (state.named mount' name') := by
  unfold stateErrors SecretState.named emptyErrors
  dsimp only
  rw [sameMount, sameName]

/-- What is the same in two reads of states that differ in their mounts and names. -/
structure ReadOutcome.SameBut (mount name : String) (first second : ReadOutcome) : Prop where
  diagnostics : second.diagnostics = first.diagnostics
  sent : second.sent = first.sent
  asked : List.Forall₂ SecretRequest.SameTarget first.asked second.asked
  state : second.state = first.state.map (·.named mount name)

/-- **States whose mounts and names differ only in slashes around them are read alike.** -/
theorem readState_named {slot : Slot} (goByPath : ∀ reader ∈ slot, reader.GoesByPath) (state : SecretState)
    (sameMount : trimSlashes mount = trimSlashes mount') (sameName : trimSlashes name = trimSlashes name')
    (delivery : Delivery) (diagnostics : Diagnostics) :
    (readState slot (state.named mount name) delivery diagnostics).SameBut mount' name'
      (readState slot (state.named mount' name') delivery diagnostics) := by
  unfold readState
  rcases buildRequest_named state sameMount sameName with ⟨errors, fails, fails'⟩ |
    ⟨request, request', built, built', same⟩
  · rw [fails, fails']
    exact ⟨rfl, rfl, .nil, rfl⟩
  rw [built, built']
  cases slot with
  | none => exact ⟨rfl, rfl, .nil, rfl⟩
  | some reader =>
    obtain ⟨result, sent, asked⟩ := (goByPath reader rfl).read same delivery
    simp only [Slot.reader, ← result]
    cases (reader.read request delivery).result with
    | error failure => exact ⟨rfl, sent.symm, asked, rfl⟩
    | ok secret => exact ⟨rfl, sent.symm, asked, rfl⟩

/-- **Slashes around mount and name do not matter**, however many there are. A state with them is validated with the
same errors and read with the same, whatever the session holds that goes by the path: the same is sent and reported, and
the state that is given is the same but for its mount and its name, which are handed back with the slashes. -/
theorem readState_withSlashes (slot : Slot) (goByPath : ∀ reader ∈ slot, reader.GoesByPath) (state : SecretState)
    (mount name : String) (beforeMount behindMount beforeName behindName : Nat) (delivery : Delivery)
    (diagnostics : Diagnostics) :
    let mount' := withSlashes beforeMount behindMount mount
    let name' := withSlashes beforeName behindName name
    validateState (state.named mount' name') diagnostics = validateState (state.named mount name) diagnostics ∧
      (readState slot (state.named mount name) delivery diagnostics).SameBut mount' name'
        (readState slot (state.named mount' name') delivery diagnostics) := by
  intro mount' name'
  have sameMount : trimSlashes mount = trimSlashes mount' := (trimSlashes_withSlashes _ _ _).symm
  have sameName : trimSlashes name = trimSlashes name' := (trimSlashes_withSlashes _ _ _).symm
  refine ⟨?_, readState_named goByPath state sameMount sameName delivery diagnostics⟩
  rw [validateState, validateState, stateErrors_named state sameMount sameName]

/-- A source that holds nothing and tells for which path it was asked. -/
def emptySource : SecretReader := .custom fun request => .error (.secretNotFound request.path)

/-- A client, and a source of another kind, with a name that has two slashes inside as well. -/
theorem readState_withSlashes_inside :
    let bare : SecretState := .ofNames "kv" "a//b"
    let slashed : SecretState := .ofNames "/kv//" "//a//b/"
    ∃ client after after', Client.make { address := "https://[::1]:8200", token := "t" } = .ok client ∧
      (∀ reader ∈ some (SecretReader.client client), reader.GoesByPath) ∧
      (∀ reader ∈ some emptySource, reader.GoesByPath) ∧
      (readState (some (.client client)) bare seventhVersion {}).state = some after ∧
      (readState (some (.client client)) slashed seventhVersion {}).state = some after' ∧
      after.id = .known "kv/data/a//b" ∧ after' = after.named "/kv//" "//a//b/" ∧
      (readState (some emptySource) bare .dropped {}).diagnostics.errors =
        [⟨"Failed to read secret", "Secret not found at path: kv/data/a//b", none⟩] ∧
      (readState (some emptySource) slashed .dropped {}).diagnostics =
        (readState (some emptySource) bare .dropped {}).diagnostics := by
  intro bare slashed
  have computed : ((Client.make { address := "https://[::1]:8200", token := "t" }).toOption.bind fun client =>
      (readState (some (.client client)) bare seventhVersion {}).state.map (·.id)) =
        some (.known "kv/data/a//b") := by
    decide +kernel
  obtain ⟨client, made, computed⟩ := Option.bind_eq_some_iff.mp computed
  obtain ⟨after, given, atPath⟩ := Option.map_eq_some_iff.mp computed
  have byClient : ∀ reader ∈ some (SecretReader.client client), reader.GoesByPath := by
    rintro reader ⟨⟩
    trivial
  have bySource : ∀ reader ∈ some emptySource, reader.GoesByPath := by
    rintro reader ⟨⟩ first second same
    exact congrArg (fun path => Except.error (Vault.Failure.secretNotFound path)) same.path
  have ofClient := (readState_withSlashes _ byClient {} "kv" "a//b" 1 2 2 1 seventhVersion {}).2
  have ofSource := (readState_withSlashes _ bySource {} "kv" "a//b" 1 2 2 1 .dropped {}).2
  exact ⟨client, after, after.named "/kv//" "//a//b/", toOption_eq_some_iff.mp made, byClient, bySource, given,
    ofClient.state.trans (congrArg (Option.map _) given), atPath, rfl, by decide +kernel, ofSource.diagnostics⟩

end SecretSource.Provider
