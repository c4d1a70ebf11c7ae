/-
**Which paths name the same address.**

The path that is reported for a secret decides the address that it is read under. The address keeps the
segments of the path but for dot segments, and of every segment all but tabs and line ends, so paths that
only differ in these share an address.

* `keptSegments`: what an address keeps of a path.
* `Client.exists_payload_of_read`: a secret that was read is what the body of the reply holds, at its path.
* `secretAddress_written_eq_iff`: two addresses are the same exactly if what they keep of the paths is.
* `secretAddress_shared`: three paths with one address.
-/

import SecretSource.Proofs.Vault.Classifying
import SecretSource.Proofs.Vault.Composing
import SecretSource.Proofs.Vault.Spelling

namespace SecretSource.Text.Percent

/-- An encoded text is made from one text only, if the percent sign is refused. -/
theorem eq_of_encode_eq {isRefused : Char → Bool} (percent : isRefused '%' = true)
    {first second : List Char} (same : encode isRefused first = encode isRefused second) :
    first = second := by
  refine Utf8.encode_injective ?_
  rw [← bytes_encode percent first, same, bytes_encode percent second]

end SecretSource.Text.Percent

namespace SecretSource.Url.Path

open SecretSource.Text

/-- What is left of a segment that is pushed, before it is encoded. -/
def remainder (segment : List Char) : List Char := if kept segment = ['.'] then [] else kept segment

theorem spelling_eq_encode_remainder (segment : List Char) :
    spelling segment = Percent.encode isSegmentRefused (remainder segment) := by
  unfold spelling remainder
  split <;> rfl

/-- Encoding hides nothing: spellings are the same only if what is left of the segments is. -/
theorem map_spelling_eq_iff (first second : List (List Char)) :
    first.map spelling = second.map spelling ↔ first.map remainder = second.map remainder := by
  have spelled : ∀ segments : List (List Char), segments.map spelling =
      (segments.map remainder).map (Percent.encode isSegmentRefused) := by
    intro segments
    rw [List.map_map]
    exact List.map_congr_left fun segment _ => spelling_eq_encode_remainder segment
  have injective : Function.Injective (Percent.encode isSegmentRefused) := fun _ _ same =>
    Percent.eq_of_encode_eq (by decide) same
  rw [spelled, spelled, (List.map_injective_iff.mpr injective).eq_iff]

end SecretSource.Url.Path

namespace SecretSource.Vault

open SecretSource.Text
open SecretSource.Url (Path isDropped)

/-- What an address keeps of a path: its segments but for dot segments, without tabs and line ends. -/
def keptSegments (path : String) : List (List Char) :=
  ((pieces '/' path.toList).filter (! Path.isDots ·)).map Path.remainder

/-- Whether an address keeps all of a path. -/
def isKeptWhole (path : String) : Bool :=
  path.toList.all (! isDropped ·) && (pieces '/' path.toList).all (! Path.isDots ·)

/-! ### Whole paths -/

/-- The segments of a path without tabs and line ends have none either. -/
theorem clean_of_isKeptWhole {path : String} (whole : isKeptWhole path = true) :
    ∀ segment ∈ pieces '/' path.toList, ∀ letter ∈ segment, isDropped letter = false := by
  intro segment member letter inside
  rw [isKeptWhole, Bool.and_eq_true] at whole
  exact Path.isDropped_eq_false_of_all whole.1 letter (mem_of_mem_pieces member inside).1

/-- Of a path that is kept whole, an address keeps every segment. -/
theorem keptSegments_of_isKeptWhole {path : String} (whole : isKeptWhole path = true) :
    keptSegments path = pieces '/' path.toList := by
  have clean := clean_of_isKeptWhole whole
  rw [isKeptWhole, Bool.and_eq_true] at whole
  have noDots := List.all_eq_true.mp whole.2
  rw [keptSegments, List.filter_eq_self.mpr noDots]
  refine (List.map_congr_left fun segment member => ?_).trans (List.map_id _)
  have notDot : segment ≠ ['.'] := by
    rintro rfl
    exact absurd (noDots _ member) (by decide)
  rw [Path.remainder, Path.kept_eq_self (clean segment member), if_neg notDot, id]

/-- A path is known from its segments. -/
theorem eq_of_pieces_eq {first second : String}
    (same : pieces '/' first.toList = pieces '/' second.toList) : first = second := by
  rw [← String.toList_inj, ← joined_pieces '/' first.toList, same, joined_pieces]

namespace SecretRequest

/-- Whether a segment of a request climbs: it is a double dot behind tabs or line ends. -/
def hasClimbing (request : SecretRequest) : Bool := request.segments.any Path.climbs

/-- No segment of a path that is kept whole climbs. -/
theorem hasClimbing_eq_false_of_isKeptWhole {request : SecretRequest}
    (whole : isKeptWhole request.path = true) : request.hasClimbing = false := by
  rw [hasClimbing, List.any_eq_false, segments_eq_pieces]
  intro segment member
  rw [Path.climbs_eq_false (clean_of_isKeptWhole whole segment member)]
  exact Bool.false_ne_true

end SecretRequest

namespace Client

variable {client : Client} {first second : SecretRequest}

/-- The path of an address is known from what it keeps of the path that is reported. -/
theorem secretAddress_path_eq_append {request : SecretRequest} (plain : request.hasClimbing = false) :
    (client.secretAddress request).path =
      (client.address []).path ++
        ((pieces '/' request.path.toList).filter (! Path.isDots ·)).map Path.spelling := by
  rw [secretAddress_path, ← SecretRequest.segments_eq_pieces]
  refine client.address_path_eq_append fun segment member => ?_
  rw [SecretRequest.hasClimbing, List.any_eq_false] at plain
  exact Bool.eq_false_iff.mpr (plain segment member)

/-- Two addresses for the same version have the same text exactly if they have the same path. -/
theorem written_secretAddress_eq_iff_path (base : client.base.IsSettled)
    (sameVersion : first.version = second.version) :
    (client.secretAddress first).written = (client.secretAddress second).written ↔
      (client.secretAddress first).path = (client.secretAddress second).path := by
  rw [(client.sameOutsidePath_of_version_eq sameVersion).written_eq_iff]
  exact ⟨Path.eq_of_written_eq (isSettled_secretAddress base first).resolved
    (isSettled_secretAddress base second).resolved, congrArg Path.written⟩

/-- Addresses of paths without segments that climb are the same exactly if they keep the same of the
paths. -/
theorem written_secretAddress_eq_iff_keptSegments (base : client.base.IsSettled)
    (sameVersion : first.version = second.version) (plain : first.hasClimbing = false)
    (plain' : second.hasClimbing = false) :
    (client.secretAddress first).written = (client.secretAddress second).written ↔
      keptSegments first.path = keptSegments second.path := by
  rw [written_secretAddress_eq_iff_path base sameVersion, secretAddress_path_eq_append plain,
    secretAddress_path_eq_append plain', List.append_right_inj, Path.map_spelling_eq_iff]
  rfl

/-- What is received is the body of the reply that arrived. -/
theorem exists_reply_of_send {address : Url.Address} {namespaceName : Option String} {delivery : Http.Delivery}
    {status : Nat} {body : String}
    (received : (client.send address namespaceName delivery).result = .ok (status, body)) :
    ∃ reply, delivery = .answered reply ∧ reply.text? = some body := by
  simp only [send] at received
  split at received
  · cases received
  · rename_i reply arrived
    split at received
    · cases received
    · rename_i body' whole
      cases received
      exact ⟨reply, (Http.exchange_result_eq_ok_iff.mp arrived).2, whole⟩

/-- The secret that a reply tells of is what its body holds, at the path that was asked for. -/
theorem exists_payload_of_secretOfReply {path body : String} {status : Nat} {secret : Secret}
    (told : secretOfReply path status body = .ok secret) :
    ∃ parsed, SecretBody.ofText body = .ok parsed ∧ secret = .ofPayload path parsed.data := by
  cases secretOfReply_eq_iff.mp told with
  | told _ reads => exact ⟨_, reads, rfl⟩
  | removed _ reads => exact ⟨_, reads, rfl⟩

/-- A secret that was read is what the body of the reply holds, at the path of its request. -/
theorem exists_payload_of_read {request : SecretRequest} {delivery : Http.Delivery} {secret : Secret}
    (done : (client.read request delivery).result = .ok secret) :
    ∃ reply body parsed, delivery = .answered reply ∧ reply.text? = some body ∧
      SecretBody.ofText body = .ok parsed ∧ secret = .ofPayload request.path parsed.data := by
  obtain ⟨⟨status, body⟩, received, told⟩ := exists_of_bind_eq_ok done
  obtain ⟨parsed, reads, same⟩ := exists_payload_of_secretOfReply told
  obtain ⟨reply, answered, whole⟩ := exists_reply_of_send received
  exact ⟨reply, body, parsed, answered, whole, reads, same⟩

/-- A secret that was read carries the path of its request. -/
theorem path_of_read {request : SecretRequest} {delivery : Http.Delivery} {secret : Secret}
    (done : (client.read request delivery).result = .ok secret) : secret.path = request.path := by
  obtain ⟨_, _, _, -, -, -, rfl⟩ := exists_payload_of_read done
  rfl

end Client

/-- **Which paths name the same address.** Requests for the same version with the same path have the same
address, and a secret that was read carries the path of its request. If no segment is a double dot behind
tabs or line ends, two requests have the same address exactly if their addresses keep the same of their
paths; and paths that are kept whole name the same address only if they are the same. -/
theorem secretAddress_written_eq_iff {config : Config} {client : Client}
    (made : Client.make config = .ok client) {first second : SecretRequest}
    (sameVersion : first.version = second.version) :
    (first.path = second.path →
      (client.secretAddress first).written = (client.secretAddress second).written) ∧
    (first.hasClimbing = false → second.hasClimbing = false →
      ((client.secretAddress first).written = (client.secretAddress second).written ↔
        keptSegments first.path = keptSegments second.path)) ∧
    (isKeptWhole first.path = true → isKeptWhole second.path = true →
      ((client.secretAddress first).written = (client.secretAddress second).written ↔
        first.path = second.path)) ∧
    ∀ delivery secret, (client.read first delivery).result = .ok secret → secret.path = first.path := by
  have base := Url.isSettled_of_read (Client.make_eq_ok made).2.1
  refine ⟨fun same => ?_, Client.written_secretAddress_eq_iff_keptSegments base sameVersion,
    fun whole whole' => ?_, fun _ _ done => Client.path_of_read done⟩
  · rw [Client.written_secretAddress_eq_iff_path base sameVersion, Client.secretAddress_path,
      Client.secretAddress_path, SecretRequest.segments_eq_pieces, SecretRequest.segments_eq_pieces, same]
  · rw [Client.written_secretAddress_eq_iff_keptSegments base sameVersion
      (SecretRequest.hasClimbing_eq_false_of_isKeptWhole whole)
      (SecretRequest.hasClimbing_eq_false_of_isKeptWhole whole'),
      keptSegments_of_isKeptWhole whole, keptSegments_of_isKeptWhole whole']
    exact ⟨eq_of_pieces_eq, fun same => by rw [same]⟩

/-- A slash and its escaped form, in two spellings of one mount, name two addresses. -/
theorem secretAddress_written_eq_iff_escaped :
    ∃ (client : Client) (first second : SecretRequest),
      first = { mount := "/kv", name := "a%2Fb/é", version := some 7 } ∧
      second = { mount := "kv/", name := "a/b/é/", version := some 7 } ∧
      Client.make { address := "http://[::1]/proxy/", token := "t" } = .ok client ∧
      first.version = second.version ∧
      isKeptWhole first.path = true ∧ isKeptWhole second.path = true ∧
      ((client.secretAddress first).written = (client.secretAddress second).written ↔
        first.path = second.path) ∧ first.path ≠ second.path := by
  obtain ⟨first, isFirst⟩ : ∃ request : SecretRequest,
    request = { mount := "/kv", name := "a%2Fb/é", version := some 7 } := ⟨_, rfl⟩
  obtain ⟨second, isSecond⟩ : ∃ request : SecretRequest,
    request = { mount := "kv/", name := "a/b/é/", version := some 7 } := ⟨_, rfl⟩
  have whole : isKeptWhole first.path = true := by
    rw [isFirst]
    decide +kernel
  have whole' : isKeptWhole second.path = true := by
    rw [isSecond]
    decide +kernel
  have differ : first.path ≠ second.path := by
    rw [isFirst, isSecond]
    decide +kernel
  have sameVersion : first.version = second.version := by rw [isFirst, isSecond]
  have built : (Client.make { address := "http://[::1]/proxy/", token := "t" }).isOk = true := by
    decide +kernel
  cases made : Client.make { address := "http://[::1]/proxy/", token := "t" } with
  | error failure =>
    rw [made] at built
    cases built
  | ok client =>
    have exactly := (secretAddress_written_eq_iff made sameVersion).2.2.1 whole whole'
    exact ⟨client, first, second, isFirst, isSecond, rfl, sameVersion, whole, whole', exactly, differ⟩

/-- **Three paths with one address.** A tab and a dot segment are in the path that is reported, and the
address keeps neither. -/
theorem secretAddress_shared :
    ∃ client : Client,
      Client.make { address := "http://vault.example.com:8200", token := "t" } = .ok client ∧
      ∀ name ∈ ["a\tb", "./ab"],
        (client.secretAddress { mount := "kvv2", name }).written =
          (client.secretAddress { mount := "kvv2", name := "ab" }).written ∧
        SecretRequest.path { mount := "kvv2", name } ≠
          SecretRequest.path { mount := "kvv2", name := "ab" } := by
  have computed : ∀ name ∈ ["a\tb", "./ab"],
      SecretRequest.hasClimbing { mount := "kvv2", name } = false ∧
      SecretRequest.hasClimbing { mount := "kvv2", name := "ab" } = false ∧
      keptSegments (SecretRequest.path { mount := "kvv2", name }) =
        keptSegments (SecretRequest.path { mount := "kvv2", name := "ab" }) ∧
      SecretRequest.path { mount := "kvv2", name } ≠
        SecretRequest.path { mount := "kvv2", name := "ab" } := by
    decide +kernel
  have built : (Client.make { address := "http://vault.example.com:8200", token := "t" }).isOk = true := by
    decide +kernel
  cases made : Client.make { address := "http://vault.example.com:8200", token := "t" } with
  | error failure =>
    rw [made] at built
    cases built
  | ok client =>
    have base := Url.isSettled_of_read (Client.make_eq_ok made).2.1
    refine ⟨client, rfl, fun name member => ?_⟩
    obtain ⟨unclimbing, unclimbing', same, differ⟩ := computed name member
    refine ⟨?_, differ⟩
    rw [Client.written_secretAddress_eq_iff_keptSegments base (Eq.refl none) unclimbing unclimbing']
    exact same

end SecretSource.Vault
