/-
**The address of a secret spells out its path.**

The path of every request of a client starts with the path of its address and the version of the interface.
Behind it stands, for each segment of the path that is reported for the secret, one spelled segment; only
dot segments leave nothing.

* `Spells`: what it means that a segment of an address spells a text.
* `secretAddress_path_spells`: mounts and names without tabs and line ends are spelled out segment by
  segment.
-/

import Mathlib.Data.List.Forall2
import SecretSource.Proofs.Text.Cutting
import SecretSource.Proofs.Url.Pushing
import SecretSource.Proofs.Vault.Composing

namespace SecretSource.Vault

open SecretSource.Text
open SecretSource.Url (Address Path isDropped isSegmentRefused)

/-- A segment of an address spells a text: it is in visible ASCII, holds no sign that ends or divides a
segment, and stands for the bytes of the text. -/
structure Spells (text spelled : List Char) : Prop where
  visible : ∀ letter ∈ spelled, 0x20 < letter.toNat ∧ letter.toNat ≤ 0x7E
  undivided : ∀ letter ∈ spelled, letter ∉ ['/', '\\', '?', '#', ' ']
  bytes : Percent.bytes spelled = Utf8.encode text

/-- The encoded form of a segment spells it. -/
theorem spells_encode (segment : List Char) :
    Spells segment (Percent.encode isSegmentRefused segment) := by
  have absent : ∀ letter ∈ ['/', '\\', '?', '#', ' '],
      letter ∉ Percent.encode isSegmentRefused segment := by
    intro letter divider
    have all : ['/', '\\', '?', '#', ' '].all (fun sign =>
        isSegmentRefused sign = true ∧ sign ∉ Percent.signs) = true := by decide
    obtain ⟨refused, noSign⟩ := of_decide_eq_true (List.all_eq_true.mp all letter divider)
    exact Percent.not_mem_encode_of_isRefused refused noSign segment
  refine ⟨fun letter member => ?_, fun letter member divider => absent letter divider member,
    Percent.bytes_encode (by decide) segment⟩
  have printable := Percent.printable_of_mem_encode member
  have notBlank : letter ≠ ' ' := by
    rintro rfl
    exact absent ' ' (by decide) member
  have notSpace : letter.toNat ≠ 0x20 := fun same => notBlank (by
    rw [← Char.ofNat_toNat letter, same])
  exact ⟨by omega, printable.2⟩

namespace Client

/-- The segments of a request leave their spellings behind the path that all requests start with. -/
theorem address_path_eq_append (client : Client) {segments : List (List Char)}
    (plain : ∀ segment ∈ segments, Path.climbs segment = false) :
    (client.address segments).path =
      (client.address []).path ++ (segments.filter (! Path.isDots ·)).map Path.spelling :=
  Path.extend_eq_append (Path.beyondRoot_pushVersion client.base.path) plain

/-- The version that is asked for is not part of the path. -/
theorem secretAddress_path (client : Client) (request : SecretRequest) :
    (client.secretAddress request).path = (client.address request.segments).path := by
  unfold secretAddress
  cases request.version with
  | none => dsimp only
  | some version => dsimp only [Address.withPair]

/-- **The path of a read spells out the path of the secret.** Behind the path of the client's address and
the version of the interface stands one spelled segment for each segment of the reported path that is no
dot segment, in order. -/
theorem secretAddress_path_spells (client : Client) (request : SecretRequest)
    (mountClean : ∀ letter ∈ request.mount.toList, isDropped letter = false)
    (nameClean : ∀ letter ∈ request.name.toList, isDropped letter = false) :
    (∃ front blanks : Path, client.base.path = front ++ blanks ∧ (∀ blank ∈ blanks, blank = []) ∧
      (client.address []).path = front ++ ["v1".toList]) ∧
    ∃ spelled : List (List Char),
      List.Forall₂ Spells ((pieces '/' request.path.toList).filter (! Path.isDots ·)) spelled ∧
      (client.secretAddress request).path.written =
        (client.address []).path.written ++ spelled.flatMap ('/' :: ·) := by
  have clean : ∀ segment ∈ request.segments, ∀ letter ∈ segment, isDropped letter = false := by
    intro segment member letter inside
    rcases SecretRequest.mem_of_mem_segments member inside with mount | data | name
    · exact mountClean letter mount
    · exact Path.isDropped_eq_false_of_all (by decide) letter data
    · exact nameClean letter name
  refine ⟨Path.exists_pushVersion client.base.path,
    (request.segments.filter (! Path.isDots ·)).map Path.spelling, ?_, ?_⟩
  · rw [← SecretRequest.segments_eq_pieces, List.forall₂_map_right_iff, List.forall₂_same]
    intro segment member
    obtain ⟨inRequest, counts⟩ := List.mem_filter.mp member
    rw [Path.spelling_eq_encode (clean segment inRequest) (by simpa using counts)]
    exact spells_encode segment
  · rw [secretAddress_path, address_path_eq_append client fun segment member =>
      Path.climbs_eq_false (clean segment member)]
    exact List.flatMap_append

/-- Dot segments, empty segments, text that is already escaped and letters beyond ASCII in one name. -/
theorem secretAddress_path_spells_mixed :
    let client : Client := {
      config := { address := "http://[::1]/proxy/", token := "t" }
      base := ⟨false, [], [], .ipv6 [0, 0, 0, 0, 0, 0, 0, 1], none, ["proxy".toList, []], none, none⟩
      settings := {} }
    let request : SecretRequest := { mount := "/kv/", name := "a%2Fb//.././é ?#\\/" }
    (∀ letter ∈ request.mount.toList, isDropped letter = false) ∧
    (∀ letter ∈ request.name.toList, isDropped letter = false) ∧
    (∃ front blanks : Path, client.base.path = front ++ blanks ∧ (∀ blank ∈ blanks, blank = []) ∧
      (client.address []).path = front ++ ["v1".toList]) ∧
    ∃ spelled : List (List Char),
      List.Forall₂ Spells ((pieces '/' request.path.toList).filter (! Path.isDots ·)) spelled ∧
      (client.secretAddress request).path.written =
        (client.address []).path.written ++ spelled.flatMap ('/' :: ·) :=
  have mountClean := Path.isDropped_eq_false_of_all (show "/kv/".toList.all _ = true by decide)
  have nameClean := Path.isDropped_eq_false_of_all
    (show "a%2Fb//.././é ?#\\/".toList.all _ = true by decide)
  ⟨mountClean, nameClean, secretAddress_path_spells _ _ mountClean nameClean⟩

end Client

end SecretSource.Vault
