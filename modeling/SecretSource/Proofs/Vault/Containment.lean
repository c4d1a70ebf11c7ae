/-
**When a read stays within its mount.**

A read stays within its mount if its path continues the path of the mount, and that continues the path that
all requests of the client start with. Dots are passed over before tabs and line ends are dropped from a
segment, so a name that hides a double dot behind them leaves its mount.

* `secretAddress_staysInMount_iff`: the mounts and names for which nothing is taken away from a path, and
  the names that leave a mount.
* `secretAddress_leaves_mount`: a name that takes the data of its mount from the path.
-/

import SecretSource.Proofs.Url.Climbing
import SecretSource.Proofs.Url.Resolved
import SecretSource.Proofs.Vault.Spelling

namespace SecretSource.Vault

open SecretSource.Text
open SecretSource.Url (Address Path Target)

namespace SecretRequest

/-- The segments from the mount to the data that its engine keeps. -/
def mountSegments (request : SecretRequest) : List (List Char) :=
  pieces '/' (trimSlashes request.mount).toList ++ ["data".toList]

/-- The segments of the name. -/
def nameSegments (request : SecretRequest) : List (List Char) :=
  pieces '/' (trimSlashes request.name).toList

theorem segments_eq_append (request : SecretRequest) :
    request.segments = request.mountSegments ++ request.nameSegments := by
  rw [segments, mountSegments, nameSegments, List.append_assoc, List.singleton_append]

end SecretRequest

/-- The path of a read continues the path of its mount, and that goes on behind a slash where the path of
all requests ends. -/
structure StaysInMount (client : Client) (request : SecretRequest) : Prop where
  name : Path.ContinuesAt (client.secretAddress request).path.written
    (client.address request.mountSegments).path.written
  mount : (client.address []).path.written ++ ['/'] <+:
    (client.address request.mountSegments).path.written

/-- No segment of mount and name takes a segment away that was pushed before it. -/
def KeepsSegments (client : Client) (request : SecretRequest) : Prop :=
  Path.Keeps (client.address []).path request.segments

/-! ### The paths of a client -/

namespace Client

/-- The path of the address that a client is built for is resolved. -/
theorem isResolved_base {config : Config} {client : Client} (made : make config = .ok client) :
    Path.IsResolved client.base.path :=
  (Url.isSettled_of_read (make_eq_ok made).2.1).resolved

/-- So is every path that the client composes. -/
theorem isResolved_address {client : Client} (base : Path.IsResolved client.base.path)
    (segments : List (List Char)) : Path.IsResolved (client.address segments).path :=
  (base.withoutEnd.push _).extend segments

theorem address_path (client : Client) (segments : List (List Char)) :
    (client.address segments).path =
      (client.base.path.withoutEnd.push "v1".toList).extend segments := rfl

/-- Every path that the client composes is pushed on the one that all its requests start with. -/
theorem address_path_eq_extend (client : Client) (segments : List (List Char)) :
    (client.address segments).path = (client.address []).path.extend segments := rfl

theorem address_path_append (client : Client) (first second : List (List Char)) :
    (client.address (first ++ second)).path = (client.address first).path.extend second :=
  Path.extend_append _ first second

/-- The path that all requests of a client start with is more than the root. -/
theorem beyondRoot_address (client : Client) : Path.BeyondRoot (client.address []).path :=
  Path.beyondRoot_pushVersion client.base.path

/-- The path that all requests of a client start with ends in the version of the interface. -/
theorem exists_version (client : Client) :
    ∃ front : Path, (client.address []).path = front ++ ["v1".toList] := by
  obtain ⟨front, _, _, _, shape⟩ := Path.exists_pushVersion client.base.path
  exact ⟨front, shape⟩

/-- The path of a mount ends in the segment of its data. -/
theorem exists_data (client : Client) (request : SecretRequest) :
    ∃ front : Path, (client.address request.mountSegments).path = front ++ ["data".toList] := by
  have spelled : Path.spelling "data".toList = "data".toList := by decide
  have last : (client.address request.mountSegments).path.getLast? = some "data".toList := by
    rw [SecretRequest.mountSegments, address_path_append, Path.extend_cons, Path.extend_nil,
      Path.getLast?_push (by decide) (by decide), spelled]
  exact ⟨_, (List.dropLast_append_getLast? _ last).symm⟩

/-- The path of a mount is more than the path that all requests start with. -/
theorem length_lt_of_prefix {client : Client} {request : SecretRequest}
    (front : (client.address []).path <+: (client.address request.mountSegments).path) :
    (client.address []).path.length < (client.address request.mountSegments).path.length := by
  refine Nat.lt_of_le_of_ne front.length_le fun same => ?_
  obtain ⟨before, version⟩ := client.exists_version
  obtain ⟨others, data⟩ := client.exists_data request
  have equal := front.eq_of_length same
  rw [version, data] at equal
  have ends := congrArg List.getLast? equal
  rw [List.getLast?_concat, List.getLast?_concat] at ends
  exact absurd ends (by decide)

end Client

/-! ### Staying in the mount -/

/-- A read stays within its mount if the paths on its way start with one another. -/
theorem staysInMount_iff_prefixes {client : Client} (base : Path.IsResolved client.base.path)
    (request : SecretRequest) :
    StaysInMount client request ↔
      (client.address []).path <+: (client.address request.mountSegments).path ∧
        (client.address request.mountSegments).path <+: (client.secretAddress request).path := by
  have secret : Path.IsResolved (client.secretAddress request).path := by
    rw [Client.secretAddress_path]
    exact Client.isResolved_address base _
  have mount := Client.isResolved_address base request.mountSegments
  have version := Client.isResolved_address base []
  constructor
  · rintro ⟨name, rest, text⟩
    refine ⟨Path.prefix_of_continuesAt version mount ⟨'/' :: rest, ?_, Or.inr rfl⟩,
      Path.prefix_of_continuesAt mount secret name⟩
    rw [← text, List.append_assoc]
    rfl
  · rintro ⟨mountFirst, nameFirst⟩
    refine ⟨Path.continuesAt_of_prefix nameFirst, ?_⟩
    have longer := Client.length_lt_of_prefix mountFirst
    obtain ⟨more, shape⟩ := mountFirst
    cases more with
    | nil =>
      rw [← shape, List.append_nil] at longer
      exact absurd longer (Nat.lt_irrefl _)
    | cons segment others =>
      refine ⟨segment ++ Path.written others, ?_⟩
      rw [← shape, Path.written_append, List.append_assoc]
      rfl

/-- If nothing is taken away, a read stays within its mount. -/
theorem KeepsSegments.staysInMount {client : Client} (base : Path.IsResolved client.base.path)
    {request : SecretRequest} (keeps : KeepsSegments client request) :
    StaysInMount client request := by
  rw [KeepsSegments, request.segments_eq_append] at keeps
  obtain ⟨mount, name⟩ := keeps.append
  rw [← client.address_path_eq_extend] at name
  refine (staysInMount_iff_prefixes base request).mpr ⟨?_, ?_⟩
  · rw [client.address_path_eq_extend request.mountSegments]
    exact mount.prefix_extend
  · rw [Client.secretAddress_path, request.segments_eq_append, Client.address_path_append]
    exact name.prefix_extend

/-- Nothing is taken away exactly if each segment that climbs follows one that leaves a firm end. -/
theorem keepsSegments_iff_unclimbed (client : Client) (request : SecretRequest) :
    KeepsSegments client request ↔ Path.Unclimbed "v1".toList request.segments := by
  refine Path.keeps_iff_unclimbed client.beyondRoot_address ?_ _
  obtain ⟨front, shape⟩ := client.exists_version
  rw [shape, Path.endsFirmly_concat]
  decide

/-- A mount that does not begin by climbing keeps the path that all requests start with. -/
theorem prefix_mount (client : Client) {request : SecretRequest}
    (mountPlain : Path.opensClimbing request.mountSegments = false) :
    (client.address []).path <+: (client.address request.mountSegments).path := by
  rw [client.address_path_eq_extend request.mountSegments]
  exact Path.prefix_extend_of_not_opensClimbing client.beyondRoot_address mountPlain

/-- Behind an address with a path of its own, only such a mount keeps it. -/
theorem prefix_mount_iff {client : Client} {request : SecretRequest}
    (longBase : 1 < (client.address []).path.length) :
    (client.address []).path <+: (client.address request.mountSegments).path ↔
      Path.opensClimbing request.mountSegments = false := by
  refine ⟨fun survived => ?_, prefix_mount client⟩
  rw [Bool.eq_false_iff]
  intro climbing
  obtain ⟨front, version⟩ := client.exists_version
  have someFront : front ≠ [] := by
    rintro rfl
    rw [version] at longBase
    exact absurd longBase (by decide)
  rw [client.address_path_eq_extend request.mountSegments, version] at survived
  exact Path.not_prefix_extend someFront (by decide) climbing survived

/-- A name keeps the path of such a mount exactly if it does not begin by climbing either. -/
theorem prefix_name_iff {client : Client} {request : SecretRequest}
    (mountPlain : Path.opensClimbing request.mountSegments = false) :
    (client.address request.mountSegments).path <+: (client.secretAddress request).path ↔
      Path.opensClimbing request.nameSegments = false := by
  have split : (client.secretAddress request).path =
      (client.address request.mountSegments).path.extend request.nameSegments := by
    rw [Client.secretAddress_path, request.segments_eq_append, Client.address_path_append]
  obtain ⟨front, data⟩ := client.exists_data request
  have longer := Client.length_lt_of_prefix (prefix_mount client mountPlain)
  have someFront : front ≠ [] := by
    rintro rfl
    have version : 0 < (client.address []).path.length :=
      List.length_pos_iff.mpr client.beyondRoot_address.1
    rw [data] at longer
    simp only [List.nil_append, List.length_singleton] at longer
    omega
  rw [split, data]
  constructor
  · intro survived
    rw [Bool.eq_false_iff]
    intro climbing
    exact Path.not_prefix_extend someFront (by decide) climbing survived
  · intro plain
    exact Path.prefix_extend_of_not_opensClimbing
      (Path.beyondRoot_append front _ someFront) plain

/-- **When a read stays within its mount.** No path that is sent holds a dot segment, in whatever spelling.
Nothing that was pushed is taken away, and the read stays within its mount, exactly if every segment that
climbs follows one that leaves a firm end. A name whose first segment that counts climbs always leaves a
mount that does not begin by climbing, and no other name does. Behind an address with a path of its own, a
mount that begins by climbing is always left. -/
theorem secretAddress_staysInMount_iff {config : Config} {client : Client}
    (made : Client.make config = .ok client) (request : SecretRequest) :
    (∀ segment ∈ (client.secretAddress request).path, Path.readsAsDots segment = false) ∧
    (StaysInMount client request ∧ KeepsSegments client request ↔
      Path.Unclimbed "v1".toList request.segments) ∧
    (Path.opensClimbing request.mountSegments = false →
      (StaysInMount client request ↔ Path.opensClimbing request.nameSegments = false)) ∧
    (1 < (client.address []).path.length →
      (StaysInMount client request ↔ Path.opensClimbing request.mountSegments = false ∧
        Path.opensClimbing request.nameSegments = false)) := by
  have base := Client.isResolved_base made
  refine ⟨fun segment member => ?_, ?_, fun mountPlain => ?_, fun longBase => ?_⟩
  · rw [Client.secretAddress_path] at member
    exact (Client.isResolved_address base _ segment member).2
  · rw [← keepsSegments_iff_unclimbed client request]
    exact ⟨And.right, fun keeps => ⟨keeps.staysInMount base, keeps⟩⟩
  · rw [staysInMount_iff_prefixes base, prefix_name_iff mountPlain]
    exact and_iff_right (prefix_mount client mountPlain)
  · rw [staysInMount_iff_prefixes base, prefix_mount_iff longBase]
    exact and_congr_right fun mountPlain => prefix_name_iff mountPlain

/-- Dot segments, a tab, a line end, a dot behind a tab and escaped dots take nothing away. -/
theorem secretAddress_staysInMount_disguised :
    ∃ client : Client, Client.make { address := "http://[::1]/proxy/", token := "t" } = .ok client ∧
      let request : SecretRequest := { mount := "/kv/..", name := "a\tb/.././\t./%2e%2e\n" }
      (∀ segment ∈ (client.secretAddress request).path, Path.readsAsDots segment = false) ∧
      StaysInMount client request ∧ KeepsSegments client request := by
  have built : (Client.make { address := "http://[::1]/proxy/", token := "t" }).isOk = true := by
    decide +kernel
  cases made : Client.make { address := "http://[::1]/proxy/", token := "t" } with
  | error failure =>
    rw [made] at built
    cases built
  | ok client =>
    obtain ⟨noDots, exactly, _, _⟩ := secretAddress_staysInMount_iff made
      { mount := "/kv/..", name := "a\tb/.././\t./%2e%2e\n" }
    obtain ⟨stays, keeps⟩ := exactly.mpr (by decide)
    exact ⟨client, rfl, noDots, stays, keeps⟩

/-- **A name that leaves its mount.** Its first segment is a double dot with a tab in it. -/
theorem secretAddress_leaves_mount :
    ∃ (config : Config) (client : Client) (request : SecretRequest),
      Client.make config = .ok client ∧
      (client.secretAddress request).path.written = "/v1/kvv2//x".toList ∧
      (client.address request.mountSegments).path.written = "/v1/kvv2/data".toList ∧
      ¬ StaysInMount client request := by
  let config : Config := { address := "http://vault.example.com:8200", token := "t" }
  let request : SecretRequest := { mount := "kvv2", name := ".\t./x" }
  have based : (Client.make config).toOption.map (·.base.path) = some [[]] := by decide +kernel
  cases made : Client.make config with
  | error failure =>
    rw [made] at based
    cases based
  | ok client =>
    rw [made] at based
    have root : client.base.path = [[]] := Option.some.inj based
    have secret : (client.secretAddress request).path.written = "/v1/kvv2//x".toList := by
      rw [Client.secretAddress_path, Client.address_path, root]
      decide
    have mount : (client.address request.mountSegments).path.written = "/v1/kvv2/data".toList := by
      rw [Client.address_path, root]
      decide
    refine ⟨config, client, request, made, secret, mount, fun stays => ?_⟩
    obtain ⟨rest, continued, _⟩ := stays.name
    rw [secret, mount] at continued
    have front : "/v1/kvv2/data".toList <+: "/v1/kvv2//x".toList := ⟨rest, continued.symm⟩
    exact absurd front (by decide)

end SecretSource.Vault
