/-
**The requests that a client composes.**

A request that reaches a server is the one that was composed for it: the headers of the client, its token
among them, and an address in which nothing behind the host can be taken for another part.

* `Client.make_eq_ok`: what is known of a client from its configuration.
* `Client.composed`, `composedLookup`: the requests of a read and of a look at the token;
  `eq_composed_of_mem_read_sent`, `eq_composedLookup_of_mem_lookupSelf_sent`: no others are sent.
* `find?_token_compose`, `find?_namespace_compose`: the headers that only the vault reads.
* `sameOutsidePath_secretAddress`, `sameOutsidePath_of_version_eq`: what a request changes of an address.
* `isSettled_address`, `isSettled_secretAddress`: every address that a client composes is settled.
-/

import SecretSource.Proofs.Url.Printing
import SecretSource.Vault.Client

namespace SecretSource.Http

open SecretSource.Url (Address)

/-- A request that is sent is the one that was composed. -/
theorem eq_compose_of_mem_exchange_sent {settings : Settings} {address : Address}
    {headers : List (String × String)} {delivery : Delivery} {request : Request}
    (member : request ∈ (exchange settings address headers delivery).sent) :
    request = compose settings address headers := by
  rcases exchange_sent with nothing | single
  · rw [nothing] at member
    cases member
  · rw [single] at member
    exact List.mem_singleton.mp member

end SecretSource.Http

namespace SecretSource.Vault.Client

open SecretSource.Http (Delivery Request)
open SecretSource.Text
open SecretSource.Url (Address Path Target StandsAsItIs isQueryRefused)

/-- A client is built from a configuration that is in order, and for the address that its text without
slashes at the end is read as. -/
theorem make_eq_ok {config : Config} {client : Client} (made : make config = .ok client) :
    config.check = .ok () ∧ Target.read config.baseUrl = .ok (.web client.base) ∧
      client.config = config ∧ client.settings = { timeout := config.timeout } := by
  obtain ⟨_, checked, made⟩ := exists_of_bind_eq_ok made
  split at made
  · cases made
  · cases made
  · rename_i base web
    obtain ⟨_, -, made⟩ := exists_of_bind_eq_ok made
    rw [← Except.ok.inj made]
    exact ⟨checked, web, rfl, rfl⟩

/-! ### Requests -/

/-- The request for a secret, as a server receives it. -/
def composed (client : Client) (request : SecretRequest) : Request :=
  Http.compose client.settings (client.secretAddress request) (client.headers request.namespaceName)

/-- A read sends the request for its secret or none. -/
theorem eq_composed_of_mem_read_sent {client : Client} {request : SecretRequest} {delivery : Delivery}
    {sent : Request} (member : sent ∈ (client.read request delivery).sent) :
    sent = client.composed request :=
  Http.eq_compose_of_mem_exchange_sent member

/-- The request for a look at the token, in the namespace of the client. -/
def composedLookup (client : Client) : Request :=
  Http.compose client.settings (client.address (lookupPath.map String.toList)) (client.headers none)

/-- A look at the token sends the request for it or none. -/
theorem eq_composedLookup_of_mem_lookupSelf_sent {client : Client} {delivery : Delivery} {sent : Request}
    (member : sent ∈ (client.lookupSelf delivery).sent) : sent = client.composedLookup :=
  Http.eq_compose_of_mem_exchange_sent member

/-- Every request carries the token of its client. -/
theorem find?_token_compose (client : Client) (address : Address) (namespaceName : Option String) :
    (Http.compose client.settings address (client.headers namespaceName)).headers.find? "x-vault-token" =
      some client.config.token := by
  rw [Http.compose, Table.find?_ofRows, headers]
  cases namespaceName <|> client.config.namespaceName <;> simp

/-- A request names the namespace that is asked for, or else that of its client. -/
theorem find?_namespace_compose (client : Client) (address : Address) (namespaceName : Option String) :
    (Http.compose client.settings address (client.headers namespaceName)).headers.find?
      "x-vault-namespace" = (namespaceName <|> client.config.namespaceName) := by
  rw [Http.compose, Table.find?_ofRows, headers]
  cases namespaceName <|> client.config.namespaceName <;> cases Http.credentials address <;> simp

/-! ### Addresses -/

/-- The base address with the version that is asked for in its query. -/
def versioned (client : Client) (version : Option Nat) : Address :=
  match version with
  | some version => client.base.withPair "version".toList (Nat.toDigits 10 version)
  | none => client.base

theorem sameOutsidePath_address (client : Client) (segments : List (List Char)) :
    client.base.SameOutsidePath (client.address segments) := ⟨rfl, rfl, rfl, rfl, rfl, rfl, rfl⟩

/-- An address differs from the base address in nothing but its path and the version in its query. -/
theorem sameOutsidePath_secretAddress (client : Client) (request : SecretRequest) :
    (client.versioned request.version).SameOutsidePath (client.secretAddress request) := by
  unfold versioned secretAddress
  cases request.version with
  | none => exact client.sameOutsidePath_address request.segments
  | some version => exact (client.sameOutsidePath_address request.segments).withPair _ _

/-- So mount and name show in nothing but the path. -/
theorem sameOutsidePath_of_version_eq (client : Client) {first second : SecretRequest}
    (sameVersion : first.version = second.version) :
    (client.secretAddress first).SameOutsidePath (client.secretAddress second) := by
  have toFirst := client.sameOutsidePath_secretAddress first
  rw [sameVersion] at toFirst
  exact toFirst.symm.trans (client.sameOutsidePath_secretAddress second)

/-- Every address that a client composes is settled. -/
theorem isSettled_address {client : Client} (base : client.base.IsSettled) (segments : List (List Char)) :
    (client.address segments).IsSettled :=
  base.withPath (Path.extend_ne_nil (Path.beyondRoot_pushVersion client.base.path).1 segments)
    ((base.resolved.withoutEnd.push _).extend segments)
    ((base.spelled.withoutEnd.push _).extend segments)

/-- A digit stands as it is in a query. -/
theorem isKept_of_isDigit {letter : Char} (digit : letter.isDigit = true) :
    Percent.isKept isQueryRefused letter = true := by
  have refused : isQueryRefused letter = false := by
    rw [Bool.eq_false_iff]
    intro refused
    simp only [isQueryRefused, List.contains_eq_mem, decide_eq_true_eq, List.mem_cons,
      List.not_mem_nil, or_false] at refused
    rcases refused with rfl | rfl | rfl | rfl | rfl | rfl <;> cases digit
  simp only [Char.isDigit, Bool.and_eq_true, decide_eq_true_eq, ge_iff_le,
    UInt32.le_iff_toNat_le] at digit
  have bounds : 48 ≤ letter.toNat ∧ letter.toNat ≤ 57 := digit
  have visible : 0x20 ≤ letter.toNat ∧ letter.toNat ≤ 0x7E := by omega
  simp [Percent.isKept, visible.1, visible.2, refused]

/-- The pair of a version stands as it is in a query. -/
theorem standsAsItIs_version (version : Nat) :
    StandsAsItIs isQueryRefused ("version".toList ++ '=' :: Nat.toDigits 10 version) := by
  have name : "version".toList.all (Percent.isKept isQueryRefused) = true := by decide
  intro letter member
  rcases List.mem_append.mp member with inName | behind
  · exact List.all_eq_true.mp name letter inName
  · rcases List.mem_cons.mp behind with rfl | inDigits
    · decide
    · exact isKept_of_isDigit (Nat.isDigit_of_mem_toDigits (by decide) (by decide) inDigits)

theorem isSettled_secretAddress {client : Client} (base : client.base.IsSettled)
    (request : SecretRequest) : (client.secretAddress request).IsSettled := by
  unfold secretAddress
  cases request.version with
  | none => exact isSettled_address base request.segments
  | some version => exact (isSettled_address base request.segments).withPair (standsAsItIs_version version)

end SecretSource.Vault.Client
