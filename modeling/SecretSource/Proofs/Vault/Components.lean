/-
**Mount and name show in the path alone.**

The parts of an address are cut at the signs between them: an at sign, a colon, a slash, a question mark, a
number sign. Whatever mount and name hold, none of these signs leaves the segment it was written in, so two
requests that ask for the same version in the same namespace differ in nothing but their paths, and what is
printed of each is cut at the same places again.

* `askedQuery`: the query of a request, from that of the base address and the version.
* `composed_sameOutsidePath`: what two requests have in common, and what it is.
-/

import SecretSource.Proofs.Vault.Composing

namespace SecretSource.Http

open SecretSource.Url (Address)

/-- A server is told the same of two addresses that differ in nothing but their paths. -/
theorem sameOutsidePath_toldAddress {first second : Address} (same : first.SameOutsidePath second) :
    (toldAddress first).SameOutsidePath (toldAddress second) :=
  ⟨same.isSecure, rfl, rfl, same.host, same.port, same.query, rfl⟩

/-- The headers of a request do not depend on the path of its address. -/
theorem headers_compose_eq {first second : Address} (same : first.SameOutsidePath second)
    (settings : Settings) (headers : List (String × String)) :
    (compose settings first headers).headers = (compose settings second headers).headers := by
  have host : first.hostText = second.hostText := by
    unfold Address.hostText
    rw [same.host, same.port]
  have sameCredentials : credentials first = credentials second := by
    unfold credentials
    rw [same.user, same.password]
  simp only [compose, host, sameCredentials]

end SecretSource.Http

namespace SecretSource.Vault

open SecretSource.Url (Address Target readTail)

/-- A query with the version that is asked for behind it; the query stays as it is without one. -/
def askedQuery (query : Option (List Char)) : Option Nat → Option (List Char)
  | none => query
  | some version =>
    let before := match query.filter (· ≠ []) with
      | some old => old ++ ['&']
      | none => []
    some (before ++ ("version=" ++ toString version).toList)

/-- The decimal text of a version is what is written behind its name. -/
theorem toList_versionText (version : Nat) :
    ("version=" ++ toString version).toList = "version".toList ++ '=' :: Nat.toDigits 10 version := by
  have digits : (toString version).toList = Nat.toDigits 10 version := Nat.toList_repr
  rw [String.toList_append, digits]
  rfl

namespace Client

variable {client : Client}

/-- A version is put behind the query of the base address. -/
theorem versioned_query (client : Client) (version : Option Nat) :
    (client.versioned version).query = askedQuery client.base.query version := by
  cases version with
  | none => rfl
  | some version =>
    rw [versioned, askedQuery, toList_versionText, Address.withPair]
    rcases client.base.query with _ | _ | ⟨first, rest⟩
    · rfl
    · rfl
    · exact congrArg some (List.append_assoc (first :: rest) ['&'] _).symm

/-- The address of a request is the base address, but for its path and the version in its query. -/
theorem sameOutsidePath_withQuery (client : Client) (request : SecretRequest) :
    { client.base with query := askedQuery client.base.query request.version }.SameOutsidePath
      (client.secretAddress request) := by
  rw [← versioned_query]
  refine Address.SameOutsidePath.trans ?_ (client.sameOutsidePath_secretAddress request)
  cases request.version <;> exact ⟨rfl, rfl, rfl, rfl, rfl, rfl, rfl⟩

/-- **Mount and name show in the path alone.** Two requests for the same version in the same namespace are
composed with the same method and the same headers, and their addresses differ in nothing but their paths.
Outside the path the address of a request is that of the client, with the version behind its query. What is
printed is the same text before the path and the same text behind it; the text of the path starts with a
slash, and reading it with what follows gives the path, the query and the fragment. What a server receives
is the request that was composed. -/
theorem composed_sameOutsidePath {config : Config} (made : make config = .ok client)
    {first second : SecretRequest} (sameNamespace : first.namespaceName = second.namespaceName)
    (sameVersion : first.version = second.version) :
    (client.composed first).method = (client.composed second).method ∧
    (client.composed first).headers = (client.composed second).headers ∧
    (client.composed first).address.SameOutsidePath (client.composed second).address ∧
    (client.secretAddress first).SameOutsidePath (client.secretAddress second) ∧
    ∃ base, Target.read config.baseUrl = .ok (.web base) ∧
      ∃ before behind : List Char, ∀ request ∈ [first, second],
        let address := client.secretAddress request
        { base with query := askedQuery base.query first.version }.SameOutsidePath address ∧
        address.written = before ++ address.path.written ++ behind ∧
        address.path.written.head? = some '/' ∧
        readTail (address.path.written ++ behind) = ⟨address.path, address.query, address.fragment⟩ ∧
        ∀ delivery sent, sent ∈ (client.read request delivery).sent → sent = client.composed request := by
  obtain ⟨-, web, -, -⟩ := make_eq_ok made
  have settled := Url.isSettled_of_read web
  have same := client.sameOutsidePath_of_version_eq sameVersion
  refine ⟨rfl, ?_, Http.sameOutsidePath_toldAddress same, same, client.base, web,
    (client.secretAddress first).beforePath, (client.secretAddress first).behindPath,
    fun request member => ?_⟩
  · rw [composed, composed, sameNamespace]
    exact Http.headers_compose_eq same client.settings _
  · -- Either request is like the first one outside its path.
    have like : request.version = first.version := by
      rcases List.mem_cons.mp member with rfl | member
      · rfl
      · rw [List.mem_singleton.mp member, sameVersion]
    have outside := client.sameOutsidePath_of_version_eq like
    have address := isSettled_secretAddress settled request
    refine ⟨?_, ?_, ?_, ?_, fun _ _ => eq_composed_of_mem_read_sent⟩
    · rw [← like]
      exact client.sameOutsidePath_withQuery request
    · rw [← outside.beforePath_eq, ← outside.behindPath_eq]
      exact Address.written_eq_append _
    · rw [Url.Path.written_eq_joined address.rooted, List.head?_cons]
    · rw [← outside.behindPath_eq]
      exact address.readTail_written

/-- Separators in the mount and in the name of a request, next to a request for plain names. -/
theorem composed_sameOutsidePath_separators :
    ∃ (config : Config) (client : Client) (first second : SecretRequest),
      config = { address := "http://u:p@vault.example.com:8200/base?list=on#part/", token := "t" } ∧
      first = { mount := "kv?x=1#y", name := "a&version=1/@evil:80\\%2e\t#",
                version := some 18446744073709551615 } ∧
      second = { mount := "kv", name := "ab", version := some 18446744073709551615 } ∧
      make config = .ok client ∧
      first.namespaceName = second.namespaceName ∧ first.version = second.version ∧
      (client.composed first).headers = (client.composed second).headers ∧
      (client.secretAddress first).SameOutsidePath (client.secretAddress second) ∧
      (client.secretAddress first).query = some "list=on&version=18446744073709551615".toList := by
  obtain ⟨config, isConfig⟩ : ∃ config : Config,
    config = { address := "http://u:p@vault.example.com:8200/base?list=on#part/", token := "t" } :=
      ⟨_, rfl⟩
  obtain ⟨first, isFirst⟩ : ∃ request : SecretRequest,
    request = { mount := "kv?x=1#y", name := "a&version=1/@evil:80\\%2e\t#",
                version := some 18446744073709551615 } := ⟨_, rfl⟩
  obtain ⟨second, isSecond⟩ : ∃ request : SecretRequest,
    request = { mount := "kv", name := "ab", version := some 18446744073709551615 } := ⟨_, rfl⟩
  have sameNamespace : first.namespaceName = second.namespaceName := by rw [isFirst, isSecond]
  have sameVersion : first.version = second.version := by rw [isFirst, isSecond]
  have built : (make config).isOk = true := by
    rw [isConfig]
    decide +kernel
  have isBase : (Target.read config.baseUrl).toOption = some (.web {
      isSecure := false
      user := ['u']
      password := ['p']
      host := .name "vault.example.com".toList
      port := some 8200
      path := ["base".toList]
      query := some "list=on".toList
      fragment := some "part".toList }) := by
    rw [isConfig]
    decide +kernel
  cases made : make config with
  | error failure =>
    rw [made] at built
    cases built
  | ok client =>
    obtain ⟨-, headers, -, same, base, web, before, behind, parts⟩ :=
      composed_sameOutsidePath made sameNamespace sameVersion
    have query := (parts first List.mem_cons_self).1.query
    rw [web] at isBase
    cases isBase
    rw [show first.version = some 18446744073709551615 by rw [isFirst]] at query
    refine ⟨config, client, first, second, isConfig, isFirst, isSecond, made, sameNamespace, sameVersion,
      headers, same, query.symm.trans ?_⟩
    show askedQuery (some "list=on".toList) (some 18446744073709551615) = _
    decide +kernel

end Client

end SecretSource.Vault
