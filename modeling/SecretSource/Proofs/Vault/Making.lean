/-
**When a client can be made.**

A configuration that passes its check makes a client, unless it leaves no time for a request. The address is
read twice, as it is given and without slashes at its end; the second reading accepts what the first does, and
gives the same scheme, user, password, host and port.

* `checkAddress_eq_ok_iff`: an address passes its check exactly if it is one of the web; it then has a host.
* `make_of_check`: a configuration that passes its check makes a client for its address, unless there is no time.
* `make_followsCheck`: when making a client fails, with which failure, and what the client is otherwise.
-/

import SecretSource.Proofs.Url.Authority
import SecretSource.Proofs.Vault.Composing

namespace SecretSource.Vault

open SecretSource.Text
open SecretSource.Url (Address Target)

/-- An address of the web has a host, so an address passes its check exactly if it is one of the web. -/
theorem checkAddress_eq_ok_iff {text : String} :
    checkAddress text = .ok () ↔ ∃ address, Target.read text = .ok (.web address) := by
  constructor
  · intro passes
    unfold checkAddress at passes
    split at passes
    · cases passes
    · cases passes
    · exact ⟨_, ‹_›⟩
  · rintro ⟨address, web⟩
    obtain ⟨-, -, -, -, -, someHost, -⟩ := Url.exists_front_of_readCleaned web
    unfold checkAddress
    rw [web]
    exact if_neg fun noHost => someHost (List.isEmpty_iff.mp noHost)

namespace Config

/-- What passes the check of a configuration is an address of the web, with or without slashes at its end. -/
theorem exists_base_of_check {config : Config} (passes : config.check = .ok ()) :
    ∃ address base, Target.read config.address = .ok (.web address) ∧
      Target.read config.baseUrl = .ok (.web base) ∧ base.SameAuthority address := by
  unfold check at passes
  split at passes
  · cases passes
  · obtain ⟨address, web⟩ := checkAddress_eq_ok_iff.mp passes
    obtain ⟨base, reads, same⟩ := Url.exists_read_trimEnd web
    exact ⟨address, base, web, reads, same⟩

end Config

namespace Client

/-- The failure of a client that is given no time for a request. -/
def noTime : Failure :=
  .platform (.invalidInput "request timeout must be non-zero")

/-- The settings of a client are refused only without time. -/
theorem settings_check (timeout : Nat) :
    ({ timeout } : Http.Settings).check.mapError Failure.platform =
      if timeout = 0 then .error noTime else .ok () := by
  have agent : Http.isHeaderValue "terraform-provider-vault/0.1.0" = true := by decide
  unfold Http.Settings.check
  rw [if_pos agent]
  split <;> rfl

/-- A configuration that passes its check makes a client for the address that it was checked for, if it leaves
time for a request. -/
theorem make_of_check {config : Config} (passes : config.check = .ok ()) :
    ∃ address base, Target.read config.address = .ok (.web address) ∧
      Target.read config.baseUrl = .ok (.web base) ∧ base.SameAuthority address ∧
      make config = if config.timeout = 0 then .error noTime
        else .ok { config, base, settings := { timeout := config.timeout } } := by
  obtain ⟨address, base, web, reads, same⟩ := Config.exists_base_of_check passes
  refine ⟨address, base, web, reads, same, ?_⟩
  unfold make
  rw [passes, reads]
  show ((Http.Settings.check _).mapError Failure.platform >>= _) = _
  rw [settings_check]
  split <;> rfl

/-- **A client can be made of every configuration that passes its check.** -/
theorem make_followsCheck (config : Config) :
    (∀ failure, make config = .error failure ↔
      config.check = .error failure ∨
        config.check = .ok () ∧ config.timeout = 0 ∧ failure = noTime) ∧
    (config.check = .ok () → config.timeout ≠ 0 →
      ∃ client address, make config = .ok client ∧ client.config = config ∧
        Target.read config.baseUrl = .ok (.web client.base) ∧
        Target.read config.address = .ok (.web address) ∧ client.base.SameAuthority address) ∧
    (checkAddress config.address = .ok () → ∃ base, Target.read config.baseUrl = .ok (.web base)) ∧
    (∀ address, Target.read config.address = .ok (.web address) →
      address.host.written ≠ [] ∧ checkAddress config.address = .ok ()) := by
  refine ⟨fun failure => ?_, fun passes someTime => ?_, fun accepted => ?_, fun address web => ?_⟩
  · cases passes : config.check with
    | error earlier =>
      have fails : make config = .error earlier := by
        unfold make
        rw [passes]
        rfl
      rw [fails]
      constructor
      · rintro ⟨⟩
        exact Or.inl rfl
      · rintro (⟨⟨⟩⟩ | ⟨⟨⟩, -, -⟩)
        rfl
    | ok =>
      obtain ⟨address, base, -, -, -, makes⟩ := make_of_check passes
      rw [makes]
      split
      · constructor
        · rintro ⟨⟩
          exact Or.inr ⟨rfl, ‹_›, rfl⟩
        · rintro (⟨⟨⟩⟩ | ⟨-, -, rfl⟩)
          rfl
      · exact ⟨nofun, fun either => either.elim nofun fun ⟨_, noTime, _⟩ => absurd noTime ‹_›⟩
  · obtain ⟨address, base, web, reads, same, makes⟩ := make_of_check passes
    rw [if_neg someTime] at makes
    exact ⟨_, address, makes, rfl, reads, web, same⟩
  · obtain ⟨address, web⟩ := checkAddress_eq_ok_iff.mp accepted
    obtain ⟨base, reads, -⟩ := Url.exists_read_trimEnd web
    exact ⟨base, reads⟩
  · obtain ⟨-, -, -, -, -, someHost, -⟩ := Url.exists_front_of_readCleaned web
    exact ⟨someHost, checkAddress_eq_ok_iff.mpr ⟨address, web⟩⟩

/-- An address with a user, a numeric host and a port, and with slashes behind a space at its end. -/
theorem make_followsCheck_spaceBeforeSlashes :
    ∃ (config : Config) (client : Client) (address : Address),
      config = { address := "HTTPS:\\\\us%20er:p@s@[2001:DB8::1]:8443/kv?list=on# ///", token := "t" } ∧
      address = {
        isSecure := true
        user := "us%20er".toList
        password := "p%40s".toList
        host := .ipv6 [0x2001, 0xDB8, 0, 0, 0, 0, 0, 1]
        port := some 8443
        path := ["kv".toList]
        query := some "list=on".toList
        fragment := some "%20///".toList } ∧
      config.check = .ok () ∧ config.timeout ≠ 0 ∧ make config = .ok client ∧
      Target.read config.address = .ok (.web address) ∧ client.base.SameAuthority address ∧
      Target.read config.baseUrl = .ok (.web client.base) ∧
      client.base = { address with fragment := some [] } := by
  obtain ⟨config, isConfig⟩ : ∃ config : Config,
    config = { address := "HTTPS:\\\\us%20er:p@s@[2001:DB8::1]:8443/kv?list=on# ///", token := "t" } :=
      ⟨_, rfl⟩
  have passes : config.check = .ok () := by
    rw [isConfig]
    exact eq_ok_of_isOk (by decide +kernel)
  have someTime : config.timeout ≠ 0 := by
    rw [isConfig]
    decide
  obtain ⟨client, address, made, -, base, web, same⟩ := (make_followsCheck config).2.1 passes someTime
  have asGiven : (Target.read config.address).toOption = some (.web {
      isSecure := true
      user := "us%20er".toList
      password := "p%40s".toList
      host := .ipv6 [0x2001, 0xDB8, 0, 0, 0, 0, 0, 1]
      port := some 8443
      path := ["kv".toList]
      query := some "list=on".toList
      fragment := some "%20///".toList }) := by
    rw [isConfig]
    decide +kernel
  have trimmed : (Target.read config.baseUrl).toOption = (Target.read config.address).toOption.map fun target =>
      match target with
      | .web address => .web { address with fragment := some [] }
      | other => other := by
    rw [isConfig]
    decide +kernel
  rw [base, web] at trimmed
  rw [web] at asGiven
  have isBase : client.base = { address with fragment := some [] } := Target.web.inj (Option.some.inj trimmed)
  cases asGiven
  exact ⟨config, client, _, isConfig, rfl, passes, someTime, made, web, same, base, isBase⟩

end Client

end SecretSource.Vault
