/-
**What one step does to the slot.**

A step fills the slot or leaves the provider as it is, and its answer tells which. Only configuring and
installing fill a slot, each with the reader that it brings, and only one that is empty.

* `prepare_eq_ok_iff`: the client that a block stands for.
* `configure_cases`, `step_cases`: the two things that configuring, and any step, can do.
* `step_install_of_filled`, `step_configure_of_filled`: what is left to do with a slot that is filled.
-/

import SecretSource.Proofs.Except
import SecretSource.Provider.Run

namespace SecretSource.Provider

open SecretSource.Http (Delivery)

/-- The reader that a step brings along. -/
def Step.reader? (environment : Environment) : Step → Option SecretReader
  | .configure config _ => (prepare environment config).toOption.map .client
  | .install reader => some reader
  | _ => none

/-- Whether an answer says that a slot was filled. -/
def Answer.isFilling : Answer → Bool
  | .configured returned _ _ _ => returned
  | .installed result => result.isOk
  | _ => false

/-! ### Configuring -/

/-- A block stands for the client of what it resolves to. -/
theorem prepare_eq_ok_iff {environment : Environment} {config : Config} {client : Vault.Client} :
    prepare environment config = .ok client ↔
      ∃ resolved, config.resolve environment = .ok resolved ∧
        Vault.Client.make resolved = .ok client := by
  constructor
  · intro done
    obtain ⟨resolved, first, second⟩ := exists_of_bind_eq_ok done
    exact ⟨resolved, first, mapError_eq_ok_iff.mp second⟩
  · rintro ⟨resolved, first, second⟩
    unfold prepare
    rw [first]
    exact mapError_eq_ok_iff.mpr second

/-- Connecting succeeds only with the client of the block, and only if the slot is empty. -/
theorem connect_eq_ok {provider : Instance} {config : Config} {delivery : Delivery} {slot : Slot}
    (done : (connect provider config delivery).result = .ok slot) :
    provider.slot = none ∧
      ∃ client, prepare provider.environment config = .ok client ∧ slot = some (.client client) := by
  unfold connect at done
  cases prepared : prepare provider.environment config with
  | error failure =>
    rw [prepared] at done
    cases done
  | ok client =>
    rw [prepared] at done
    obtain ⟨_, _, installed⟩ := exists_of_bind_eq_ok done
    obtain ⟨empty, filled⟩ := (Slot.install_eq_ok_iff _ _ _).mp installed
    exact ⟨empty, client, rfl, filled⟩

/-- Configuring fails and leaves the provider as it is, or fills the empty slot with the client of the
block. -/
theorem configure_cases (provider : Instance) (config : Config) (delivery : Delivery)
    (diagnostics : Diagnostics) :
    ((configure provider config delivery diagnostics).returned = false ∧
      (configure provider config delivery diagnostics).provider = provider) ∨
    ((configure provider config delivery diagnostics).returned = true ∧ provider.slot = none ∧
      ∃ client, prepare provider.environment config = .ok client ∧
        (configure provider config delivery diagnostics).provider =
          { provider with slot := some (.client client) }) := by
  unfold configure
  cases connected : (connect provider config delivery).result with
  | error failure => exact Or.inl ⟨by simp only [connected], by simp only [connected]⟩
  | ok slot =>
    obtain ⟨empty, client, prepared, filled⟩ := connect_eq_ok connected
    refine Or.inr ⟨by simp only [connected], empty, client, prepared, ?_⟩
    simp only [connected, filled]

/-! ### Any step -/

/-- A step leaves the provider as it is, or it fills the empty slot with the reader that it brings. -/
theorem step_cases (provider : Instance) (next : Step) :
    ((step provider next).2.isFilling = false ∧ (step provider next).1 = provider) ∨
    ((step provider next).2.isFilling = true ∧ provider.slot = none ∧
      ∃ reader, next.reader? provider.environment = some reader ∧
        (step provider next).1 = { provider with slot := some reader }) := by
  cases next with
  | configure config delivery =>
    rcases configure_cases provider config delivery {} with
      ⟨failed, same⟩ | ⟨done, empty, client, prepared, filled⟩
    · exact Or.inl ⟨failed, same⟩
    · refine Or.inr ⟨done, empty, .client client, ?_, filled⟩
      simp only [Step.reader?, prepared]
      rfl
  | install reader =>
    simp only [step, Step.reader?]
    cases slot : provider.slot with
    | none => exact Or.inr ⟨rfl, rfl, reader, rfl, rfl⟩
    | some present => exact Or.inl ⟨rfl, rfl⟩
  | status => exact Or.inl ⟨rfl, rfl⟩
  | schema => exact Or.inl ⟨rfl, rfl⟩
  | validateProvider config => exact Or.inl ⟨rfl, rfl⟩
  | validate state => exact Or.inl ⟨rfl, rfl⟩
  | read state delivery => exact Or.inl ⟨rfl, rfl⟩

/-- A step through a filled slot changes nothing. -/
theorem step_of_filled {provider : Instance} (filled : provider.slot ≠ none) (next : Step) :
    (step provider next).2.isFilling = false ∧ (step provider next).1 = provider := by
  rcases step_cases provider next with unchanged | ⟨_, empty, _⟩
  · exact unchanged
  · exact absurd empty filled

/-- Nothing is installed in a filled slot. -/
theorem step_install_of_filled {provider : Instance} {present : SecretReader}
    (filled : provider.slot = some present) (reader : SecretReader) :
    step provider (.install reader) = (provider, .installed (.error .alreadyConfigured)) := by
  simp only [step, filled, Slot.install]

/-- Configuring a provider with a filled slot fails and leaves it filled. -/
theorem step_configure_of_filled {provider : Instance} (filled : provider.slot ≠ none)
    (config : Config) (delivery : Delivery) :
    ∃ diagnostics sent,
      step provider (.configure config delivery) =
        (provider, .configured false diagnostics sent true) := by
  obtain ⟨failed, same⟩ := step_of_filled filled (.configure config delivery)
  have isFilled : provider.slot.isSome = true := Option.isSome_iff_ne_none.mpr filled
  refine ⟨(configure provider config delivery {}).diagnostics,
    (configure provider config delivery {}).sent, Prod.ext same ?_⟩
  have returned : (configure provider config delivery {}).returned = false := failed
  have kept : (configure provider config delivery {}).provider = provider := same
  simp only [step, returned, kept, isFilled]

end SecretSource.Provider
