/-
**An answer spelled in another way gives the same state.**

White space and the order of members do not count in the body of a read, and members with names that nobody
asked for may stand in it. However the same answer is spelled, the secret is the same, and so is every byte of
the state that is filled from it.

* `SameAnswer`: trees that tell the same, by exchanging members and by putting in such that nobody asked for.
* `withSecret_text_of_sameAnswer`: texts of such trees give states of the same text.
-/

import Mathlib.Logic.Relation
import SecretSource.Proofs.Vault.Payload
import SecretSource.Provider.State

namespace SecretSource.Provider

open SecretSource.Json
open SecretSource.Vault

/-- A member with an unknown name is put into what is told about a version. -/
def VersionInserted : Tree → Tree → Prop := Inserted VersionPayload.shape.names fun _ _ _ => False

/-- A member with an unknown name is put beside the values of a secret or into what is told about its version,
but not into the values. -/
def PayloadInserted : Tree → Tree → Prop :=
  Inserted SecretPayload.shape.names fun name tree tree' => name = "metadata" ∧ VersionInserted tree tree'

/-- A member with an unknown name is put into the body of a read, at its outermost or further inside. -/
def BodyInserted : Tree → Tree → Prop :=
  Inserted SecretBody.shape.names fun name tree tree' => name = "data" ∧ PayloadInserted tree tree'

/-- Two bodies tell the same: one becomes the other by putting members in another order, at any depth, and by
putting in members with unknown names. -/
def SameAnswer : Tree → Tree → Prop :=
  Relation.ReflTransGen fun tree tree' => Reordered tree tree' ∨ BodyInserted tree tree'

theorem SameAnswer.reorder {tree tree' tree'' : Tree} (same : SameAnswer tree tree')
    (reordered : Reordered tree' tree'') : SameAnswer tree tree'' := .tail same (Or.inl reordered)

theorem SameAnswer.insert {tree tree' tree'' : Tree} (same : SameAnswer tree tree')
    (inserted : BodyInserted tree' tree'') : SameAnswer tree tree'' := .tail same (Or.inr inserted)

theorem VersionInserted.on_read {tree tree' : Tree} (inserted : VersionInserted tree tree') (limit : Nat) :
    Reader.on VersionPayload.shape.read limit tree = Reader.on VersionPayload.shape.read limit tree' :=
  Shape.on_read_inserted VersionPayload.shape_placeFree (fun _ _ _ _ nothing => nothing.elim) inserted limit

theorem PayloadInserted.on_read {tree tree' : Tree} (inserted : PayloadInserted tree tree') (limit : Nat) :
    Reader.on SecretPayload.shape.read limit tree = Reader.on SecretPayload.shape.read limit tree' := by
  refine Shape.on_read_inserted SecretPayload.shape_placeFree ?_ inserted limit
  intro field member tree tree' inserted limit draft
  simp only [SecretPayload.shape, List.mem_cons, List.not_mem_nil, or_false] at member
  rcases member with rfl | rfl
  · exact absurd inserted.1 (by decide)
  · simp only [Field.on_ofSlot, inserted.2.on_read]

theorem BodyInserted.on_read {tree tree' : Tree} (inserted : BodyInserted tree tree') (limit : Nat) :
    Reader.on SecretBody.shape.read limit tree = Reader.on SecretBody.shape.read limit tree' := by
  refine Shape.on_read_inserted SecretBody.shape_placeFree ?_ inserted limit
  intro field member tree tree' inserted limit draft
  simp only [SecretBody.shape, List.mem_cons, List.not_mem_nil, or_false] at member
  rcases member with rfl | rfl
  · simp only [Field.on_ofSlot, inserted.2.on_read]
  · exact absurd inserted.1 (by decide)

/-- Bodies that tell the same are read as the same. -/
theorem SameAnswer.on_read {tree tree' : Tree} (same : SameAnswer tree tree') (limit : Nat) :
    Reader.on SecretBody.shape.read limit tree = Reader.on SecretBody.shape.read limit tree' := by
  induction same with
  | refl => rfl
  | tail _ step ih =>
    rcases step with reordered | inserted
    · exact ih.trans (SecretBody.shape_orderFree limit _ _ reordered)
    · exact ih.trans (inserted.on_read limit)

/-- Texts of bodies that tell the same are read as the same. -/
theorem SameAnswer.ofText {tree tree' : Tree} (same : SameAnswer tree tree') {text text' : String}
    (spells : SpellsDocument tree text) (spells' : SpellsDocument tree' text') {body : SecretBody}
    (reads : SecretBody.ofText text = .ok body) : SecretBody.ofText text' = .ok body := by
  have made : (SecretBody.ofText text).toOption = (SecretBody.ofText text').toOption := by
    show (SecretBody.shape.ofText text).toOption = (SecretBody.shape.ofText text').toOption
    rw [Shape.toOption_ofText SecretBody.shape_placeFree spells,
      Shape.toOption_ofText SecretBody.shape_placeFree spells', same.on_read]
  exact toOption_eq_some_iff.mp (made ▸ toOption_eq_some_iff.mpr reads)

/-- **An answer spelled in another way gives the same state, byte for byte.** A body that is read as a secret
spells a tree; every text of a tree that tells the same is read as a secret, too, and a state filled from the one
has the text of the same state filled from the other. -/
theorem withSecret_text_of_sameAnswer {text : String} {body : SecretBody}
    (reads : SecretBody.ofText text = .ok body) :
    ∃ tree, SpellsDocument tree text ∧
      ∀ tree' text', SameAnswer tree tree' → SpellsDocument tree' text' →
        ∃ body', SecretBody.ofText text' = .ok body' ∧ ∀ (state : SecretState) (path : String),
          (state.withSecret (.ofPayload path body'.data)).toJson.toText =
            (state.withSecret (.ofPayload path body.data)).toJson.toText := by
  obtain ⟨tree, spells, -⟩ := Shape.exists_spellsDocument SecretBody.shape_placeFree reads
  exact ⟨tree, spells, fun tree' text' same spells' => ⟨body, same.ofText spells spells' reads, fun _ _ => rfl⟩⟩

/-- An answer without white space. -/
def shortAnswer : String :=
  "\x7b\"data\":\x7b\"data\":\x7b\"port\":5432,\"user\":\"admin\"\x7d," ++
    "\"metadata\":\x7b\"created_time\":\"2024-01-01T00:00:00Z\",\"version\":3\x7d\x7d\x7d"

/-- The same answer with blanks, with its members in another order, and with a member that nobody asked for. -/
def longAnswer : String :=
  "\x7b \"auth\" : [true],\n\"data\":\x7b\"metadata\":\x7b\"created_time\":\"2024-01-01T00:00:00Z\",\"version\":3\x7d ," ++
    "\"data\":\x7b\"user\":\"admin\",\"port\":5432\x7d\x7d\x7d"

/-- Both answers give states of the same text. -/
theorem withSecret_text_longAnswer : ∃ body body', SecretBody.ofText shortAnswer = .ok body ∧
    SecretBody.ofText longAnswer = .ok body' ∧ ∀ (state : SecretState) (path : String),
      (state.withSecret (.ofPayload path body'.data)).toJson.toText =
        (state.withSecret (.ofPayload path body.data)).toJson.toText := by
  have isRead : (SecretBody.ofText shortAnswer).toOption.isSome = true := by decide +kernel
  cases reads : SecretBody.ofText shortAnswer with
  | error fault =>
    rw [reads] at isRead
    cases isRead
  | ok body =>
    let metadata : Option String × Tree := (some "metadata", .object [
      (some "created_time", .text (some "2024-01-01T00:00:00Z")), (some "version", .number (some (.integer 3)))])
    let port : Option String × Tree := (some "port", .number (some (.integer 5432)))
    let user : Option String × Tree := (some "user", .text (some "admin"))
    have short : SpellsDocument
        (.object [(some "data", .object [(some "data", .object [port, user]), metadata])]) shortAnswer :=
      .of_root (by decide +kernel) (by decide +kernel)
    have long : SpellsDocument (.object [(some "auth", .list [.truth true]),
        (some "data", .object [metadata, (some "data", .object [user, port])])]) longAnswer :=
      .of_root (by decide +kernel) (by decide +kernel)
    have values : Reordered (.object [port, user]) (.object [user, port]) :=
      .members (by simp [port, user]) (.swap _ _ _)
    have parts : Reordered (.object [(some "data", .object [user, port]), metadata])
        (.object [metadata, (some "data", .object [user, port])]) :=
      .members (by simp [metadata]) (.swap _ _ _)
    have first := @Reordered.member [] [] (some "data") _ _ (@Reordered.member [] [metadata] (some "data") _ _ values)
    have second := @Reordered.member [] [] (some "data") _ _ parts
    have third := @Inserted.here SecretBody.shape.names
      (fun name tree tree' => name = "data" ∧ PayloadInserted tree tree') []
      [(some "data", .object [metadata, (some "data", .object [user, port])])] "auth" (.list [.truth true]) (by decide)
    have same := SameAnswer.insert (.reorder (.reorder .refl first) second) third
    obtain ⟨tree, spells, others⟩ := withSecret_text_of_sameAnswer reads
    obtain rfl := spells.unique short
    obtain ⟨body', reads', texts⟩ := others _ longAnswer same long
    exact ⟨body, body', rfl, reads', texts⟩

end SecretSource.Provider
