/-
**What is read of an answer does not depend on how it is spelled.**

The readers of the bodies of answers are put together from readers that neither report places nor mind the
order of members, and their records pass over names that they do not know.

* `SecretBody.shape_placeFree`, `SecretBody.shape_orderFree`: the body of a read is read from its tree, in any
  order.
* `TokenBody.shape_placeFree`: so is the body of a look at a token.
-/

import SecretSource.Proofs.Json.Rearranging
import SecretSource.Vault.Payload

namespace SecretSource.Vault

open SecretSource.Json
open SecretSource.Time (Instant)

/-! ### Times -/

theorem readCreatedTime_placeFree : readCreatedTime.PlaceFree := readChecked_placeFree _ _

theorem readCreatedTime_orderFree : readCreatedTime.OrderFree := readChecked_orderFree _ _

/-- The time of a deletion is told by a text that may be null, and by nothing else. -/
theorem exists_readDeletionTime : ∃ tell : Option String → Option (Option Instant), ∀ limit node,
    (readDeletionTime limit node).toOption = (readOptional readString limit node).toOption.bind tell :=
  ⟨_, fun _ _ => toOption_bind _ _⟩

theorem readDeletionTime_placeFree : readDeletionTime.PlaceFree := by
  obtain ⟨tell, reads⟩ := exists_readDeletionTime
  intro limit node tree whole
  rw [Reader.on, reads, reads, readOptional_placeFree readString_placeFree limit node tree whole]
  rfl

theorem readDeletionTime_orderFree : readDeletionTime.OrderFree := by
  obtain ⟨tell, reads⟩ := exists_readDeletionTime
  intro limit tree tree' reordered
  have same := readOptional_orderFree readString_orderFree limit tree tree' reordered
  rw [Reader.on, Reader.on, reads, reads]
  exact congrArg (Option.bind · tell) same

/-! ### What is told about a version -/

theorem VersionPayload.shape_placeFree : VersionPayload.shape.PlaceFree := by
  intro field member
  simp only [VersionPayload.shape, List.mem_cons, List.not_mem_nil, or_false] at member
  rcases member with rfl | rfl | rfl | rfl | rfl
  · exact Field.ofSlot_placeFree readCreatedTime_placeFree
  · exact Field.ofSlot_placeFree readDeletionTime_placeFree
  · exact Field.ofSlot_placeFree readFlag_placeFree
  · exact Field.ofSlot_placeFree readNatural_placeFree
  · exact Field.ofSlot_placeFree (readOptional_placeFree (readTable_placeFree readString_placeFree))

theorem VersionPayload.shape_apart : VersionPayload.shape.fields.Pairwise Field.Apart := by
  simp only [VersionPayload.shape, List.pairwise_cons, List.mem_cons, List.not_mem_nil, or_false,
    forall_eq_or_imp, forall_eq, List.Pairwise.nil, and_true, false_imp_iff, implies_true]
  and_intros
  all_goals exact Field.ofSlot_apart (fun _ _ => rfl) (fun _ _ => rfl) fun _ _ _ => rfl

theorem VersionPayload.shape_orderFree : VersionPayload.shape.read.OrderFree := by
  refine Shape.read_orderFree shape_placeFree shape_apart fun field member => ?_
  simp only [VersionPayload.shape, List.mem_cons, List.not_mem_nil, or_false] at member
  rcases member with rfl | rfl | rfl | rfl | rfl
  · exact Field.ofSlot_orderFree readCreatedTime_orderFree
  · exact Field.ofSlot_orderFree readDeletionTime_orderFree
  · exact Field.ofSlot_orderFree readFlag_orderFree
  · exact Field.ofSlot_orderFree readNatural_orderFree
  · exact Field.ofSlot_orderFree
      (readOptional_orderFree (readTable_orderFree readString_placeFree readString_orderFree))

/-! ### A version of a secret -/

theorem SecretPayload.shape_placeFree : SecretPayload.shape.PlaceFree := by
  intro field member
  simp only [SecretPayload.shape, List.mem_cons, List.not_mem_nil, or_false] at member
  rcases member with rfl | rfl
  · exact Field.ofSlot_placeFree (readOptional_placeFree (readTable_placeFree readAny_placeFree))
  · exact Field.ofSlot_placeFree (Shape.read_placeFree VersionPayload.shape_placeFree)

theorem SecretPayload.shape_apart : SecretPayload.shape.fields.Pairwise Field.Apart := by
  simp only [SecretPayload.shape, List.pairwise_cons, List.mem_cons, List.not_mem_nil, or_false,
    forall_eq, List.Pairwise.nil, and_true, false_imp_iff, implies_true]
  exact Field.ofSlot_apart (fun _ _ => rfl) (fun _ _ => rfl) fun _ _ _ => rfl

theorem SecretPayload.shape_orderFree : SecretPayload.shape.read.OrderFree := by
  refine Shape.read_orderFree shape_placeFree shape_apart fun field member => ?_
  simp only [SecretPayload.shape, List.mem_cons, List.not_mem_nil, or_false] at member
  rcases member with rfl | rfl
  · exact Field.ofSlot_orderFree
      (readOptional_orderFree (readTable_orderFree readAny_placeFree readAny_orderFree))
  · exact Field.ofSlot_orderFree VersionPayload.shape_orderFree

/-! ### The body of a read -/

theorem SecretBody.shape_placeFree : SecretBody.shape.PlaceFree := by
  intro field member
  simp only [SecretBody.shape, List.mem_cons, List.not_mem_nil, or_false] at member
  rcases member with rfl | rfl
  · exact Field.ofSlot_placeFree (Shape.read_placeFree SecretPayload.shape_placeFree)
  · exact Field.ofSlot_placeFree (readOptional_placeFree (readList_placeFree readString_placeFree))

theorem SecretBody.shape_apart : SecretBody.shape.fields.Pairwise Field.Apart := by
  simp only [SecretBody.shape, List.pairwise_cons, List.mem_cons, List.not_mem_nil, or_false,
    forall_eq, List.Pairwise.nil, and_true, false_imp_iff, implies_true]
  exact Field.ofSlot_apart (fun _ _ => rfl) (fun _ _ => rfl) fun _ _ _ => rfl

theorem SecretBody.shape_orderFree : SecretBody.shape.read.OrderFree := by
  refine Shape.read_orderFree shape_placeFree shape_apart fun field member => ?_
  simp only [SecretBody.shape, List.mem_cons, List.not_mem_nil, or_false] at member
  rcases member with rfl | rfl
  · exact Field.ofSlot_orderFree SecretPayload.shape_orderFree
  · exact Field.ofSlot_orderFree
      (readOptional_orderFree (readList_orderFree readString_placeFree readString_orderFree))

/-! ### The body of a look at a token -/

theorem TokenInfo.shape_placeFree : TokenInfo.shape.PlaceFree := by
  intro field member
  simp only [TokenInfo.shape, List.mem_cons, List.not_mem_nil, or_false] at member
  rcases member with rfl | rfl | rfl | rfl | rfl
  · exact Field.ofSlot_placeFree readString_placeFree
  · exact Field.ofSlot_placeFree readString_placeFree
  · exact Field.ofSlot_placeFree (readList_placeFree readString_placeFree)
  · exact Field.ofSlot_placeFree readNatural_placeFree
  · exact Field.ofSlot_placeFree readFlag_placeFree

theorem TokenBody.shape_placeFree : TokenBody.shape.PlaceFree := by
  intro field member
  simp only [TokenBody.shape, List.mem_cons, List.not_mem_nil, or_false] at member
  subst member
  exact Field.ofSlot_placeFree (Shape.read_placeFree TokenInfo.shape_placeFree)

end SecretSource.Vault
