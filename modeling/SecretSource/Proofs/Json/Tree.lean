/-
**JSON values without their places.**

A `Tree` is what a text spells: its values, without places and white space. `Node.tree?` forgets the places
of a tree that was read to its end; `Tree.node` puts everything at one place.

* `Tree.isSame_iff`: it can be computed whether two trees are the same.
* `Tree.tree?_node`: a tree put at one place is the same tree.
* `Node.skip_eq_ok`: what was read to its end is passed.
-/

import SecretSource.Json.Decode

namespace SecretSource.Json

/-- A value as a text spells it. A number is missing if it is out of range, and a text, also that of a name, if
it holds half of a surrogate pair that stands alone. -/
inductive Tree where
  | null
  | truth (value : Bool)
  | number (value : Option Number)
  | text (value : Option String)
  | list (items : List Tree)
  | object (rows : List (Option String × Tree))

/-! ### Comparing -/

mutual

/-- Whether two trees are the same. -/
def Tree.isSame : Tree → Tree → Bool
  | .null, .null => true
  | .truth value, .truth value' => value == value'
  | .number value, .number value' => value == value'
  | .text value, .text value' => value == value'
  | .list items, .list items' => Tree.areSame items items'
  | .object rows, .object rows' => Tree.areSameRows rows rows'
  | _, _ => false

/-- Whether two lists hold the same trees. -/
def Tree.areSame : List Tree → List Tree → Bool
  | [], [] => true
  | tree :: rest, tree' :: rest' => tree.isSame tree' && Tree.areSame rest rest'
  | _, _ => false

/-- Whether two objects have the same members. -/
def Tree.areSameRows : List (Option String × Tree) → List (Option String × Tree) → Bool
  | [], [] => true
  | (name, tree) :: rest, (name', tree') :: rest' =>
    name == name' && tree.isSame tree' && Tree.areSameRows rest rest'
  | _, _ => false

end

mutual

theorem Tree.isSame_iff : ∀ tree tree' : Tree, tree.isSame tree' = true ↔ tree = tree'
  | .null, tree' | .truth _, tree' | .number _, tree' | .text _, tree' => by
    cases tree' <;> simp [Tree.isSame]
  | .list items, tree' => by
    cases tree' <;> simp [Tree.isSame, Tree.areSame_iff items]
  | .object rows, tree' => by
    cases tree' <;> simp [Tree.isSame, Tree.areSameRows_iff rows]

theorem Tree.areSame_iff : ∀ items items' : List Tree, Tree.areSame items items' = true ↔ items = items'
  | [], items' => by cases items' <;> simp [Tree.areSame]
  | tree :: rest, items' => by
    cases items' <;> simp [Tree.areSame, Tree.isSame_iff tree, Tree.areSame_iff rest]

theorem Tree.areSameRows_iff :
    ∀ rows rows' : List (Option String × Tree), Tree.areSameRows rows rows' = true ↔ rows = rows'
  | [], rows' => by cases rows' <;> simp [Tree.areSameRows]
  | (name, tree) :: rest, rows' => by
    cases rows' <;> simp [Tree.areSameRows, Tree.isSame_iff tree, Tree.areSameRows_iff rest, Prod.ext_iff]

end

instance : DecidableEq Tree := fun tree tree' => decidable_of_iff _ (Tree.isSame_iff tree tree')

/-! ### Forgetting places -/

mutual

/-- A value without its places, if it was read to its end. -/
def Node.tree? : Node → Option Tree
  | .null _ => some .null
  | .truth value _ => some (.truth value)
  | .number value _ => some (.number value.toOption)
  | .text value _ => some (.text value.toOption)
  | .list _ items => items.trees?.map .list
  | .object _ members => members.rows?.map .object
  | .broken _ => none

/-- The values of a list without their places. -/
def Items.trees? : Items → Option (List Tree)
  | .closed _ => some []
  | .broken _ => none
  | .more value _ rest => value.tree?.bind fun first => rest.trees?.map (first :: ·)

/-- The members of an object without their places. -/
def Members.rows? : Members → Option (List (Option String × Tree))
  | .closed _ => some []
  | .broken _ => none
  | .more name _ value _ rest =>
    value.tree?.bind fun first => rest.rows?.map ((name.toOption, first) :: ·)

end

theorem Items.trees?_more {value : Node} {leave : Place} {rest : Items} {trees : List Tree}
    (all : (Items.more value leave rest).trees? = some trees) :
    ∃ first others, value.tree? = some first ∧ rest.trees? = some others ∧ trees = first :: others := by
  obtain ⟨first, isFirst, behind⟩ := Option.bind_eq_some_iff.mp all
  obtain ⟨others, areOthers, rfl⟩ := Option.map_eq_some_iff.mp behind
  exact ⟨first, others, isFirst, areOthers, rfl⟩

theorem Members.rows?_more {name : Except Fault String} {leaveName leave : Place} {value : Node}
    {rest : Members} {rows : List (Option String × Tree)}
    (all : (Members.more name leaveName value leave rest).rows? = some rows) :
    ∃ first others, value.tree? = some first ∧ rest.rows? = some others ∧
      rows = (name.toOption, first) :: others := by
  obtain ⟨first, isFirst, behind⟩ := Option.bind_eq_some_iff.mp all
  obtain ⟨others, areOthers, rfl⟩ := Option.map_eq_some_iff.mp behind
  exact ⟨first, others, isFirst, areOthers, rfl⟩

mutual

/-- What was read to its end is passed. -/
theorem Node.skip_eq_ok (node : Node) {tree : Tree} (whole : node.tree? = some tree) :
    node.skip = .ok () := by
  cases node with
  | null _ => rfl
  | truth _ _ => rfl
  | number _ _ => rfl
  | text _ _ => rfl
  | list _ items =>
    obtain ⟨trees, all, -⟩ := Option.map_eq_some_iff.mp whole
    exact Items.skip_eq_ok items all
  | object _ members =>
    obtain ⟨rows, all, -⟩ := Option.map_eq_some_iff.mp whole
    exact Members.skip_eq_ok members all
  | broken _ => cases whole

theorem Items.skip_eq_ok (items : Items) {trees : List Tree} (all : items.trees? = some trees) :
    items.skip = .ok () := by
  cases items with
  | closed _ => rfl
  | broken _ => cases all
  | more value leave rest =>
    obtain ⟨first, others, isFirst, areOthers, -⟩ := Items.trees?_more all
    rw [Items.skip, Node.skip_eq_ok value isFirst]
    exact Items.skip_eq_ok rest areOthers

theorem Members.skip_eq_ok (members : Members) {rows : List (Option String × Tree)}
    (all : members.rows? = some rows) : members.skip = .ok () := by
  cases members with
  | closed _ => rfl
  | broken _ => cases all
  | more name leaveName value leave rest =>
    obtain ⟨first, others, isFirst, areOthers, -⟩ := Members.rows?_more all
    rw [Members.skip, Node.skip_eq_ok value isFirst]
    exact Members.skip_eq_ok rest areOthers

end

/-! ### All at one place -/

/-- A value, or a fault at the start. -/
def atStart (problem : Problem) : Option α → Except Fault α
  | some value => .ok value
  | none => .error ⟨problem, .start⟩

@[simp] theorem toOption_atStart (problem : Problem) (value : Option α) :
    (atStart problem value).toOption = value := by
  cases value <;> rfl

mutual

/-- A tree at one place. -/
def Tree.node : Tree → Node
  | .null => .null .start
  | .truth value => .truth value .start
  | .number value => .number (atStart .numberOutOfRange value) .start
  | .text value => .text (atStart .loneSurrogate value) .start
  | .list items => .list .start (Tree.items items)
  | .object rows => .object .start (Tree.members rows)

/-- Trees of a list at one place. -/
def Tree.items : List Tree → Items
  | [] => .closed .start
  | tree :: rest => .more tree.node .start (Tree.items rest)

/-- Members of an object at one place. -/
def Tree.members : List (Option String × Tree) → Members
  | [] => .closed .start
  | (name, tree) :: rest =>
    .more (atStart .loneSurrogate name) .start tree.node .start (Tree.members rest)

end

mutual

/-- A tree put at one place is the same tree. -/
theorem Tree.tree?_node : ∀ tree : Tree, tree.node.tree? = some tree
  | .null => rfl
  | .truth _ => rfl
  | .number value => by simp [Tree.node, Node.tree?]
  | .text value => by simp [Tree.node, Node.tree?]
  | .list items => by rw [Tree.node, Node.tree?, Tree.trees?_items]; rfl
  | .object rows => by rw [Tree.node, Node.tree?, Tree.rows?_members]; rfl

theorem Tree.trees?_items : ∀ items : List Tree, (Tree.items items).trees? = some items
  | [] => rfl
  | tree :: rest => by
    rw [Tree.items, Items.trees?, Tree.tree?_node, Tree.trees?_items]
    rfl

theorem Tree.rows?_members : ∀ rows : List (Option String × Tree), (Tree.members rows).rows? = some rows
  | [] => rfl
  | (name, tree) :: rest => by
    rw [Tree.members, Members.rows?, Tree.tree?_node, Tree.rows?_members, toOption_atStart]
    rfl

end

end SecretSource.Json
