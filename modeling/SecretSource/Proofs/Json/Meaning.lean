/-
**What a tree means, and that it is read back.**

A tree means a value: in an object the last member of a name counts, and the rows are in order. A reader of
values of any kind gives what its tree means, if brackets are not nested too deeply. What it has given is
written as a text from which the same is read.

* `Tree.value?`: what a tree means, if its numbers are in range and its texts are well formed.
* `value?_of_on_readAny`: values are read as what they mean.
* `on_readAny_tree`: a value in order is read back from its tree.
* `Value.ofText_toText`: a value in order is read back from its text.
-/

import SecretSource.Proofs.Json.Writing

namespace SecretSource.Json

open SecretSource.Number

variable {α : Type}

/-! ### Rows -/

/-- What is made of a member with its name. -/
def rowOf (make : Tree → Option α) (row : Option String × Tree) : Option (String × α) :=
  row.1.bind fun name => (make row.2).map (name, ·)

theorem rowOf_eq_some_iff {make : Tree → Option α} {row : Option String × Tree} {name : String} {value : α} :
    rowOf make row = some (name, value) ↔ row.1 = some name ∧ make row.2 = some value := by
  obtain ⟨name', tree⟩ := row
  cases name' <;> cases made : make tree <;> simp [rowOf, made]

/-- Members are added to a table as rows, one after the other. -/
theorem foldlM_addRow (read : Reader α) (limit : Nat) (table : Table α) (rows : List (Option String × Tree)) :
    rows.foldlM (addRow read limit) table =
      (rows.mapM (rowOf (read.on limit))).map fun rows =>
        rows.foldl (fun table row => table.insert row.1 row.2) table := by
  induction rows generalizing table with
  | nil => rfl
  | cons row rest ih =>
    have added : addRow read limit table row =
        (rowOf (read.on limit) row).map fun row => table.insert row.1 row.2 := by
      obtain ⟨name, tree⟩ := row
      cases name <;> cases made : read.on limit tree <;> simp [addRow, rowOf, made]
    rw [List.foldlM_cons, added, List.mapM_cons]
    cases rowOf (read.on limit) row with
    | none => rfl
    | some first =>
      show rest.foldlM (addRow read limit) (table.insert first.1 first.2) =
        ((rest.mapM (rowOf (read.on limit))).bind fun others => some (first :: others)).map _
      rw [ih]
      cases rest.mapM (rowOf (read.on limit)) <;> rfl

theorem foldlM_addRow_empty (read : Reader α) (limit : Nat) (rows : List (Option String × Tree)) :
    rows.foldlM (addRow read limit) ∅ = (rows.mapM (rowOf (read.on limit))).map Table.ofRows :=
  foldlM_addRow read limit ∅ rows

/-! ### What trees mean -/

/-- What holds of a tree if it holds of its parts holds of every tree. -/
@[elab_as_elim]
theorem Tree.inductOn {motive : Tree → Prop} (tree : Tree) (null : motive .null)
    (truth : ∀ value, motive (.truth value)) (number : ∀ value, motive (.number value))
    (text : ∀ value, motive (.text value))
    (list : ∀ items, (∀ item ∈ items, motive item) → motive (.list items))
    (object : ∀ rows, (∀ row ∈ rows, motive row.2) → motive (.object rows)) : motive tree := by
  cases tree with
  | null => exact null
  | truth value => exact truth value
  | number value => exact number value
  | text value => exact text value
  | list items =>
    refine list items fun item member => ?_
    have := List.sizeOf_lt_of_mem member
    exact item.inductOn null truth number text list object
  | object rows =>
    refine object rows fun row member => ?_
    have := List.sizeOf_lt_of_mem member
    exact row.2.inductOn null truth number text list object
termination_by sizeOf tree
decreasing_by
  · rw [Tree.list.sizeOf_spec]
    omega
  · have part : sizeOf row.2 < sizeOf row := by
      obtain ⟨name, tree⟩ := row
      show sizeOf tree < sizeOf (name, tree)
      rw [Prod.mk.sizeOf_spec]
      omega
    rw [Tree.object.sizeOf_spec]
    omega

mutual

/-- What a tree means: in an object the last member of a name counts, and the rows are in order. A number
that is out of range and a text that is not well formed mean nothing. -/
def Tree.value? : Tree → Option Value
  | .null => some .null
  | .truth value => some (.truth value)
  | .number value => value.map .number
  | .text value => value.map .text
  | .list items => (Tree.values? items).map .list
  | .object rows => (Tree.rows? rows).map fun rows => .object (Table.ofRows rows).rows

/-- What the items of a list mean. -/
def Tree.values? : List Tree → Option (List Value)
  | [] => some []
  | tree :: rest => tree.value?.bind fun first => (Tree.values? rest).map (first :: ·)

/-- What the members of an object mean. -/
def Tree.rows? : List (Option String × Tree) → Option (List (String × Value))
  | [] => some []
  | (name, tree) :: rest =>
    name.bind fun name => tree.value?.bind fun value => (Tree.rows? rest).map ((name, value) :: ·)

end

theorem Tree.values?_eq (items : List Tree) : Tree.values? items = items.mapM Tree.value? := by
  induction items with
  | nil => rfl
  | cons tree rest ih =>
    rw [Tree.values?, ih, List.mapM_cons]
    cases tree.value? <;> cases rest.mapM Tree.value? <;> rfl

theorem Tree.rows?_eq (rows : List (Option String × Tree)) :
    Tree.rows? rows = rows.mapM (rowOf Tree.value?) := by
  induction rows with
  | nil => rfl
  | cons row rest ih =>
    obtain ⟨name, tree⟩ := row
    rw [Tree.rows?, ih, List.mapM_cons]
    cases name <;> cases made : tree.value? <;> cases rest.mapM (rowOf Tree.value?) <;> simp [rowOf, made]

/-- Only a text means a text. -/
theorem Tree.eq_text_of_value? {tree : Tree} {text : String} (means : tree.value? = some (.text text)) :
    tree = .text (some text) := by
  cases tree with
  | text given =>
    obtain ⟨_, rfl, same⟩ := Option.map_eq_some_iff.mp means
    cases same
    rfl
  | number number => cases number <;> cases means
  | list items =>
    obtain ⟨_, -, other⟩ := Option.map_eq_some_iff.mp means
    cases other
  | object rows =>
    obtain ⟨_, -, other⟩ := Option.map_eq_some_iff.mp means
    cases other
  | _ => cases means

namespace Value

/-- The rows of all objects are in ascending order of their names. -/
inductive IsOrdered : Value → Prop where
  | null : IsOrdered .null
  | truth {value : Bool} : IsOrdered (.truth value)
  | number {value : Number} : IsOrdered (.number value)
  | text {value : String} : IsOrdered (.text value)
  | list {items : List Value} (each : ∀ item ∈ items, IsOrdered item) : IsOrdered (.list items)
  | object {rows : List (String × Value)}
      (ascending : rows.Pairwise fun first second => first.1 < second.1)
      (each : ∀ row ∈ rows, IsOrdered row.2) : IsOrdered (.object rows)

/-- Brackets are nested less deeply than a limit. -/
inductive Fits : Nat → Value → Prop where
  | null {limit : Nat} : Fits limit .null
  | truth {limit : Nat} {value : Bool} : Fits limit (.truth value)
  | number {limit : Nat} {value : Number} : Fits limit (.number value)
  | text {limit : Nat} {value : String} : Fits limit (.text value)
  | list {limit : Nat} {items : List Value} (room : 1 < limit)
      (each : ∀ item ∈ items, Fits (limit - 1) item) : Fits limit (.list items)
  | object {limit : Nat} {rows : List (String × Value)} (room : 1 < limit)
      (each : ∀ row ∈ rows, Fits (limit - 1) row.2) : Fits limit (.object rows)

theorem Fits.mono {limit limit' : Nat} {value : Value} (fits : value.Fits limit) (wider : limit ≤ limit') :
    value.Fits limit' := by
  induction fits generalizing limit' with
  | null => exact .null
  | truth => exact .truth
  | number => exact .number
  | text => exact .text
  | list room each ih => exact .list (by omega) fun item member => ih item member (by omega)
  | object room each ih => exact .object (by omega) fun row member => ih row member (by omega)

end Value

/-- **A value is read as what it means**, in order and with no more brackets than allowed. -/
theorem value?_of_on_readAny (tree : Tree) {limit : Nat} {value : Value}
    (made : readAny.on limit tree = some value) :
    tree.value? = some value ∧ value.IsOrdered ∧ value.Fits limit := by
  induction tree using Tree.inductOn generalizing limit value with
  | null =>
    cases made
    exact ⟨rfl, .null, .null⟩
  | truth truth =>
    cases made
    exact ⟨rfl, .truth, .truth⟩
  | number number =>
    rw [on_readAny_number] at made
    obtain ⟨number, rfl, rfl⟩ := Option.map_eq_some_iff.mp made
    exact ⟨rfl, .number, .number⟩
  | text text =>
    rw [on_readAny_text] at made
    obtain ⟨text, rfl, rfl⟩ := Option.map_eq_some_iff.mp made
    exact ⟨rfl, .text, .text⟩
  | list items ih =>
    rw [on_readAny_list] at made
    split at made
    · cases made
    · rename_i room
      obtain ⟨values, all, rfl⟩ := Option.map_eq_some_iff.mp made
      have parts : ∀ value ∈ values, value.IsOrdered ∧ value.Fits (limit - 1) := fun value member => by
        obtain ⟨item, inside, isValue⟩ := exists_of_mem_of_mapM all member
        exact (ih item inside isValue).2
      refine ⟨?_, .list fun value member => (parts value member).1,
        .list (by omega) fun value member => (parts value member).2⟩
      rw [Tree.value?, Tree.values?_eq,
        mapM_eq_some_of_each all fun item member value isValue => (ih item member isValue).1]
      rfl
  | object rows ih =>
    rw [on_readAny_object, foldlM_addRow_empty] at made
    split at made
    · cases made
    · rename_i room
      rw [Option.map_map] at made
      obtain ⟨pairs, all, rfl⟩ := Option.map_eq_some_iff.mp made
      have parts : ∀ row ∈ (Table.ofRows pairs).rows, row.2.IsOrdered ∧ row.2.Fits (limit - 1) :=
        fun row member => by
          obtain ⟨row', inside, isRow⟩ := exists_of_mem_of_mapM all (Table.mem_of_mem_ofRows member)
          exact (ih row' inside (rowOf_eq_some_iff.mp isRow).2).2
      refine ⟨?_, .object (Table.ofRows pairs).ascending fun row member => (parts row member).1,
        .object (by omega) fun row member => (parts row member).2⟩
      have meant : rows.mapM (rowOf Tree.value?) = some pairs :=
        mapM_eq_some_of_each all fun row member pair isRow => by
          obtain ⟨named, isValue⟩ := rowOf_eq_some_iff.mp isRow
          exact rowOf_eq_some_iff.mpr ⟨named, (ih row member isValue).1⟩
      rw [Tree.value?, Tree.rows?_eq, meant]
      rfl

/-- **A value in order is read back from its tree.** -/
theorem on_readAny_tree {value : Value} (ordered : value.IsOrdered) {limit : Nat} (fits : value.Fits limit) :
    readAny.on limit value.tree = some value := by
  induction ordered generalizing limit with
  | null => rfl
  | truth => rfl
  | number => rfl
  | text => rfl
  | @list items each ih =>
    cases fits with
    | list room fits =>
      have all : (items.map Value.tree).mapM (readAny.on (limit - 1)) = some items := by
        refine mapM_eq_some_of_map ?_
        rw [List.map_map]
        exact List.map_congr_left fun item member => ih item member (fits item member)
      rw [Value.tree, on_readAny_list, if_neg (by omega), Value.trees_eq, all]
      rfl
  | @object rows ascending each ih =>
    cases fits with
    | object room fits =>
      have all : (rows.map fun row => (some row.1, row.2.tree)).mapM (rowOf (readAny.on (limit - 1))) =
          some rows := by
        refine mapM_eq_some_of_map ?_
        rw [List.map_map]
        exact List.map_congr_left fun row member =>
          rowOf_eq_some_iff.mpr ⟨rfl, ih row member (fits row member)⟩
      have table : Table.ofRows rows = ⟨rows, ascending⟩ := Table.ofRows_rows ⟨rows, ascending⟩
      rw [Value.tree, on_readAny_object, if_neg (by omega), Value.rowTrees_eq, foldlM_addRow_empty, all]
      show some (Value.object (Table.ofRows rows).rows) = _
      rw [table]

/-- A value whose rows are in any order is read as some value. -/
theorem exists_on_readAny_tree {value : Value} {limit : Nat} (fits : value.Fits limit) :
    ∃ read, readAny.on limit value.tree = some read := by
  induction fits with
  | null => exact ⟨_, rfl⟩
  | truth => exact ⟨_, rfl⟩
  | number => exact ⟨_, rfl⟩
  | text => exact ⟨_, rfl⟩
  | @list limit items room each ih =>
    have each' : ∀ tree ∈ Value.trees items, ∃ value, readAny.on (limit - 1) tree = some value := by
      intro tree member
      rw [Value.trees_eq] at member
      obtain ⟨item, inside, rfl⟩ := List.mem_map.mp member
      exact ih item inside
    obtain ⟨values, all⟩ := exists_mapM_eq_some each'
    exact ⟨.list values, by rw [Value.tree, on_readAny_list, if_neg (by omega), all]; rfl⟩
  | @object limit rows room each ih =>
    have each' : ∀ row ∈ Value.rowTrees rows, ∃ pair, rowOf (readAny.on (limit - 1)) row = some pair := by
      intro row member
      rw [Value.rowTrees_eq] at member
      obtain ⟨row', inside, rfl⟩ := List.mem_map.mp member
      obtain ⟨value, isValue⟩ := ih row' inside
      exact ⟨(row'.1, value), rowOf_eq_some_iff.mpr ⟨rfl, isValue⟩⟩
    obtain ⟨pairs, all⟩ := exists_mapM_eq_some each'
    exact ⟨.object (Table.ofRows pairs).rows,
      by rw [Value.tree, on_readAny_object, if_neg (by omega), foldlM_addRow_empty, all]; rfl⟩

/-- **A value in order is read back from its text**, if its numbers are spelled by their texts. -/
theorem Value.ofText_toText {value : Value} (numbers : value.AllNumbers Number.IsSpelled)
    (ordered : value.IsOrdered) (fits : value.Fits depthLimit) : Value.ofText value.toText = .ok value := by
  rw [← toOption_eq_some_iff, Value.toOption_ofText (Value.spellsDocument numbers)]
  exact on_readAny_tree ordered fits

/-! ### Plain values -/

/-- A value that is made of null, truth values, texts and whole numbers of 64 bits. Zero may have a minus. -/
inductive Tree.IsPlain : Tree → Prop where
  | null : IsPlain .null
  | truth {value : Bool} : IsPlain (.truth value)
  | text {value : Option String} : IsPlain (.text value)
  | integer {number : Int} (lower : -9223372036854775808 ≤ number) (upper : number ≤ 18446744073709551615) :
      IsPlain (.number (some (.integer number)))
  | minusZero : IsPlain (.number (some (.real (Binary64.zero.withSign true))))
  | list {items : List Tree} (each : ∀ item ∈ items, IsPlain item) : IsPlain (.list items)
  | object {rows : List (Option String × Tree)} (each : ∀ row ∈ rows, IsPlain row.2) : IsPlain (.object rows)

/-- What a plain tree means has numbers that are spelled by their texts. -/
theorem Tree.IsPlain.allNumbers {tree : Tree} (isPlain : tree.IsPlain) {value : Value}
    (means : tree.value? = some value) : value.AllNumbers Number.IsSpelled := by
  induction isPlain generalizing value with
  | null =>
    cases means
    exact .null
  | truth =>
    cases means
    exact .truth
  | text =>
    obtain ⟨text, -, rfl⟩ := Option.map_eq_some_iff.mp means
    exact .text
  | integer lower upper =>
    cases means
    exact .number (isSpelled_integer lower upper)
  | minusZero =>
    cases means
    exact .number isSpelled_minusZero
  | list each ih =>
    rw [Tree.value?, Tree.values?_eq] at means
    obtain ⟨values, all, rfl⟩ := Option.map_eq_some_iff.mp means
    refine .list fun value member => ?_
    obtain ⟨item, inside, isValue⟩ := exists_of_mem_of_mapM all member
    exact ih item inside isValue
  | object each ih =>
    rw [Tree.value?, Tree.rows?_eq] at means
    obtain ⟨pairs, all, rfl⟩ := Option.map_eq_some_iff.mp means
    refine .object fun row member => ?_
    obtain ⟨row', inside, isRow⟩ := exists_of_mem_of_mapM all (Table.mem_of_mem_ofRows member)
    exact ih row' inside (rowOf_eq_some_iff.mp isRow).2

end SecretSource.Json
