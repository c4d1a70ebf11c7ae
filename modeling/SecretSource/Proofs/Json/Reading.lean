/-
**What readers make of a tree.**

A reader reports where a value is wrong, but whether it takes a value, and as what, does not depend on places:
it is a reader of trees. For a reader that is put together from readers of parts, what it makes of a list or of
an object is what these make of the parts, one after the other.

* `Reader.PlaceFree`: what a reader makes of a value does not depend on places; so it is for every reader here.
* `on_readList`, `on_readTable`, `Shape.on_read_object`, `Shape.on_read_list`: what readers make of lists and
  objects.
* `Shape.toOption_ofText`, `Value.toOption_ofText`: what is read from a whole text is what is made of its tree.
-/

import SecretSource.Proofs.Except
import SecretSource.Proofs.Json.Grammar

namespace SecretSource.Json

variable {α δ : Type}

/-- What a reader makes of a tree; none if it refuses it. -/
def Reader.on (read : Reader α) (limit : Nat) (tree : Tree) : Option α := (read limit tree.node).toOption

/-- What a reader makes of a value does not depend on its places. -/
def Reader.PlaceFree (read : Reader α) : Prop :=
  ∀ limit node tree, node.tree? = some tree → (read limit node).toOption = read.on limit tree

/-- It is enough to see to each kind of value. -/
theorem placeFree_of_cases {read : Reader α}
    (null : ∀ limit stop, (read limit (.null stop)).toOption = read.on limit .null)
    (truth : ∀ limit value stop, (read limit (.truth value stop)).toOption = read.on limit (.truth value))
    (number : ∀ limit value stop,
      (read limit (.number value stop)).toOption = read.on limit (.number value.toOption))
    (text : ∀ limit value stop, (read limit (.text value stop)).toOption = read.on limit (.text value.toOption))
    (list : ∀ limit start items trees, items.trees? = some trees →
      (read limit (.list start items)).toOption = read.on limit (.list trees))
    (object : ∀ limit start members rows, members.rows? = some rows →
      (read limit (.object start members)).toOption = read.on limit (.object rows)) : read.PlaceFree := by
  intro limit node tree whole
  cases node with
  | null stop =>
    cases whole
    exact null limit stop
  | truth value stop =>
    cases whole
    exact truth limit value stop
  | number value stop =>
    cases whole
    exact number limit value stop
  | text value stop =>
    cases whole
    exact text limit value stop
  | list start items =>
    obtain ⟨trees, all, rfl⟩ := Option.map_eq_some_iff.mp whole
    exact list limit start items trees all
  | object start members =>
    obtain ⟨rows, all, rfl⟩ := Option.map_eq_some_iff.mp whole
    exact object limit start members rows all
  | broken stop => cases whole

/-! ### Readers of one value -/

theorem toOption_readChecked_text (expected : String) (check : String → Except Problem α) (limit : Nat)
    (text : String) (stop : Place) :
    (readChecked expected check limit (.text (.ok text) stop)).toOption = (check text).toOption := by
  cases checked : check text <;> simp [readChecked, checked, refuse, Except.toOption]

@[simp] theorem on_readChecked_text (expected : String) (check : String → Except Problem α) (limit : Nat)
    (text : String) : Reader.on (readChecked expected check) limit (.text (some text)) = (check text).toOption :=
  toOption_readChecked_text expected check limit text .start

theorem readChecked_placeFree (expected : String) (check : String → Except Problem α) :
    Reader.PlaceFree (readChecked expected check) := by
  refine placeFree_of_cases (fun _ _ => rfl) (fun _ _ _ => rfl) (fun limit value stop => ?_)
    (fun limit value stop => ?_) (fun _ _ _ _ _ => rfl) fun _ _ _ _ _ => rfl
  · cases value <;> rfl
  · cases value with
    | error fault => rfl
    | ok text =>
      rw [toOption_readChecked_text]
      exact (on_readChecked_text expected check limit text).symm

theorem readString_placeFree : readString.PlaceFree := readChecked_placeFree _ _

theorem readFlag_placeFree : readFlag.PlaceFree :=
  placeFree_of_cases (fun _ _ => rfl) (fun _ _ _ => rfl) (fun _ value _ => by cases value <;> rfl)
    (fun _ value _ => by cases value <;> rfl) (fun _ _ _ _ _ => rfl) fun _ _ _ _ _ => rfl

theorem toOption_readNatural_integer (limit : Nat) (value : Int) (stop : Place) :
    (readNatural limit (.number (.ok (.integer value)) stop)).toOption =
      if 0 ≤ value then some value.toNat else none := by
  by_cases natural : 0 ≤ value <;> simp [readNatural, natural, refuse, Except.toOption]

theorem readNatural_placeFree : readNatural.PlaceFree := by
  refine placeFree_of_cases (fun _ _ => rfl) (fun _ _ _ => rfl) (fun limit value stop => ?_)
    (fun _ value _ => by cases value <;> rfl) (fun _ _ _ _ _ => rfl) fun _ _ _ _ _ => rfl
  rcases value with fault | ⟨value⟩ | ⟨value⟩
  · rfl
  · rw [toOption_readNatural_integer]
    exact (toOption_readNatural_integer limit value .start).symm
  · rfl

/-! ### Values that may be null -/

theorem readOptional_eq (read : Reader α) (limit : Nat) {node : Node} (notNull : ∀ stop, node ≠ .null stop) :
    readOptional read limit node = (read limit node).map some := by
  unfold readOptional
  split
  · exact absurd rfl (notNull _)
  · rfl

theorem Tree.node_ne_null {tree : Tree} (notNull : tree ≠ .null) (stop : Place) : tree.node ≠ .null stop := by
  intro isNull
  have same := tree.tree?_node
  rw [isNull] at same
  cases same
  exact notNull rfl

theorem on_readOptional (read : Reader α) (limit : Nat) {tree : Tree} (notNull : tree ≠ .null) :
    Reader.on (readOptional read) limit tree = (read.on limit tree).map some := by
  rw [Reader.on, readOptional_eq read limit (Tree.node_ne_null notNull), toOption_map]
  rfl

theorem readOptional_placeFree {read : Reader α} (free : read.PlaceFree) :
    Reader.PlaceFree (readOptional read) := by
  intro limit node tree whole
  by_cases isNull : ∃ stop, node = .null stop
  · obtain ⟨stop, rfl⟩ := isNull
    cases whole
    rfl
  · have notNull : tree ≠ .null := by
      rintro rfl
      cases node with
      | null stop => exact isNull ⟨stop, rfl⟩
      | list start items =>
        obtain ⟨trees, -, other⟩ := Option.map_eq_some_iff.mp whole
        cases other
      | object start members =>
        obtain ⟨rows, -, other⟩ := Option.map_eq_some_iff.mp whole
        cases other
      | _ => cases whole
    rw [readOptional_eq read limit fun stop same => isNull ⟨stop, same⟩, toOption_map,
      free limit node tree whole, on_readOptional read limit notNull]

/-! ### Lists -/

theorem toOption_readEach {read : Reader α} (free : read.PlaceFree) (limit : Nat) (items : Items)
    {trees : List Tree} (all : items.trees? = some trees) :
    (readEach read limit items).toOption = trees.mapM (read.on limit) := by
  induction trees generalizing items with
  | nil =>
    cases items with
    | closed stop => rfl
    | broken stop => cases all
    | more value leave rest =>
      obtain ⟨first, others, -, -, same⟩ := Items.trees?_more all
      cases same
  | cons tree trees ih =>
    cases items with
    | closed stop => cases all
    | broken stop => cases all
    | more value leave rest =>
      obtain ⟨first, others, isFirst, areOthers, same⟩ := Items.trees?_more all
      cases same
      rw [readEach, toOption_bind, toOption_mapError, free limit value tree isFirst, List.mapM_cons]
      congr 1
      funext first
      rw [toOption_bind, ih rest areOthers]
      rfl

/-- What is made of a list: what is made of its items, if brackets may still be nested. -/
theorem on_readList {read : Reader α} (free : read.PlaceFree) (limit : Nat) (items : List Tree) :
    Reader.on (readList read) limit (.list items) =
      if limit ≤ 1 then none else items.mapM (read.on (limit - 1)) := by
  show (if limit ≤ 1 then refuse _ else readEach read (limit - 1) (Tree.items items)).toOption = _
  split
  · rfl
  · exact toOption_readEach free (limit - 1) _ (Tree.trees?_items items)

theorem readList_placeFree {read : Reader α} (free : read.PlaceFree) : Reader.PlaceFree (readList read) := by
  refine placeFree_of_cases (fun _ _ => rfl) (fun _ _ _ => rfl) (fun _ value _ => by cases value <;> rfl)
    (fun _ value _ => by cases value <;> rfl) (fun limit start items trees all => ?_) fun _ _ _ _ _ => rfl
  rw [on_readList free]
  show (if limit ≤ 1 then refuse _ else readEach read (limit - 1) items).toOption = _
  split
  · rfl
  · exact toOption_readEach free (limit - 1) items all

/-! ### Tables -/

/-- Adds what is made of a member to a table. -/
def addRow (read : Reader α) (limit : Nat) (table : Table α) (row : Option String × Tree) : Option (Table α) :=
  row.1.bind fun name => (read.on limit row.2).map (table.insert name)

theorem toOption_readRows {read : Reader α} (free : read.PlaceFree) (limit : Nat) (table : Table α)
    (members : Members) {rows : List (Option String × Tree)} (all : members.rows? = some rows) :
    (readRows read limit table members).toOption = rows.foldlM (addRow read limit) table := by
  induction rows generalizing members table with
  | nil =>
    cases members with
    | closed stop => rfl
    | broken stop => cases all
    | more name leaveName value leave rest =>
      obtain ⟨first, others, -, -, same⟩ := Members.rows?_more all
      cases same
  | cons row rows ih =>
    cases members with
    | closed stop => cases all
    | broken stop => cases all
    | more name leaveName value leave rest =>
      obtain ⟨first, others, isFirst, areOthers, same⟩ := Members.rows?_more all
      cases same
      rw [readRows, toOption_bind, toOption_mapError, List.foldlM_cons]
      cases name with
      | error fault => rfl
      | ok name =>
        show ((read limit value).mapError _ >>= _).toOption = ((read.on limit first).map _).bind _
        rw [toOption_bind, toOption_mapError, free limit value first isFirst, Option.bind_map]
        congr 1
        funext given
        exact ih _ rest areOthers

/-- What is made of an object as a table: its members are added one after the other. -/
theorem on_readTable {read : Reader α} (free : read.PlaceFree) (limit : Nat)
    (rows : List (Option String × Tree)) :
    Reader.on (readTable read) limit (.object rows) =
      if limit ≤ 1 then none else rows.foldlM (addRow read (limit - 1)) ∅ := by
  show (if limit ≤ 1 then refuse _ else readRows read (limit - 1) ∅ (Tree.members rows)).toOption = _
  split
  · rfl
  · exact toOption_readRows free (limit - 1) ∅ _ (Tree.rows?_members rows)

theorem readTable_placeFree {read : Reader α} (free : read.PlaceFree) : Reader.PlaceFree (readTable read) := by
  refine placeFree_of_cases (fun _ _ => rfl) (fun _ _ _ => rfl) (fun _ value _ => by cases value <;> rfl)
    (fun _ value _ => by cases value <;> rfl) (fun _ _ _ _ _ => rfl) fun limit start members rows all => ?_
  rw [on_readTable free]
  show (if limit ≤ 1 then refuse _ else readRows read (limit - 1) ∅ members).toOption = _
  split
  · rfl
  · exact toOption_readRows free (limit - 1) ∅ members all

/-! ### Values of any kind -/

theorem on_readAny (limit : Nat) (tree : Tree) : readAny.on limit tree = (tree.node.value limit).toOption :=
  toOption_mapError _ _

theorem on_readAny_number (limit : Nat) (value : Option Number) :
    readAny.on limit (.number value) = value.map .number := by
  cases value <;> rfl

theorem on_readAny_text (limit : Nat) (value : Option String) :
    readAny.on limit (.text value) = value.map .text := by
  cases value <;> rfl

theorem toOption_values_items (limit : Nat) (items : List Tree) :
    ((Tree.items items).values limit).toOption = items.mapM (readAny.on limit) := by
  induction items with
  | nil => rfl
  | cons tree rest ih =>
    rw [Tree.items, Items.values, toOption_bind, ← on_readAny, List.mapM_cons]
    congr 1
    funext first
    rw [toOption_bind, ih]
    rfl

theorem toOption_rows_members (limit : Nat) (table : Table Value) (rows : List (Option String × Tree)) :
    ((Tree.members rows).rows limit table.rows).toOption =
      (rows.foldlM (addRow readAny limit) table).map (·.rows) := by
  induction rows generalizing table with
  | nil => rfl
  | cons row rest ih =>
    obtain ⟨name, tree⟩ := row
    rw [Tree.members, Members.rows, toOption_bind, toOption_atStart, List.foldlM_cons]
    cases name with
    | none => rfl
    | some name =>
      show (tree.node.value limit >>= _).toOption =
        (((readAny.on limit tree).map (table.insert name)).bind _).map _
      rw [toOption_bind, ← on_readAny, Option.bind_map, Option.map_bind]
      congr 1
      funext value
      exact ih (table.insert name value)

theorem on_readAny_list (limit : Nat) (items : List Tree) :
    readAny.on limit (.list items) =
      if limit ≤ 1 then none else (items.mapM (readAny.on (limit - 1))).map .list := by
  rw [on_readAny, Tree.node, Node.value]
  split
  · rfl
  · rw [toOption_map, toOption_values_items]

theorem on_readAny_object (limit : Nat) (rows : List (Option String × Tree)) :
    readAny.on limit (.object rows) =
      if limit ≤ 1 then none
      else (rows.foldlM (addRow readAny (limit - 1)) ∅).map fun table => .object table.rows := by
  rw [on_readAny, Tree.node, Node.value]
  split
  · rfl
  · have begins : ([] : List (String × Value)) = (∅ : Table Value).rows := rfl
    rw [toOption_map, begins, toOption_rows_members, Option.map_map]
    rfl

mutual

/-- What a value is read as does not depend on its places. -/
theorem Node.toOption_value (node : Node) {tree : Tree} (whole : node.tree? = some tree) (limit : Nat) :
    (node.value limit).toOption = readAny.on limit tree := by
  cases node with
  | null stop =>
    cases whole
    rfl
  | truth value stop =>
    cases whole
    rfl
  | number value stop =>
    cases whole
    cases value <;> rfl
  | text value stop =>
    cases whole
    cases value <;> rfl
  | list start items =>
    obtain ⟨trees, all, rfl⟩ := Option.map_eq_some_iff.mp whole
    rw [on_readAny_list, Node.value]
    split
    · rfl
    · rw [toOption_map, Items.toOption_values items all]
  | object start members =>
    obtain ⟨rows, all, rfl⟩ := Option.map_eq_some_iff.mp whole
    rw [on_readAny_object, Node.value]
    split
    · rfl
    · have begins : ([] : List (String × Value)) = (∅ : Table Value).rows := rfl
      rw [toOption_map, begins, Members.toOption_rows members all, Option.map_map]
      rfl
  | broken stop => cases whole

theorem Items.toOption_values (items : Items) {trees : List Tree} (all : items.trees? = some trees)
    (limit : Nat) : (items.values limit).toOption = trees.mapM (readAny.on limit) := by
  cases items with
  | closed stop =>
    cases all
    rfl
  | broken stop => cases all
  | more value leave rest =>
    obtain ⟨first, others, isFirst, areOthers, rfl⟩ := Items.trees?_more all
    rw [Items.values, toOption_bind, Node.toOption_value value isFirst, List.mapM_cons]
    congr 1
    funext given
    rw [toOption_bind, Items.toOption_values rest areOthers]
    rfl

theorem Members.toOption_rows (members : Members) {rows : List (Option String × Tree)}
    (all : members.rows? = some rows) (limit : Nat) (table : Table Value) :
    (members.rows limit table.rows).toOption = (rows.foldlM (addRow readAny limit) table).map (·.rows) := by
  cases members with
  | closed stop =>
    cases all
    rfl
  | broken stop => cases all
  | more name leaveName value leave rest =>
    obtain ⟨first, others, isFirst, areOthers, rfl⟩ := Members.rows?_more all
    rw [Members.rows, toOption_bind, List.foldlM_cons]
    cases name with
    | error fault => rfl
    | ok name =>
      show (value.value limit >>= _).toOption = (((readAny.on limit first).map (table.insert name)).bind _).map _
      rw [toOption_bind, Node.toOption_value value isFirst, Option.bind_map, Option.map_bind]
      congr 1
      funext given
      exact Members.toOption_rows rest areOthers limit (table.insert name given)

end

theorem readAny_placeFree : readAny.PlaceFree := by
  intro limit node tree whole
  rw [← Node.toOption_value node whole]
  exact toOption_mapError _ _

/-! ### Records -/

/-- What a field makes of a tree, on top of what has been read. -/
def Field.on (field : Field δ) (limit : Nat) (tree : Tree) (draft : δ) : Option δ :=
  (field.read limit tree.node draft).toOption

/-- What a field makes of a value does not depend on its places. -/
def Field.PlaceFree (field : Field δ) : Prop :=
  ∀ limit node tree draft, node.tree? = some tree → (field.read limit node draft).toOption = field.on limit tree draft

@[simp] theorem Field.on_ofSlot (name : String) (slot : δ → Option α) (read : Reader α) (store : δ → α → δ)
    (limit : Nat) (tree : Tree) (draft : δ) :
    (Field.ofSlot name slot read store).on limit tree draft = (read.on limit tree).map (store draft) :=
  toOption_map _ _

theorem Field.ofSlot_placeFree {name : String} {slot : δ → Option α} {read : Reader α} {store : δ → α → δ}
    (free : read.PlaceFree) : (Field.ofSlot name slot read store).PlaceFree := by
  intro limit node tree draft whole
  rw [Field.on_ofSlot, ← free limit node tree whole]
  exact toOption_map _ _

namespace Shape

variable (shape : Shape δ α)

/-- All fields are free of places. -/
def PlaceFree : Prop := ∀ field ∈ shape.fields, field.PlaceFree

/-- Adds a member to what has been read: an unknown name is passed over, and no field is read twice. -/
def add (limit : Nat) (draft : δ) (row : Option String × Tree) : Option δ :=
  row.1.bind fun name =>
    match shape.fields.find? (·.name == name) with
    | none => some draft
    | some field => if field.isSet draft then none else field.on limit row.2 draft

/-- Adds the items of a list, one for each field; no item may be left over. -/
def fill (limit : Nat) : List (Field δ) → List Tree → δ → Option α
  | _, [], draft => (shape.finish draft).toOption
  | [], _ :: _, _ => none
  | field :: fields, tree :: trees, draft => (field.on limit tree draft).bind (fill limit fields trees)

variable {shape}

theorem add_unknown {name : String} (unknown : shape.fields.find? (·.name == name) = none) {limit : Nat}
    {draft : δ} {tree : Tree} : shape.add limit draft (some name, tree) = some draft := by
  simp [add, unknown]

theorem add_known {name : String} {field : Field δ} (found : shape.fields.find? (·.name == name) = some field)
    {limit : Nat} {draft : δ} {tree : Tree} :
    shape.add limit draft (some name, tree) =
      if field.isSet draft then none else field.on limit tree draft := by
  simp [add, found]

theorem toOption_fromMembers (free : shape.PlaceFree) (limit : Nat) (draft : δ) (members : Members)
    {rows : List (Option String × Tree)} (all : members.rows? = some rows) :
    (shape.fromMembers limit draft members).toOption =
      (rows.foldlM (shape.add limit) draft).bind fun draft => (shape.finish draft).toOption := by
  induction rows generalizing members draft with
  | nil =>
    cases members with
    | closed stop =>
      rw [fromMembers]
      cases finished : shape.finish draft <;> simp [Except.toOption, finished]
    | broken stop => cases all
    | more name leaveName value leave rest =>
      obtain ⟨first, others, -, -, same⟩ := Members.rows?_more all
      cases same
  | cons row rows ih =>
    cases members with
    | closed stop => cases all
    | broken stop => cases all
    | more name leaveName value leave rest =>
      obtain ⟨first, others, isFirst, areOthers, same⟩ := Members.rows?_more all
      cases same
      rw [fromMembers, toOption_bind, List.foldlM_cons]
      cases name with
      | error fault => rfl
      | ok name =>
        rw [show (Except.ok name : Except Fault String).toOption = some name from rfl, Option.bind_some]
        cases found : shape.fields.find? (·.name == name) with
        | none =>
          rw [add_unknown found]
          dsimp only
          rw [Node.skip_eq_ok value isFirst]
          exact ih draft rest areOthers
        | some field =>
          rw [add_known found]
          dsimp only
          split
          · rfl
          · rw [toOption_bind, toOption_mapError,
              free field (List.mem_of_find?_eq_some found) limit value first draft isFirst]
            show _ = ((field.on limit first draft).bind _).bind _
            rw [Option.bind_assoc]
            congr 1
            funext given
            exact ih given rest areOthers

theorem toOption_fromItems (fields : List (Field δ)) (free : ∀ field ∈ fields, field.PlaceFree) (limit : Nat)
    (behind : Place) (draft : δ) (items : Items) {trees : List Tree} (all : items.trees? = some trees) :
    (shape.fromItems limit behind draft fields items).toOption = shape.fill limit fields trees draft := by
  induction trees generalizing items draft fields behind with
  | nil =>
    cases items with
    | closed stop =>
      cases fields <;> cases finished : shape.finish draft <;> simp [fromItems, fill, Except.toOption, finished]
    | broken stop => cases all
    | more value leave rest =>
      obtain ⟨first, others, -, -, same⟩ := Items.trees?_more all
      cases same
  | cons tree trees ih =>
    cases items with
    | closed stop => cases all
    | broken stop => cases all
    | more value leave rest =>
      obtain ⟨first, others, isFirst, areOthers, same⟩ := Items.trees?_more all
      cases same
      cases fields with
      | nil => rfl
      | cons field fields =>
        rw [fromItems, fill, toOption_bind, toOption_mapError, free field (by simp) limit value tree draft isFirst]
        congr 1
        funext given
        exact ih fields (fun field member => free field (by simp [member])) leave given rest areOthers

/-- What is made of an object: its members are added one after the other. -/
theorem on_read_object (free : shape.PlaceFree) (limit : Nat) (rows : List (Option String × Tree)) :
    Reader.on shape.read limit (.object rows) =
      if limit ≤ 1 then none
      else (rows.foldlM (shape.add (limit - 1)) shape.blank).bind fun draft => (shape.finish draft).toOption := by
  show (if limit ≤ 1 then refuse _ else
    (shape.fromMembers (limit - 1) shape.blank (Tree.members rows)).mapError .placed).toOption = _
  split
  · rfl
  · rw [toOption_mapError, toOption_fromMembers free _ _ _ (Tree.rows?_members rows)]

/-- What is made of a list: its items are taken by the fields in order. -/
theorem on_read_list (free : shape.PlaceFree) (limit : Nat) (items : List Tree) :
    Reader.on shape.read limit (.list items) =
      if limit ≤ 1 then none else shape.fill (limit - 1) shape.fields items shape.blank := by
  show (if limit ≤ 1 then refuse _ else
    (shape.fromItems (limit - 1) _ shape.blank shape.fields (Tree.items items)).mapError .placed).toOption = _
  split
  · rfl
  · rw [toOption_mapError, toOption_fromItems shape.fields free _ _ _ _ (Tree.trees?_items items)]

theorem read_placeFree (free : shape.PlaceFree) : Reader.PlaceFree shape.read := by
  refine placeFree_of_cases (fun _ _ => rfl) (fun _ _ _ => rfl) (fun _ value _ => by cases value <;> rfl)
    (fun _ value _ => by cases value <;> rfl) (fun limit start items trees all => ?_)
    fun limit start members rows all => ?_
  · rw [on_read_list free]
    show (if limit ≤ 1 then refuse _ else
      (shape.fromItems (limit - 1) _ shape.blank shape.fields items).mapError .placed).toOption = _
    split
    · rfl
    · rw [toOption_mapError, toOption_fromItems shape.fields free _ _ _ _ all]
  · rw [on_read_object free]
    show (if limit ≤ 1 then refuse _ else
      (shape.fromMembers (limit - 1) shape.blank members).mapError .placed).toOption = _
    split
    · rfl
    · rw [toOption_mapError, toOption_fromMembers free _ _ _ all]

end Shape

/-! ### Whole texts -/

/-- Where a text spells a tree, its reader is asked about the tree. -/
theorem SpellsDocument.toOption_decode {tree : Tree} {text : String} (spells : SpellsDocument tree text)
    (reader : Node → Except Fault α) {result : Option α}
    (reads : ∀ node, node.tree? = some tree → (reader node).toOption = result) :
    (Document.decode reader text).toOption = result := by
  obtain ⟨root, whole, isRoot⟩ := spells.exists_root
  unfold Document.decode
  rw [whole, ← reads root isRoot, toOption_bind]
  show (reader root).toOption.bind some = _
  exact Option.bind_fun_some _

/-- What a record is read from a text as is what is made of its tree. -/
theorem Shape.toOption_ofText {shape : Shape δ α} (free : shape.PlaceFree) {tree : Tree} {text : String}
    (spells : SpellsDocument tree text) :
    (shape.ofText text).toOption = Reader.on shape.read depthLimit tree :=
  spells.toOption_decode _ fun node whole => by
    rw [toOption_mapError, Shape.read_placeFree free depthLimit node tree whole]

/-- What a value is read from a text as is what is made of its tree. -/
theorem Value.toOption_ofText {tree : Tree} {text : String} (spells : SpellsDocument tree text) :
    (Value.ofText text).toOption = readAny.on depthLimit tree :=
  spells.toOption_decode _ fun node whole => Node.toOption_value node whole depthLimit

/-- A text from which something is read spells a tree. -/
theorem exists_spellsDocument_of_decode {reader : Node → Except Fault α} {text : String} {result : α}
    (reads : Document.decode reader text = .ok result) : ∃ tree, SpellsDocument tree text := by
  unfold Document.decode at reads
  obtain ⟨value, -, reads⟩ := exists_of_bind_eq_ok reads
  obtain ⟨done, ended, -⟩ := exists_of_bind_eq_ok reads
  exact exists_spellsDocument ended

/-- A text from which a record is read spells a tree of which the record is made. -/
theorem Shape.exists_spellsDocument {shape : Shape δ α} (free : shape.PlaceFree) {text : String} {result : α}
    (reads : shape.ofText text = .ok result) :
    ∃ tree, SpellsDocument tree text ∧ Reader.on shape.read depthLimit tree = some result := by
  have decodes : Document.decode _ text = .ok result := reads
  obtain ⟨tree, spells⟩ := exists_spellsDocument_of_decode decodes
  exact ⟨tree, spells, by rw [← toOption_ofText free spells, toOption_eq_some_iff.mpr reads]⟩

end SecretSource.Json
