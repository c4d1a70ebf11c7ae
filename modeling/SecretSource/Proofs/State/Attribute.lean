/-
**Attributes are read back as they are written.**

In JSON a null attribute, one that is not known yet and one with a value share one place. Which of them is meant
does not depend on how the text is spelled, and as long as a value is written as neither null nor the marker of
what is unknown, all three are read back as they were written.

* `readAttribute_placeFree`: an attribute is read from its tree.
* `on_readAttribute_toJson`: an attribute is read back as it is written.
-/

import SecretSource.Proofs.Json.Meaning
import SecretSource.Provider.Attribute

namespace SecretSource.Provider

open SecretSource.Json

variable {α : Type}

/-! ### Whole numbers with a sign -/

theorem toOption_readInteger_integer (limit : Nat) (value : Int) (stop : Place) :
    (readInteger limit (.number (.ok (.integer value)) stop)).toOption =
      if -9223372036854775808 ≤ value ∧ value ≤ 9223372036854775807 then some value else none := by
  by_cases inside : -9223372036854775808 ≤ value ∧ value ≤ 9223372036854775807 <;>
    simp [readInteger, inside, refuse, Except.toOption]

theorem readInteger_placeFree : readInteger.PlaceFree := by
  refine placeFree_of_cases (fun _ _ => rfl) (fun _ _ _ => rfl) (fun limit value stop => ?_)
    (fun _ value _ => by cases value <;> rfl) (fun _ _ _ _ _ => rfl) fun _ _ _ _ _ => rfl
  rcases value with fault | ⟨value⟩ | ⟨value⟩
  · rfl
  · rw [toOption_readInteger_integer]
    exact (toOption_readInteger_integer limit value .start).symm
  · rfl

/-! ### The marker of what is unknown -/

namespace Attribute

theorem isWithin_node (lowest highest : Int) {node : Node} {tree : Tree} (whole : node.tree? = some tree) :
    isWithin lowest highest node = isWithin lowest highest tree.node := by
  cases node with
  | number value stop =>
    cases whole
    rcases value with fault | ⟨value⟩ | ⟨value⟩ <;> rfl
  | list start items =>
    obtain ⟨trees, -, rfl⟩ := Option.map_eq_some_iff.mp whole
    rfl
  | object start members =>
    obtain ⟨rows, -, rfl⟩ := Option.map_eq_some_iff.mp whole
    rfl
  | broken stop => cases whole
  | _ =>
    cases whole
    rfl

theorem areBytes_items {items : Items} {trees : List Tree} (all : items.trees? = some trees) :
    areBytes items = areBytes (Tree.items trees) := by
  induction trees generalizing items with
  | nil =>
    cases items with
    | closed stop => rfl
    | broken stop => cases all
    | more value leave rest =>
      obtain ⟨first, others, -, -, same⟩ := Items.trees?_more all
      cases same
  | cons tree trees ih =>
    cases items with
    | closed stop => cases all
    | broken stop => cases all
    | more value leave rest =>
      obtain ⟨first, others, isFirst, areOthers, same⟩ := Items.trees?_more all
      cases same
      rw [areBytes, Tree.items, areBytes, isWithin_node 0 255 isFirst, ih areOthers]

/-- What may stand behind the number of a marker. -/
def isContent : Node → Bool
  | .list _ items => areBytes items
  | .text _ _ => true
  | _ => false

theorem isContent_node {node : Node} {tree : Tree} (whole : node.tree? = some tree) :
    isContent node = isContent tree.node := by
  cases node with
  | list start items =>
    obtain ⟨trees, all, rfl⟩ := Option.map_eq_some_iff.mp whole
    exact areBytes_items all
  | object start members =>
    obtain ⟨rows, -, rfl⟩ := Option.map_eq_some_iff.mp whole
    rfl
  | broken stop => cases whole
  | _ =>
    cases whole
    rfl

/-- Whether the values of a list are a marker of what is unknown. -/
def isMarkerRow : Items → Bool
  | .more kind _ (.more content _ (.closed _)) => isWithin (-128) 127 kind && isContent content
  | _ => false

theorem isMarkerRow_items {items : Items} {trees : List Tree} (all : items.trees? = some trees) :
    isMarkerRow items = isMarkerRow (Tree.items trees) := by
  match items with
  | .closed _ =>
    cases all
    rfl
  | .broken _ => cases all
  | .more kind _ rest =>
    obtain ⟨first, others, isFirst, areOthers, rfl⟩ := Items.trees?_more all
    match rest with
    | .closed _ =>
      cases areOthers
      rfl
    | .broken _ => cases areOthers
    | .more content _ rest =>
      obtain ⟨second, others, isSecond, areThird, rfl⟩ := Items.trees?_more areOthers
      match rest with
      | .closed _ =>
        cases areThird
        simp only [isMarkerRow, Tree.items, isWithin_node _ _ isFirst, isContent_node isSecond]
      | .broken _ => cases areThird
      | .more _ _ _ =>
        obtain ⟨third, others, -, -, rfl⟩ := Items.trees?_more areThird
        rfl

theorem isMarker_list (start : Place) (items : Items) : isMarker (.list start items) = isMarkerRow items := by
  unfold isMarker isMarkerRow
  split
  · rename_i content _ _ same
    cases same
    cases content <;> rfl
  · rename_i other
    split
    · exact (other _ _ _ _ _ _ rfl).elim
    · rfl

theorem isMarker_node {node : Node} {tree : Tree} (whole : node.tree? = some tree) :
    isMarker node = isMarker tree.node := by
  cases node with
  | list start items =>
    obtain ⟨trees, all, rfl⟩ := Option.map_eq_some_iff.mp whole
    rw [Json.Tree.node, isMarker_list, isMarker_list, isMarkerRow_items all]
  | object start members =>
    obtain ⟨rows, -, rfl⟩ := Option.map_eq_some_iff.mp whole
    rfl
  | broken stop => cases whole
  | _ =>
    cases whole
    rfl

end Attribute

/-- What an attribute is that its reader of values refuses. -/
def withoutValue (node : Node) : Option (Attribute α) :=
  match node with
  | .null _ => some .null
  | node => if Attribute.isMarker node then some .unknown else none

theorem toOption_readAttribute (read : Reader α) (limit : Nat) (node : Node) :
    (readAttribute read limit node).toOption = (node.value limit).toOption.bind fun _ =>
      match (read limit node).toOption with
      | some value => some (.known value)
      | none => withoutValue node := by
  unfold readAttribute
  cases node.value limit with
  | error fault => rfl
  | ok value =>
    cases read limit node with
    | ok value => rfl
    | error refusal =>
      cases node with
      | null stop => rfl
      | _ => exact apply_ite Except.toOption _ _ _

theorem withoutValue_node {node : Node} {tree : Tree} (whole : node.tree? = some tree) :
    (withoutValue node : Option (Attribute α)) = withoutValue tree.node := by
  have marked := Attribute.isMarker_node whole
  cases node with
  | null stop =>
    cases whole
    rfl
  | list start items =>
    obtain ⟨trees, -, rfl⟩ := Option.map_eq_some_iff.mp whole
    exact congrArg (fun isMarker : Bool => if isMarker then some Attribute.unknown else none) marked
  | object start members =>
    obtain ⟨rows, -, rfl⟩ := Option.map_eq_some_iff.mp whole
    rfl
  | broken stop => cases whole
  | _ =>
    cases whole
    rfl

/-- An attribute is read from its tree. -/
theorem on_readAttribute (read : Reader α) (limit : Nat) (tree : Tree) :
    Reader.on (readAttribute read) limit tree = (readAny.on limit tree).bind fun _ =>
      match read.on limit tree with
      | some value => some (.known value)
      | none => withoutValue tree.node := by
  rw [on_readAny]
  exact toOption_readAttribute read limit tree.node

theorem readAttribute_placeFree {read : Reader α} (free : read.PlaceFree) :
    Reader.PlaceFree (readAttribute read) := by
  intro limit node tree whole
  rw [toOption_readAttribute, on_readAttribute, Node.toOption_value node whole, free limit node tree whole,
    withoutValue_node whole]

/-! ### Reading back -/

/-- The tree of the marker of what is unknown. -/
def markerTree : Tree := .list [.number (some (.integer 0)), .list []]

/-- A reader takes a value for neither null nor the marker of what is unknown. -/
structure TellsValues (read : Reader α) (limit : Nat) : Prop where
  null : read.on limit .null = none
  marker : read.on limit markerTree = none

/-- **An attribute is read back as it is written**, if its value is, and if its reader takes neither null nor the
marker of what is unknown. -/
theorem on_readAttribute_toJson {read : Reader α} {limit : Nat} (tells : TellsValues read limit)
    {write : α → Value} {field : Attribute α} (fits : (field.toJson write).Fits limit)
    (values : ∀ value, field = .known value → read.on limit (write value).tree = some value) :
    Reader.on (readAttribute read) limit (field.toJson write).tree = some field := by
  obtain ⟨whole, read'⟩ := exists_on_readAny_tree fits
  rw [on_readAttribute, read']
  cases field with
  | null =>
    show (match read.on limit .null with | some value => _ | none => _) = _
    rw [tells.null]
    rfl
  | unknown =>
    show (match read.on limit markerTree with | some value => _ | none => _) = _
    rw [tells.marker]
    rfl
  | known value =>
    show (match read.on limit (write value).tree with | some value => _ | none => _) = _
    rw [values value rfl]

theorem readString_tells (limit : Nat) : TellsValues readString limit := ⟨rfl, rfl⟩

theorem readFlag_tells (limit : Nat) : TellsValues readFlag limit := ⟨rfl, rfl⟩

theorem readInteger_tells (limit : Nat) : TellsValues readInteger limit := ⟨rfl, rfl⟩

theorem readTable_tells (read : Reader α) (limit : Nat) : TellsValues (readTable read) limit := ⟨rfl, rfl⟩

theorem on_readInteger {value : Int} (lower : -9223372036854775808 ≤ value)
    (upper : value ≤ 9223372036854775807) (limit : Nat) :
    readInteger.on limit (.number (some (.integer value))) = some value :=
  (toOption_readInteger_integer limit value .start).trans (if_pos ⟨lower, upper⟩)

/-- A table is read back as it is written, if its values are. -/
theorem on_readTable_written {read : Reader α} (free : read.PlaceFree) {limit : Nat} (room : 1 < limit)
    {write : α → Value} {table : Table α}
    (values : ∀ row ∈ table.rows, read.on (limit - 1) (write row.2).tree = some row.2) :
    Reader.on (readTable read) limit (Value.object (table.rows.map fun row => (row.1, write row.2))).tree =
      some table := by
  have all : ((table.rows.map fun row => (row.1, write row.2)).map fun row => (some row.1, row.2.tree)).mapM
      (rowOf (read.on (limit - 1))) = some table.rows := by
    refine mapM_eq_some_of_map ?_
    rw [List.map_map, List.map_map]
    refine List.map_congr_left fun row member => ?_
    show rowOf _ (some row.1, (write row.2).tree) = some (row.1, row.2)
    exact rowOf_eq_some_iff.mpr ⟨rfl, values row member⟩
  rw [Value.tree, Value.rowTrees_eq, on_readTable free, if_neg (by omega), foldlM_addRow_empty, all,
    Option.map_some, Table.ofRows_rows]

/-! ### What is written -/

namespace Attribute

/-- An attribute fits where its values fit, and the marker of what is unknown. -/
theorem fits_toJson {write : α → Value} {limit : Nat} (room : 2 < limit)
    (values : ∀ value, (write value).Fits limit) (field : Attribute α) :
    (field.toJson write).Fits limit := by
  cases field with
  | null => exact .null
  | known value => exact values value
  | unknown =>
    refine .list (by omega) fun item member => ?_
    rcases List.mem_pair.mp member with rfl | rfl
    · exact .number
    · exact .list (by omega) fun item member => by cases member

/-- The numbers of an attribute are those of its value, or the zero of the marker. -/
theorem allNumbers_toJson {write : α → Value} {kind : Number → Prop} (zero : kind (.integer 0))
    {field : Attribute α} (values : ∀ value, field = .known value → (write value).AllNumbers kind) :
    (field.toJson write).AllNumbers kind := by
  cases field with
  | null => exact .null
  | known value => exact values value rfl
  | unknown =>
    refine .list fun item member => ?_
    rcases List.mem_pair.mp member with rfl | rfl
    · exact .number zero
    · exact .list fun item member => by cases member

end Attribute

end SecretSource.Provider
