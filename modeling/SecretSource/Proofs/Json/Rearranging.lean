/-
**Other spellings of the same tree.**

Members of an object may stand in any order, and a record passes over names that it does not know. Readers
make the same of a tree if members are put in another order or if such names are put in: what is added to a
table or to a draft under one name is added in any order, and parts that mean the same may be exchanged.

* `Reordered`, `Reader.OrderFree`: members in another order, and readers that do not mind.
* `Inserted`, `Shape.on_read_inserted`: members with unknown names, which a record does not see.
* `foldlM_perm`: what comes in any order may be put in any order.
-/

import Mathlib.Data.List.Pairwise
import Mathlib.Data.List.Perm.Basic
import SecretSource.Proofs.Json.Reading

namespace SecretSource.Json

variable {α β δ : Type}

/-! ### Taking things in another order -/

/-- Two members do not share a name. -/
def Apart (first second : Option String × α) : Prop :=
  ∀ name, first.1 = some name → second.1 ≠ some name

theorem Apart.symm {first second : Option String × α} (apart : Apart first second) : Apart second first :=
  fun name named other => apart name other named

/-- No name is repeated. -/
theorem pairwise_apart {rows : List (Option String × α)} (distinct : (rows.filterMap Prod.fst).Nodup) :
    rows.Pairwise Apart := by
  refine (List.pairwise_filterMap.mp distinct).imp fun {first second} differs => ?_
  exact fun name named other => differs name named name other rfl

/-- **Things that may be taken in any order may be put in any order**, as long as none repeats a name. -/
theorem foldlM_perm {take : β → Option String × α → Option β}
    (comm : ∀ state first second, Apart first second →
      (take state first).bind (take · second) = (take state second).bind (take · first))
    {rows rows' : List (Option String × α)} (perm : rows.Perm rows') (apart : rows.Pairwise Apart) (state : β) :
    rows.foldlM take state = rows'.foldlM take state := by
  induction perm generalizing state with
  | nil => rfl
  | cons row _ ih =>
    rw [List.foldlM_cons, List.foldlM_cons]
    congr 1
    funext next
    exact ih (List.pairwise_cons.mp apart).2 next
  | swap first second rest =>
    simp only [List.foldlM_cons]
    have differs := (List.pairwise_cons.mp apart).1 first (by simp)
    show (take state second).bind (fun next => (take next first).bind _) =
      (take state first).bind fun next => (take next second).bind _
    rw [← Option.bind_assoc, ← Option.bind_assoc, comm state second first differs]
  | trans perm _ ih ih' =>
    rw [ih apart, ih' (perm.pairwise apart Apart.symm)]

/-- Exchanging one thing for another of the same effect. -/
theorem foldlM_exchange {take : β → α → Option β} {front behind : List α} {first second : α}
    (same : ∀ state, take state first = take state second) (state : β) :
    (front ++ first :: behind).foldlM take state = (front ++ second :: behind).foldlM take state := by
  simp only [List.foldlM_append, List.foldlM_cons, same]

/-- Leaving out a thing without effect. -/
theorem foldlM_insert {take : β → α → Option β} {front behind : List α} {first : α}
    (nothing : ∀ state, take state first = some state) (state : β) :
    (front ++ first :: behind).foldlM take state = (front ++ behind).foldlM take state := by
  simp only [List.foldlM_append, List.foldlM_cons, nothing]
  rfl

theorem mapM_exchange {make : α → Option β} {front behind : List α} {first second : α}
    (same : make first = make second) :
    (front ++ first :: behind).mapM make = (front ++ second :: behind).mapM make := by
  simp only [List.mapM_append, List.mapM_cons, same]

/-! ### Members in another order -/

/-- Members of an object, anywhere in a tree, are put in another order. An object that repeats a name stays as
it is. -/
inductive Reordered : Tree → Tree → Prop where
  | members {rows rows' : List (Option String × Tree)} (distinct : (rows.filterMap Prod.fst).Nodup)
      (perm : rows.Perm rows') : Reordered (.object rows) (.object rows')
  | item {front behind : List Tree} {tree tree' : Tree} (inside : Reordered tree tree') :
      Reordered (.list (front ++ tree :: behind)) (.list (front ++ tree' :: behind))
  | member {front behind : List (Option String × Tree)} {name : Option String} {tree tree' : Tree}
      (inside : Reordered tree tree') :
      Reordered (.object (front ++ (name, tree) :: behind)) (.object (front ++ (name, tree') :: behind))

/-- A reader does not mind the order of members. -/
def Reader.OrderFree (read : Reader α) : Prop :=
  ∀ limit tree tree', Reordered tree tree' → read.on limit tree = read.on limit tree'

/-- A reader that takes neither lists nor objects does not mind what is in them. -/
theorem orderFree_of_refuses {read : Reader α} (list : ∀ limit items, read.on limit (.list items) = none)
    (object : ∀ limit rows, read.on limit (.object rows) = none) : read.OrderFree := by
  intro limit tree tree' reordered
  cases reordered with
  | members _ _ => rw [object, object]
  | item _ => rw [list, list]
  | member _ => rw [object, object]

theorem readChecked_orderFree (expected : String) (check : String → Except Problem α) :
    Reader.OrderFree (readChecked expected check) := orderFree_of_refuses (fun _ _ => rfl) fun _ _ => rfl

theorem readString_orderFree : readString.OrderFree := readChecked_orderFree _ _

theorem readFlag_orderFree : readFlag.OrderFree := orderFree_of_refuses (fun _ _ => rfl) fun _ _ => rfl

theorem readNatural_orderFree : readNatural.OrderFree := orderFree_of_refuses (fun _ _ => rfl) fun _ _ => rfl

theorem Reordered.ne_null {tree tree' : Tree} (reordered : Reordered tree tree') :
    tree ≠ .null ∧ tree' ≠ .null := by
  cases reordered <;> exact ⟨nofun, nofun⟩

theorem readOptional_orderFree {read : Reader α} (free : read.OrderFree) :
    Reader.OrderFree (readOptional read) := by
  intro limit tree tree' reordered
  rw [on_readOptional read limit reordered.ne_null.1, on_readOptional read limit reordered.ne_null.2,
    free limit tree tree' reordered]

theorem readList_orderFree {read : Reader α} (placeFree : read.PlaceFree) (free : read.OrderFree) :
    Reader.OrderFree (readList read) := by
  intro limit tree tree' reordered
  cases reordered with
  | members _ _ => rfl
  | item inside => rw [on_readList placeFree, on_readList placeFree, mapM_exchange (free _ _ _ inside)]
  | member _ => rfl

/-- Members of different names are added to a table in any order. -/
theorem addRow_comm (read : Reader α) (limit : Nat) (table : Table α) (first second : Option String × Tree)
    (apart : Apart first second) :
    (addRow read limit table first).bind (addRow read limit · second) =
      (addRow read limit table second).bind (addRow read limit · first) := by
  obtain ⟨name, tree⟩ := first
  obtain ⟨name', tree'⟩ := second
  cases name with
  | none => cases name' <;> simp [addRow]
  | some name =>
    cases name' with
    | none => simp [addRow]
    | some name' =>
      have differs : name ≠ name' := fun same => apart name rfl (by rw [same])
      cases value : read.on limit tree <;> cases value' : read.on limit tree' <;>
        simp [addRow, value, value', Table.insert_comm _ differs]

theorem addRow_exchange {read : Reader α} {limit : Nat} {tree tree' : Tree}
    (same : read.on limit tree = read.on limit tree') (table : Table α) (name : Option String) :
    addRow read limit table (name, tree) = addRow read limit table (name, tree') := by
  simp only [addRow, same]

theorem readTable_orderFree {read : Reader α} (placeFree : read.PlaceFree) (free : read.OrderFree) :
    Reader.OrderFree (readTable read) := by
  intro limit tree tree' reordered
  cases reordered with
  | members distinct perm =>
    rw [on_readTable placeFree, on_readTable placeFree,
      foldlM_perm (addRow_comm read _) perm (pairwise_apart distinct)]
  | item _ => rfl
  | member inside =>
    rw [on_readTable placeFree, on_readTable placeFree,
      foldlM_exchange fun table => addRow_exchange (free _ _ _ inside) table _]

theorem readAny_orderFree : readAny.OrderFree := by
  intro limit tree tree' reordered
  induction reordered generalizing limit with
  | members distinct perm =>
    rw [on_readAny_object, on_readAny_object,
      foldlM_perm (addRow_comm readAny _) perm (pairwise_apart distinct)]
  | item _ ih => rw [on_readAny_list, on_readAny_list, mapM_exchange (ih _)]
  | member _ ih =>
    rw [on_readAny_object, on_readAny_object, foldlM_exchange fun table => addRow_exchange (ih _) table _]

/-! ### Records -/

/-- Two fields of a draft have nothing to do with each other: neither sets the other, and they may be set in any
order. -/
structure Field.Apart (first second : Field δ) : Prop where
  kept : ∀ limit tree draft draft', first.on limit tree draft = some draft' →
    second.isSet draft' = second.isSet draft
  kept' : ∀ limit tree draft draft', second.on limit tree draft = some draft' →
    first.isSet draft' = first.isSet draft
  comm : ∀ limit tree tree' draft,
    (first.on limit tree draft).bind (second.on limit tree') =
      (second.on limit tree' draft).bind (first.on limit tree)

theorem Field.Apart.symm {first second : Field δ} (apart : first.Apart second) : second.Apart first :=
  ⟨apart.kept', apart.kept, fun limit tree tree' draft => (apart.comm limit tree' tree draft).symm⟩

/-- Fields of different slots have nothing to do with each other. -/
theorem Field.ofSlot_apart {name name' : String} {slot : δ → Option α} {slot' : δ → Option β}
    {read : Reader α} {read' : Reader β} {store : δ → α → δ} {store' : δ → β → δ}
    (kept : ∀ draft value, slot' (store draft value) = slot' draft)
    (kept' : ∀ draft value, slot (store' draft value) = slot draft)
    (comm : ∀ draft value value', store' (store draft value) value' = store (store' draft value') value) :
    (Field.ofSlot name slot read store).Apart (Field.ofSlot name' slot' read' store') where
  kept limit tree draft draft' added := by
    rw [Field.on_ofSlot] at added
    obtain ⟨value, -, rfl⟩ := Option.map_eq_some_iff.mp added
    exact congrArg Option.isSome (kept draft value)
  kept' limit tree draft draft' added := by
    rw [Field.on_ofSlot] at added
    obtain ⟨value, -, rfl⟩ := Option.map_eq_some_iff.mp added
    exact congrArg Option.isSome (kept' draft value)
  comm limit tree tree' draft := by
    have on : (Field.ofSlot name slot read store).on limit tree =
        fun draft => (read.on limit tree).map (store draft) := funext (Field.on_ofSlot _ _ _ _ _ _)
    have on' : (Field.ofSlot name' slot' read' store').on limit tree' =
        fun draft => (read'.on limit tree').map (store' draft) := funext (Field.on_ofSlot _ _ _ _ _ _)
    rw [on, on']
    cases read.on limit tree with
    | none => cases read'.on limit tree' <;> rfl
    | some value =>
      cases read'.on limit tree' with
      | none => rfl
      | some value' => exact congrArg some (comm draft value value')

instance : Std.Symm (@Field.Apart δ) := ⟨fun _ _ apart => apart.symm⟩

/-- Whether one field is set may be asked before the other is read. -/
theorem Field.Apart.bind_if_isSet {first second : Field δ} (apart : first.Apart second) (limit : Nat)
    (tree tree' : Tree) (draft : δ) :
    ((first.on limit tree draft).bind fun draft =>
        if second.isSet draft then none else second.on limit tree' draft) =
      if second.isSet draft then none else (first.on limit tree draft).bind (second.on limit tree') := by
  cases added : first.on limit tree draft with
  | none => simp
  | some draft' => simp [apart.kept limit tree draft draft' added]

/-- A field does not mind the order of members. -/
def Field.OrderFree (field : Field δ) : Prop :=
  ∀ limit tree tree' draft, Reordered tree tree' → field.on limit tree draft = field.on limit tree' draft

theorem Field.ofSlot_orderFree {name : String} {slot : δ → Option α} {read : Reader α} {store : δ → α → δ}
    (free : read.OrderFree) : (Field.ofSlot name slot read store).OrderFree := by
  intro limit tree tree' draft reordered
  rw [Field.on_ofSlot, Field.on_ofSlot, free limit tree tree' reordered]

namespace Shape

variable {shape : Shape δ α}

/-- The names that a record knows. -/
def names (shape : Shape δ α) : List String := shape.fields.map (·.name)

/-- Members of different names are added to a draft in any order. -/
theorem add_comm (apart : shape.fields.Pairwise Field.Apart) (limit : Nat) (draft : δ)
    (first second : Option String × Tree) (differs : Json.Apart first second) :
    (shape.add limit draft first).bind (shape.add limit · second) =
      (shape.add limit draft second).bind (shape.add limit · first) := by
  obtain ⟨name, tree⟩ := first
  obtain ⟨name', tree'⟩ := second
  cases name with
  | none => cases shape.add limit draft (name', tree') <;> rfl
  | some name =>
    cases name' with
    | none => cases shape.add limit draft (some name, tree) <;> rfl
    | some name' =>
      have others : name ≠ name' := fun same => differs name rfl (by rw [same])
      cases found : shape.fields.find? (·.name == name) with
      | none => simp [add_unknown found]
      | some field =>
        cases found' : shape.fields.find? (·.name == name') with
        | none => simp [add_unknown found']
        | some field' =>
          have named : field.name = name := by simpa using List.find?_some found
          have named' : field'.name = name' := by simpa using List.find?_some found'
          have unlike : field ≠ field' := fun same => others (by rw [← named, ← named', same])
          have fields : field.Apart field' :=
            apart.forall (List.mem_of_find?_eq_some found) (List.mem_of_find?_eq_some found') unlike
          rw [add_known found, add_known found']
          simp only [add_known found, add_known found']
          by_cases isSet : field.isSet draft <;> by_cases isSet' : field'.isSet draft <;>
            simp [isSet, isSet', fields.bind_if_isSet, fields.symm.bind_if_isSet, fields.comm]

/-- A member may be exchanged for one that its field makes the same of. -/
theorem add_exchange {limit : Nat} {name : Option String} {tree tree' : Tree}
    (same : ∀ field ∈ shape.fields, some field.name = name →
      ∀ draft, field.on limit tree draft = field.on limit tree' draft) (draft : δ) :
    shape.add limit draft (name, tree) = shape.add limit draft (name, tree') := by
  cases name with
  | none => rfl
  | some name =>
    cases found : shape.fields.find? (·.name == name) with
    | none => rw [add_unknown found, add_unknown found]
    | some field =>
      have named : field.name = name := by simpa using List.find?_some found
      rw [add_known found, add_known found,
        same field (List.mem_of_find?_eq_some found) (congrArg some named)]

/-- An item may be exchanged for one that its field makes the same of. -/
theorem fill_exchange {limit : Nat} {fields : List (Field δ)} {front behind : List Tree} {tree tree' : Tree}
    (same : ∀ field, fields[front.length]? = some field →
      ∀ draft, field.on limit tree draft = field.on limit tree' draft) (draft : δ) :
    shape.fill limit fields (front ++ tree :: behind) draft =
      shape.fill limit fields (front ++ tree' :: behind) draft := by
  induction front generalizing fields draft with
  | nil =>
    cases fields with
    | nil => rfl
    | cons field fields => simp only [List.nil_append, fill, same field rfl]
  | cons first front ih =>
    cases fields with
    | nil => rfl
    | cons field fields =>
      simp only [List.cons_append, fill]
      congr 1
      funext next
      exact ih (fun field isField => same field isField) next

/-- A record does not mind the order of members. -/
theorem read_orderFree (placeFree : shape.PlaceFree) (apart : shape.fields.Pairwise Field.Apart)
    (free : ∀ field ∈ shape.fields, field.OrderFree) : Reader.OrderFree shape.read := by
  intro limit tree tree' reordered
  cases reordered with
  | members distinct perm =>
    rw [on_read_object placeFree, on_read_object placeFree,
      foldlM_perm (add_comm apart _) perm (pairwise_apart distinct)]
  | item inside =>
    rw [on_read_list placeFree, on_read_list placeFree, fill_exchange fun field isField draft =>
      free field (List.mem_of_getElem? isField) _ _ _ draft inside]
  | member inside =>
    rw [on_read_object placeFree, on_read_object placeFree, foldlM_exchange (add_exchange
      fun field member _ draft => free field member _ _ _ draft inside)]

/-- A field is found under its name. -/
theorem find?_name {fields : List (Field δ)} (distinct : (fields.map (·.name)).Nodup) {field : Field δ}
    (member : field ∈ fields) : fields.find? (·.name == field.name) = some field := by
  induction fields with
  | nil => cases member
  | cons first rest ih =>
    obtain ⟨ahead, behind⟩ := List.nodup_cons.mp distinct
    rcases List.mem_cons.mp member with rfl | inside
    · exact List.find?_cons_of_pos (by simp)
    · have other : ¬ first.name = field.name := fun same =>
        ahead (List.mem_map.mpr ⟨field, inside, same.symm⟩)
      rw [List.find?_cons_of_neg (by simpa using other), ih behind inside]

/-- Members under the names of fields, in the order of the fields. -/
def rowsOf (fields : List (Field δ)) (trees : List Tree) : List (Option String × Tree) :=
  List.zipWith (fun field tree => (some field.name, tree)) fields trees

theorem foldlM_add_rowsOf {fields : List (Field δ)}
    (found : ∀ field ∈ fields, shape.fields.find? (·.name == field.name) = some field)
    (apart : fields.Pairwise Field.Apart) {trees : List Tree} (lengths : trees.length = fields.length)
    (limit : Nat) {draft : δ} (unset : ∀ field ∈ fields, field.isSet draft = false) :
    (((rowsOf fields trees).foldlM (shape.add limit) draft).bind fun draft => (shape.finish draft).toOption) =
      shape.fill limit fields trees draft := by
  induction fields generalizing trees draft with
  | nil =>
    obtain rfl := List.length_eq_zero_iff.mp lengths
    rfl
  | cons field fields ih =>
    cases trees with
    | nil => cases lengths
    | cons tree trees =>
      have added : shape.add limit draft (some field.name, tree) = field.on limit tree draft := by
        rw [add_known (found field (by simp)), unset field (by simp)]
        rfl
      rw [rowsOf, List.zipWith_cons_cons, List.foldlM_cons, added, fill]
      cases next : field.on limit tree draft with
      | none => rfl
      | some draft' =>
        refine ih (fun field member => found field (by simp [member])) (List.pairwise_cons.mp apart).2
          (Nat.succ.inj lengths) fun other member => ?_
        rw [((List.pairwise_cons.mp apart).1 other member).kept limit tree draft draft' next]
        exact unset other (by simp [member])

/-- **A record is read alike from an object and from a list**, if both hold its fields in order. -/
theorem on_read_rowsOf (placeFree : shape.PlaceFree) (distinct : shape.names.Nodup)
    (apart : shape.fields.Pairwise Field.Apart) (unset : ∀ field ∈ shape.fields, field.isSet shape.blank = false)
    {trees : List Tree} (lengths : trees.length = shape.fields.length) (limit : Nat) :
    Reader.on shape.read limit (.object (rowsOf shape.fields trees)) =
      if limit ≤ 1 then none else shape.fill (limit - 1) shape.fields trees shape.blank := by
  rw [on_read_object placeFree,
    foldlM_add_rowsOf (fun field member => find?_name distinct member) apart lengths _ unset]

end Shape

/-! ### Unknown names -/

/-- A member with an unknown name is put into the object of a record, or into one of the parts of the record as
`inside` says. -/
inductive Inserted (known : List String) (inside : String → Tree → Tree → Prop) : Tree → Tree → Prop where
  | here {front behind : List (Option String × Tree)} {name : String} {value : Tree} (unknown : name ∉ known) :
      Inserted known inside (.object (front ++ behind)) (.object (front ++ (some name, value) :: behind))
  | member {front behind : List (Option String × Tree)} {name : String} {tree tree' : Tree}
      (isField : name ∈ known) (inserted : inside name tree tree') :
      Inserted known inside (.object (front ++ (some name, tree) :: behind))
        (.object (front ++ (some name, tree') :: behind))
  | item {front behind : List Tree} {name : String} {tree tree' : Tree}
      (isField : known[front.length]? = some name) (inserted : inside name tree tree') :
      Inserted known inside (.list (front ++ tree :: behind)) (.list (front ++ tree' :: behind))

/-- A record does not see members with names that it does not know, nor do its fields. -/
theorem Shape.on_read_inserted {shape : Shape δ α} (placeFree : shape.PlaceFree)
    {inside : String → Tree → Tree → Prop}
    (fields : ∀ field ∈ shape.fields, ∀ tree tree', inside field.name tree tree' →
      ∀ limit draft, field.on limit tree draft = field.on limit tree' draft)
    {tree tree' : Tree} (inserted : Inserted shape.names inside tree tree') (limit : Nat) :
    Reader.on shape.read limit tree = Reader.on shape.read limit tree' := by
  cases inserted with
  | @here front behind name value unknown =>
    have notFound : shape.fields.find? (·.name == name) = none := by
      refine List.find?_eq_none.mpr fun field member same => unknown ?_
      exact List.mem_map.mpr ⟨field, member, by simpa using same⟩
    rw [on_read_object placeFree, on_read_object placeFree,
      foldlM_insert fun draft => add_unknown notFound]
  | member isField inserted =>
    rw [on_read_object placeFree, on_read_object placeFree, foldlM_exchange (add_exchange
      fun field member named draft => fields field member _ _ (Option.some.inj named ▸ inserted) _ draft)]
  | @item front behind name _ _ isField inserted =>
    rw [on_read_list placeFree, on_read_list placeFree, fill_exchange fun field found draft => ?_]
    have named : field.name = name := by
      rw [Shape.names, List.getElem?_map, found] at isField
      exact Option.some.inj isField
    exact fields field (List.mem_of_getElem? found) _ _ (named ▸ inserted) _ draft

end SecretSource.Json
