/-
**Which member of an object counts.**

Of several members with one name the last one counts. What a table holds under a name is made of the last member
of that name, and so is a field of a record that is read from an object; read from a list, it is made of the
item at the place of the field.

* `find?_of_foldlM_addRow`: a table holds what is made of the last members, and nothing else;
  `isSome_find?_of_foldlM_addRow`: so it has their names.
* `Shape.exists_draft_of_on_read_at`, `Shape.exists_draft_of_on_read`: a field of a record holds what is made of its
  part of the tree.
-/

import SecretSource.Proofs.Json.Reading

namespace SecretSource.Json

variable {α δ σ : Type}

/-- The last member of a name. -/
def lastMember? (rows : List (Option String × Tree)) (name : String) : Option Tree :=
  (rows.reverse.find? (·.1 == some name)).map (·.2)

/-- The part of a record: the last member of its name in an object, or the item at its place in a list. -/
def Tree.part? (name : String) (place : Nat) : Tree → Option Tree
  | .object rows => lastMember? rows name
  | .list items => items[place]?
  | _ => none

theorem lastMember?_cons (row : Option String × Tree) (rest : List (Option String × Tree)) (name : String) :
    lastMember? (row :: rest) name =
      (lastMember? rest name).or (if row.1 = some name then some row.2 else none) := by
  unfold lastMember?
  rw [List.reverse_cons, List.find?_append]
  by_cases named : row.1 = some name <;> cases rest.reverse.find? (·.1 == some name) <;> simp [named]

theorem lastMember?_append (before behind : List (Option String × Tree)) (name : String) :
    lastMember? (before ++ behind) name = (lastMember? behind name).or (lastMember? before name) := by
  unfold lastMember?
  rw [List.reverse_append, List.find?_append, Option.map_or]

/-- A name has a last member exactly if it has a member. -/
theorem lastMember?_eq_none_iff {rows : List (Option String × Tree)} {name : String} :
    lastMember? rows name = none ↔ some name ∉ rows.map Prod.fst := by
  induction rows with
  | nil => simp [lastMember?]
  | cons row rest ih =>
    rw [lastMember?_cons, Option.or_eq_none_iff, ih, List.map_cons, List.mem_cons, not_or, and_comm]
    by_cases named : row.1 = some name
    · simp [named]
    · simp [named, Ne.symm named]

/-- **What is kept under a name is made of the last member of the name**, if a member of the name replaces what
is kept and no other member does. -/
theorem foldlM_tracks {take : σ → Option String × Tree → Option σ} (view : σ → Option α)
    {make : Tree → Option α} {name : String}
    (own : ∀ state tree state', take state (some name, tree) = some state' →
      ∃ value, make tree = some value ∧ view state' = some value)
    (other : ∀ state row state', row.1 ≠ some name → take state row = some state' → view state' = view state)
    {rows : List (Option String × Tree)} {state state' : σ} (all : rows.foldlM take state = some state') :
    match lastMember? rows name with
    | none => view state' = view state
    | some tree => ∃ value, make tree = some value ∧ view state' = some value := by
  induction rows generalizing state with
  | nil =>
    cases all
    rfl
  | cons row rest ih =>
    rw [List.foldlM_cons] at all
    obtain ⟨next, first, others⟩ := Option.bind_eq_some_iff.mp all
    have tracked := ih others
    rw [lastMember?_cons]
    cases last : lastMember? rest name with
    | some tree =>
      rw [last] at tracked
      exact tracked
    | none =>
      rw [last] at tracked
      obtain ⟨name', tree⟩ := row
      by_cases named : name' = some name
      · subst named
        obtain ⟨value, made, held⟩ := own state tree next first
        simp only [if_true, Option.none_or]
        exact ⟨value, made, tracked.trans held⟩
      · simp only [if_neg named, Option.none_or]
        exact tracked.trans (other state (name', tree) next named first)

/-- **A table holds what is made of the last members**, and nothing else. -/
theorem find?_of_foldlM_addRow {read : Reader α} {limit : Nat} {rows : List (Option String × Tree)}
    {table : Table α} (all : rows.foldlM (addRow read limit) ∅ = some table) (name : String) :
    match lastMember? rows name with
    | none => table.find? name = none
    | some tree => ∃ value, read.on limit tree = some value ∧ table.find? name = some value := by
  refine foldlM_tracks (·.find? name) ?_ ?_ all
  · intro state tree state' added
    obtain ⟨value, made, rfl⟩ := Option.map_eq_some_iff.mp added
    exact ⟨value, made, by rw [Table.find?_insert, if_pos rfl]⟩
  · intro state row state' named added
    obtain ⟨name', isName, added⟩ := Option.bind_eq_some_iff.mp added
    obtain ⟨value, -, rfl⟩ := Option.map_eq_some_iff.mp added
    exact (Table.find?_insert state name' name value).trans
      (if_neg fun same => named (isName.trans (congrArg some same)))

/-- A table has the names of the members that it is read of. -/
theorem isSome_find?_of_foldlM_addRow {read : Reader α} {limit : Nat} {rows : List (Option String × Tree)}
    {table : Table α} (all : rows.foldlM (addRow read limit) ∅ = some table) (name : String) :
    (table.find? name).isSome = true ↔ some name ∈ rows.map Prod.fst := by
  have held := find?_of_foldlM_addRow all name
  cases last : lastMember? rows name with
  | none =>
    rw [last] at held
    simp [held, lastMember?_eq_none_iff.mp last]
  | some tree =>
    rw [last] at held
    obtain ⟨value, -, held⟩ := held
    have inside : some name ∈ rows.map Prod.fst := by
      refine Decidable.byContradiction fun outside => ?_
      rw [lastMember?_eq_none_iff.mpr outside] at last
      cases last
    simp [held, inside]

namespace Shape

variable {shape : Shape δ α}

/-- A field leaves a slot as it is. -/
def Keeps {β : Type} (slot : δ → Option β) (field : Field δ) : Prop :=
  ∀ limit tree draft draft', field.on limit tree draft = some draft' → slot draft' = slot draft

theorem keeps_ofSlot {β γ : Type} {name : String} {slot : δ → Option β} {slot' : δ → Option γ} {read : Reader γ}
    {store : δ → γ → δ} (kept : ∀ draft value, slot (store draft value) = slot draft) :
    Keeps slot (.ofSlot name slot' read store) := by
  intro limit tree draft draft' added
  rw [Field.on_ofSlot] at added
  obtain ⟨value, -, rfl⟩ := Option.map_eq_some_iff.mp added
  exact kept draft value

/-- A field read from an object holds what is made of the last member of its name. -/
theorem slot_of_add {β : Type} {name : String} {slot : δ → Option β} {read : Reader β} {store : δ → β → δ}
    (isField : shape.fields.find? (·.name == name) = some (.ofSlot name slot read store))
    (stores : ∀ draft value, slot (store draft value) = some value)
    (others : ∀ field ∈ shape.fields, field.name ≠ name → Keeps slot field) {limit : Nat}
    {rows : List (Option String × Tree)} {draft draft' : δ}
    (all : rows.foldlM (shape.add limit) draft = some draft') :
    match lastMember? rows name with
    | none => slot draft' = slot draft
    | some tree => ∃ value, read.on limit tree = some value ∧ slot draft' = some value := by
  refine foldlM_tracks slot ?_ ?_ all
  · intro state tree state' added
    rw [add_known isField] at added
    split at added
    · cases added
    · rw [Field.on_ofSlot] at added
      obtain ⟨value, made, rfl⟩ := Option.map_eq_some_iff.mp added
      exact ⟨value, made, stores state value⟩
  · intro state row state' named added
    obtain ⟨name', tree⟩ := row
    cases name' with
    | none => cases added
    | some name' =>
      cases found : shape.fields.find? (·.name == name') with
      | none =>
        rw [add_unknown found] at added
        cases added
        rfl
      | some field =>
        rw [add_known found] at added
        split at added
        · cases added
        · have isName : field.name = name' := by simpa using List.find?_some found
          refine others field (List.mem_of_find?_eq_some found) ?_ _ _ _ _ added
          exact fun same => named (by rw [← isName, same])

/-- Fields that leave a slot as it is do so for all items of a list. -/
theorem slot_of_fill {β : Type} {slot : δ → Option β} {fields : List (Field δ)}
    (keep : ∀ field ∈ fields, Keeps slot field) {limit : Nat} {items : List Tree} {draft : δ} {result : α}
    (all : shape.fill limit fields items draft = some result) :
    ∃ draft', (shape.finish draft').toOption = some result ∧ slot draft' = slot draft := by
  induction items generalizing fields draft with
  | nil =>
    cases fields <;> exact ⟨draft, all, rfl⟩
  | cons tree rest ih =>
    cases fields with
    | nil => cases all
    | cons field fields =>
      obtain ⟨next, first, all⟩ := Option.bind_eq_some_iff.mp all
      obtain ⟨draft', finished, same⟩ := ih (fun field member => keep field (by simp [member])) all
      exact ⟨draft', finished, same.trans (keep field (by simp) _ _ _ _ first)⟩

/-- A field read from a list holds what is made of the item at its place. -/
theorem slot_of_fill_at {β : Type} {name : String} {slot : δ → Option β} {read : Reader β} {store : δ → β → δ}
    {before behind : List (Field δ)} (stores : ∀ draft value, slot (store draft value) = some value)
    (others : ∀ field ∈ before ++ behind, Keeps slot field) {limit : Nat} {items : List Tree} {draft : δ}
    {result : α}
    (all : shape.fill limit (before ++ .ofSlot name slot read store :: behind) items draft = some result) :
    ∃ draft', (shape.finish draft').toOption = some result ∧
      match items[before.length]? with
      | none => slot draft' = slot draft
      | some part => ∃ value, read.on limit part = some value ∧ slot draft' = some value := by
  induction before generalizing items draft with
  | nil =>
    cases items with
    | nil => exact ⟨draft, all, rfl⟩
    | cons item rest =>
      obtain ⟨next, first, all⟩ := Option.bind_eq_some_iff.mp all
      rw [Field.on_ofSlot] at first
      obtain ⟨value, isValue, rfl⟩ := Option.map_eq_some_iff.mp first
      obtain ⟨draft', finished, same⟩ := slot_of_fill others all
      exact ⟨draft', finished, value, isValue, same.trans (stores _ value)⟩
  | cons field before ih =>
    cases items with
    | nil => exact ⟨draft, all, rfl⟩
    | cons item rest =>
      obtain ⟨next, first, all⟩ := Option.bind_eq_some_iff.mp all
      obtain ⟨draft', finished, held⟩ := ih (fun field member => others field (List.mem_cons_of_mem _ member)) all
      rw [others field List.mem_cons_self _ _ _ _ first] at held
      exact ⟨draft', finished, held⟩

/-- **A field of a record holds what is made of its part**, and other fields have no part in it. -/
theorem exists_draft_of_on_read_at {β : Type} (placeFree : shape.PlaceFree) {name : String} {slot : δ → Option β}
    {read : Reader β} {store : δ → β → δ} {before behind : List (Field δ)}
    (isField : shape.fields = before ++ .ofSlot name slot read store :: behind)
    (apart : ∀ field ∈ before, field.name ≠ name)
    (stores : ∀ draft value, slot (store draft value) = some value)
    (others : ∀ field ∈ before ++ behind, Keeps slot field) {limit : Nat} {tree : Tree} {result : α}
    (made : Reader.on shape.read limit tree = some result) :
    ∃ draft, (shape.finish draft).toOption = some result ∧
      match tree.part? name before.length with
      | none => slot draft = slot shape.blank
      | some part => ∃ value, read.on (limit - 1) part = some value ∧ slot draft = some value := by
  cases tree with
  | object rows =>
    rw [on_read_object placeFree] at made
    split at made
    · cases made
    · obtain ⟨draft, all, finished⟩ := Option.bind_eq_some_iff.mp made
      refine ⟨draft, finished, slot_of_add ?_ stores ?_ all⟩
      · have notBefore : before.find? (·.name == name) = none :=
          List.find?_eq_none.mpr fun field member same => apart field member (beq_iff_eq.mp same)
        rw [isField, List.find?_append, notBefore, Option.none_or]
        exact List.find?_cons_of_pos (by simp [Field.ofSlot])
      · intro field member named
        rw [isField] at member
        refine others field (List.mem_append.mpr ?_)
        rcases List.mem_append.mp member with member | member
        · exact Or.inl member
        · rcases List.mem_cons.mp member with rfl | member
          · exact absurd rfl named
          · exact Or.inr member
  | list items =>
    rw [on_read_list placeFree, isField] at made
    split at made
    · cases made
    · exact slot_of_fill_at stores others made
  | null => cases made
  | truth value => cases made
  | number value => cases value <;> cases made
  | text value => cases value <;> cases made

/-- The same of the first field. -/
theorem exists_draft_of_on_read {β : Type} (placeFree : shape.PlaceFree) {name : String} {slot : δ → Option β}
    {read : Reader β} {store : δ → β → δ} {fields : List (Field δ)}
    (isFirst : shape.fields = .ofSlot name slot read store :: fields)
    (stores : ∀ draft value, slot (store draft value) = some value)
    (others : ∀ field ∈ fields, Keeps slot field) {limit : Nat} {tree : Tree} {result : α}
    (made : Reader.on shape.read limit tree = some result) :
    ∃ draft, (shape.finish draft).toOption = some result ∧
      match tree.part? name 0 with
      | none => slot draft = slot shape.blank
      | some part => ∃ value, read.on (limit - 1) part = some value ∧ slot draft = some value := by
  have isField : shape.fields = [] ++ .ofSlot name slot read store :: fields := isFirst
  exact exists_draft_of_on_read_at placeFree isField nofun stores others made

end Shape

end SecretSource.Json
