/-
**Tables: values under names, in the order of the names.**

A table holds every name once and keeps its rows in ascending order of the code points of the names, so
two tables with the same entries are the same table. `insert` writes a value under a name and replaces
what stood there; `ofRows` writes row after row, so the last row of a name wins.

* `find?_insert`: what is found after an insertion.
* `find?_ofRows`: the last row of a name is found.
* `ext_find?`: tables with the same entries are the same table.
-/

namespace SecretSource

/-- Rows with strictly ascending names. -/
structure Table (α : Type) where
  rows : List (String × α)
  ascending : rows.Pairwise fun first second => first.1 < second.1

namespace Table

variable {α β : Type}

instance [DecidableEq α] : DecidableEq (Table α) := fun first second =>
  if same : first.rows = second.rows then
    isTrue (by cases first; cases second; simp_all)
  else isFalse (by intro equal; exact same (by rw [equal]))

/-- The table without rows. -/
def empty : Table α := ⟨[], List.Pairwise.nil⟩

instance : EmptyCollection (Table α) := ⟨empty⟩

/-- The names of a table, in order. -/
def names (table : Table α) : List String := table.rows.map (·.1)

/-- Writes a row into ascending rows. -/
def insertRow (name : String) (value : α) : List (String × α) → List (String × α)
  | [] => [(name, value)]
  | row :: rest =>
    if name < row.1 then (name, value) :: row :: rest
    else if row.1 < name then row :: insertRow name value rest
    else (name, value) :: rest

theorem mem_insertRow {name : String} {value : α} {rows : List (String × α)} {row : String × α}
    (member : row ∈ insertRow name value rows) : row = (name, value) ∨ row ∈ rows := by
  induction rows with
  | nil => simpa [insertRow] using member
  | cons first rest ih =>
    unfold insertRow at member
    split at member
    · simpa using member
    · split at member
      · rcases List.mem_cons.mp member with same | inside
        · exact .inr (by simp [same])
        · rcases ih inside with same | kept
          · exact .inl same
          · exact .inr (by simp [kept])
      · rcases List.mem_cons.mp member with same | inside
        · exact .inl same
        · exact .inr (by simp [inside])

theorem insertRow_ascending (name : String) (value : α) {rows : List (String × α)}
    (ascending : rows.Pairwise fun first second => first.1 < second.1) :
    (insertRow name value rows).Pairwise fun first second => first.1 < second.1 := by
  induction rows with
  | nil => simp [insertRow]
  | cons first rest ih =>
    have ahead := (List.pairwise_cons.mp ascending).1
    have behind := (List.pairwise_cons.mp ascending).2
    unfold insertRow
    split
    · rename_i before
      refine List.pairwise_cons.mpr ⟨?_, ascending⟩
      intro row member
      rcases List.mem_cons.mp member with same | inside
      · simpa [same] using before
      · exact String.lt_trans before (ahead row inside)
    · split
      · rename_i before
        refine List.pairwise_cons.mpr ⟨?_, ih behind⟩
        intro row member
        rcases mem_insertRow member with same | inside
        · simpa [same] using before
        · exact ahead row inside
      · rename_i notBefore notBehind
        have same : name = first.1 := String.le_antisymm notBehind notBefore
        refine List.pairwise_cons.mpr ⟨?_, behind⟩
        intro row member
        rw [same]
        exact ahead row member

/-- Writes a value under a name; what stood there is replaced. -/
def insert (table : Table α) (name : String) (value : α) : Table α :=
  ⟨insertRow name value table.rows, insertRow_ascending name value table.ascending⟩

/-- Writes row after row into an empty table. -/
def ofRows (rows : List (String × α)) : Table α :=
  rows.foldl (fun table row => table.insert row.1 row.2) empty

/-- The value under a name. -/
def find? (table : Table α) (name : String) : Option α :=
  (table.rows.find? (·.1 == name)).map (·.2)

/-- The table with every value changed. -/
def map (change : α → β) (table : Table α) : Table β :=
  ⟨table.rows.map fun row => (row.1, change row.2), by
    have ascending := table.ascending
    exact List.pairwise_map.mpr ascending⟩

/-- What is found is changed like every value. -/
theorem find?_map (table : Table α) (change : α → β) (name : String) :
    (table.map change).find? name = (table.find? name).map change := by
  simp only [find?, map, List.find?_map, Option.map_map]
  rfl

theorem find?_insertRow (name other : String) (value : α) {rows : List (String × α)}
    (ascending : rows.Pairwise fun first second => first.1 < second.1) :
    ((insertRow name value rows).find? (·.1 == other)).map (·.2) =
      if name = other then some value else (rows.find? (·.1 == other)).map (·.2) := by
  induction rows with
  | nil =>
    by_cases same : name = other <;> simp [insertRow, same]
  | cons first rest ih =>
    have behind := (List.pairwise_cons.mp ascending).2
    unfold insertRow
    split
    · by_cases same : name = other <;> simp [same]
    · split
      · rename_i before
        by_cases here : first.1 = other
        · have differs : name ≠ other := by
            intro same
            rw [here, same] at before
            exact String.lt_irrefl _ before
          simp [here, differs]
        · have passed : (first.1 == other) = false := by simpa using here
          simp only [List.find?_cons, passed]
          exact ih behind
      · rename_i notBefore notBehind
        have same : name = first.1 := String.le_antisymm notBehind notBefore
        by_cases here : name = other
        · simp [here]
        · have other_here : ¬ first.1 = other := by rw [← same]; exact here
          simp [here, other_here]

/-- What is found after an insertion. -/
theorem find?_insert (table : Table α) (name other : String) (value : α) :
    (table.insert name value).find? other =
      if name = other then some value else table.find? other :=
  find?_insertRow name other value table.ascending

/-- Behind what is in a table already, the last row of a name is found. -/
theorem find?_foldl_insert (rows : List (String × α)) (table : Table α) (name : String) :
    (rows.foldl (fun table row => table.insert row.1 row.2) table).find? name =
      ((rows.reverse.find? (·.1 == name)).map (·.2)).or (table.find? name) := by
  induction rows generalizing table with
  | nil => rfl
  | cons row rest ih =>
    rw [List.foldl_cons, ih, find?_insert, List.reverse_cons, List.find?_append]
    by_cases same : row.1 = name <;> cases rest.reverse.find? (·.1 == name) <;> simp [same]

/-- The last row of a name is found. -/
theorem find?_ofRows (rows : List (String × α)) (name : String) :
    (ofRows rows).find? name = (rows.reverse.find? (·.1 == name)).map (·.2) := by
  rw [ofRows, find?_foldl_insert]
  exact Option.or_none

/-- Behind the first row no other has its name. -/
theorem find?_rest_eq_none {first : String × α} {rest : List (String × α)}
    (ascending : (first :: rest).Pairwise fun first second => first.1 < second.1) :
    rest.find? (·.1 == first.1) = none := by
  refine List.find?_eq_none.mpr fun row member same => ?_
  have ahead := (List.pairwise_cons.mp ascending).1 row member
  rw [beq_iff_eq.mp same] at ahead
  exact String.lt_irrefl _ ahead

/-- What is found has no smaller name than the first row. -/
theorem not_lt_of_find? {first : String × α} {rest : List (String × α)} {name : String} {value : α}
    (ascending : (first :: rest).Pairwise fun first second => first.1 < second.1)
    (found : ((first :: rest).find? (·.1 == name)).map (·.2) = some value) : ¬ name < first.1 := by
  obtain ⟨row, isRow, -⟩ := Option.map_eq_some_iff.mp found
  have named : row.1 = name := by simpa using List.find?_some isRow
  intro before
  rcases List.mem_cons.mp (List.mem_of_find?_eq_some isRow) with rfl | member
  · exact String.lt_irrefl _ (named ▸ before)
  · have behind := (List.pairwise_cons.mp ascending).1 row member
    exact String.lt_irrefl _ (String.lt_trans behind (named ▸ before))

/-- Ascending rows with the same entries are the same rows. -/
theorem rows_ext {rows rows' : List (String × α)}
    (ascending : rows.Pairwise fun first second => first.1 < second.1)
    (ascending' : rows'.Pairwise fun first second => first.1 < second.1)
    (same : ∀ name, (rows.find? (·.1 == name)).map (·.2) = (rows'.find? (·.1 == name)).map (·.2)) :
    rows = rows' := by
  induction rows generalizing rows' with
  | nil =>
    cases rows' with
    | nil => rfl
    | cons first rest => simpa using same first.1
  | cons first rest ih =>
    cases rows' with
    | nil => simpa using same first.1
    | cons first' rest' =>
      have here : ((first' :: rest').find? (·.1 == first.1)).map (·.2) = some first.2 := by
        rw [← same first.1]
        simp
      have here' : ((first :: rest).find? (·.1 == first'.1)).map (·.2) = some first'.2 := by
        rw [same first'.1]
        simp
      have names : first.1 = first'.1 :=
        String.le_antisymm (not_lt_of_find? ascending here') (not_lt_of_find? ascending' here)
      have values : first'.2 = first.2 := by simpa [names] using here
      have tails : rest = rest' := by
        refine ih (List.pairwise_cons.mp ascending).2 (List.pairwise_cons.mp ascending').2 fun name => ?_
        by_cases first_name : first.1 = name
        · rw [← first_name, find?_rest_eq_none ascending, names, find?_rest_eq_none ascending']
        · have passed := same name
          rwa [List.find?_cons_of_neg (by simpa using first_name),
            List.find?_cons_of_neg (by simpa [← names] using first_name)] at passed
      rw [Prod.ext names values.symm, tails]

/-- **Tables with the same entries are the same table.** -/
theorem ext_find? {first second : Table α} (same : ∀ name, first.find? name = second.find? name) :
    first = second := by
  obtain ⟨rows, ascending⟩ := first
  obtain ⟨rows', ascending'⟩ := second
  obtain rfl := rows_ext ascending ascending' same
  rfl

@[simp] theorem names_map (table : Table α) (change : α → β) : (table.map change).names = table.names :=
  List.map_map

/-- Tables that have the same names have them in the same order. -/
theorem names_eq_of_find? {first : Table α} {second : Table β}
    (same : ∀ name, (first.find? name).isSome = (second.find? name).isSome) : first.names = second.names := by
  -- Without their values both are one table, so the order of the names is the same.
  have blank : first.map (fun _ => ()) = second.map (fun _ => ()) := by
    refine ext_find? fun name => ?_
    have here := same name
    rw [find?_map, find?_map]
    cases found : first.find? name <;> cases found' : second.find? name <;> simp [found, found'] at here ⊢
  rw [← names_map first fun _ => (), blank, names_map]

/-- Rows of two names are written in any order. -/
theorem insert_comm (table : Table α) {name other : String} (differs : name ≠ other) (value value' : α) :
    (table.insert name value).insert other value' = (table.insert other value').insert name value := by
  refine ext_find? fun asked => ?_
  rw [find?_insert, find?_insert, find?_insert, find?_insert]
  by_cases here : name = asked
  · have there : other ≠ asked := fun same => differs (here.trans same.symm)
    rw [if_neg there, if_pos here, if_pos here]
  · rw [if_neg here, if_neg here]

/-- Behind smaller names a row is added at the end. -/
theorem insertRow_of_ahead {name : String} {value : α} {rows : List (String × α)}
    (ahead : ∀ row ∈ rows, row.1 < name) : insertRow name value rows = rows ++ [(name, value)] := by
  induction rows with
  | nil => rfl
  | cons first rest ih =>
    have before := ahead first (by simp)
    have notBehind : ¬ name < first.1 := fun behind => String.lt_irrefl _ (String.lt_trans before behind)
    rw [insertRow, if_neg notBehind, if_pos before, ih fun row member => ahead row (by simp [member])]
    rfl

/-- Rows of a table that are written one after the other are the table. -/
theorem ofRows_rows (table : Table α) : ofRows table.rows = table := by
  have behind : ∀ (rows : List (String × α)) (front : Table α),
      (front.rows ++ rows).Pairwise (fun first second => first.1 < second.1) →
      (rows.foldl (fun table row => table.insert row.1 row.2) front).rows = front.rows ++ rows := by
    intro rows
    induction rows with
    | nil =>
      intro front _
      exact (List.append_nil _).symm
    | cons row rest ih =>
      intro front ascending
      have added : (front.insert row.1 row.2).rows = front.rows ++ [row] :=
        insertRow_of_ahead fun earlier member =>
          (List.pairwise_append.mp ascending).2.2 earlier member row (by simp)
      rw [List.foldl_cons, ih _ (by rw [added]; simpa using ascending), added]
      simp
  have same : (ofRows table.rows).rows = table.rows := behind table.rows empty table.ascending
  obtain ⟨rows, ascending⟩ := table
  cases made : ofRows rows with
  | mk rows' ascending' =>
    rw [made] at same
    cases same
    rfl

/-- Every row of a table is one of those that it was made of. -/
theorem mem_of_mem_ofRows {rows : List (String × α)} {row : String × α} (member : row ∈ (ofRows rows).rows) :
    row ∈ rows := by
  have kept : ∀ (rows : List (String × α)) (table : Table α),
      row ∈ (rows.foldl (fun table row => table.insert row.1 row.2) table).rows →
      row ∈ table.rows ∨ row ∈ rows := by
    intro rows
    induction rows with
    | nil => exact fun table member => Or.inl member
    | cons first rest ih =>
      intro table member
      rcases ih (table.insert first.1 first.2) member with before | behind
      · rcases mem_insertRow before with rfl | inside
        · exact Or.inr (by simp)
        · exact Or.inl inside
      · exact Or.inr (by simp [behind])
  rcases kept rows empty member with inside | member
  · cases inside
  · exact member

end Table

end SecretSource
