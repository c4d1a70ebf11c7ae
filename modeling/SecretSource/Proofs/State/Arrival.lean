/-
**The values of a secret arrive complete and unaltered.**

The body of a read holds the values of a secret as members of an object. The table of the secret, and the
attribute of the state that is filled from it, hold exactly the names of these members; a text is there as it
is, and any other value is there as a text from which the same value is read.

* `Shows`: what it means that a table shows the members of an object.
* `withSecret_shows`: every body that is read is shown.
-/

import SecretSource.Proofs.Json.Meaning
import SecretSource.Proofs.Json.Members
import SecretSource.Proofs.Vault.Payload
import SecretSource.Provider.State

namespace SecretSource.Provider

open SecretSource.Json
open SecretSource.Number
open SecretSource.Vault

/-! ### Where the values are -/

/-- The values of a secret in the body of a read. -/
def secretValues? (tree : Tree) : Option Tree := (tree.part? "data" 0).bind (·.part? "data" 0)

/-- The version in a body is made of the part for it. -/
theorem exists_payload_of_on_read {tree : Tree} {limit : Nat} {body : SecretBody}
    (made : Reader.on SecretBody.shape.read limit tree = some body) :
    ∃ part, tree.part? "data" 0 = some part ∧
      Reader.on SecretPayload.shape.read (limit - 1) part = some body.data := by
  obtain ⟨draft, finished, held⟩ := Shape.exists_draft_of_on_read SecretBody.shape_placeFree rfl (fun _ _ => rfl)
    (fun field member => by
      obtain rfl := List.mem_singleton.mp member
      exact Shape.keeps_ofSlot fun _ _ => rfl) made
  obtain ⟨data, warnings⟩ := draft
  cases found : tree.part? "data" 0 with
  | none =>
    rw [found] at held
    cases held
    cases finished
  | some part =>
    rw [found] at held
    obtain ⟨payload, isPayload, held⟩ := held
    cases held
    cases finished
    exact ⟨_, rfl, isPayload⟩

/-- The values of a version are made of the part for them: there are none if the part is missing or null, and
otherwise it is an object. -/
theorem values_of_on_read {tree : Tree} {limit : Nat} {payload : SecretPayload}
    (made : Reader.on SecretPayload.shape.read limit tree = some payload) :
    ((tree.part? "data" 0 = none ∨ tree.part? "data" 0 = some .null) ∧ payload.values = none) ∨
    ∃ rows table, tree.part? "data" 0 = some (.object rows) ∧ payload.values = some table ∧
      rows.foldlM (addRow readAny (limit - 1 - 1)) ∅ = some table := by
  obtain ⟨draft, finished, held⟩ := Shape.exists_draft_of_on_read SecretPayload.shape_placeFree rfl
    (fun _ _ => rfl) (fun field member => by
      obtain rfl := List.mem_singleton.mp member
      exact Shape.keeps_ofSlot fun _ _ => rfl) made
  have values : payload.values = draft.values.join := by
    obtain ⟨values, metadata⟩ := draft
    cases metadata with
    | none => cases finished
    | some metadata =>
      cases finished
      rfl
  cases found : tree.part? "data" 0 with
  | none =>
    rw [found] at held
    rw [show draft.values = none from held] at values
    exact Or.inl ⟨Or.inl rfl, values⟩
  | some part =>
    rw [found] at held
    obtain ⟨read, isRead, held⟩ := held
    rw [show draft.values = some read from held] at values
    by_cases null : part = .null
    · subst null
      cases isRead
      exact Or.inl ⟨Or.inr rfl, values⟩
    · rw [on_readOptional _ _ null] at isRead
      obtain ⟨table, isTable, rfl⟩ := Option.map_eq_some_iff.mp isRead
      cases part with
      | object rows =>
        rw [on_readTable readAny_placeFree] at isTable
        split at isTable
        · cases isTable
        · exact Or.inr ⟨rows, table, rfl, values, isTable⟩
      | null => exact absurd rfl null
      | number value => cases value <;> cases isTable
      | text value => cases value <;> cases isTable
      | _ => cases isTable

/-! ### What a value is shown as -/

/-- A table shows the members of an object completely and unaltered. -/
structure Shows (rows : List (Option String × Tree)) (table : Table String) : Prop where
  /-- It has exactly the names of the members. -/
  names : ∀ name, (∃ text, table.find? name = some text) ↔ some name ∈ rows.map Prod.fst
  /-- A text is shown as it is. -/
  texts : ∀ name text, lastMember? rows name = some (.text (some text)) → table.find? name = some text
  /-- Any other value is shown as a text without white space, names in order, from which it is read again. -/
  values : ∀ name tree, lastMember? rows name = some tree → (∀ text, tree ≠ .text text) →
    ∃ value text, tree.value? = some value ∧ table.find? name = some text ∧ value.IsOrdered ∧
      Spells NoGap value.tree text.toList [] ∧ Value.ofText text = .ok value

/-- A value that is no text is shown as its compact text, from which it is read again. -/
theorem render_of_not_text {tree : Tree} (isPlain : tree.IsPlain) (notText : ∀ text, tree ≠ .text text)
    {limit : Nat} (bounded : limit ≤ depthLimit) {value : Value} (made : readAny.on limit tree = some value) :
    tree.value? = some value ∧ value.IsOrdered ∧ Spells NoGap value.tree (render value).toList [] ∧
      Value.ofText (render value) = .ok value := by
  obtain ⟨means, ordered, fits⟩ := value?_of_on_readAny tree made
  have numbers := isPlain.allNumbers means
  have written : render value = value.toText := by
    cases value with
    | text text => exact absurd (Tree.eq_text_of_value? means) (notText _)
    | _ => rfl
  have spelled := Value.spells_written numbers []
  rw [List.append_nil] at spelled
  refine ⟨means, ordered, ?_, ?_⟩
  · rwa [written, Value.toText, String.toList_ofList]
  · rw [written]
    exact Value.ofText_toText numbers ordered (fits.mono bounded)

/-- What is read of the members of an object is shown. -/
theorem shows_map_render {rows : List (Option String × Tree)} (plain : ∀ row ∈ rows, row.2.IsPlain) {limit : Nat}
    (bounded : limit ≤ depthLimit) {table : Table Value}
    (made : rows.foldlM (addRow readAny limit) ∅ = some table) : Shows rows (table.map render) := by
  have shown : ∀ name tree, lastMember? rows name = some tree →
      ∃ value, readAny.on limit tree = some value ∧ (table.map render).find? name = some (render value) := by
    intro name tree last
    have held := find?_of_foldlM_addRow made name
    rw [last] at held
    obtain ⟨value, isValue, held⟩ := held
    exact ⟨value, isValue, by rw [Table.find?_map, held]; rfl⟩
  have isPlain : ∀ name tree, lastMember? rows name = some tree → tree.IsPlain := by
    intro name tree last
    obtain ⟨row, isLast, rfl⟩ := Option.map_eq_some_iff.mp last
    exact plain row (List.mem_reverse.mp (List.mem_of_find?_eq_some isLast))
  refine ⟨fun name => ?_, fun name text last => ?_, fun name tree last notText => ?_⟩
  · rw [← isSome_find?_of_foldlM_addRow made name, Table.find?_map, ← Option.isSome_iff_exists, Option.isSome_map]
  · obtain ⟨value, isValue, found⟩ := shown name _ last
    cases isValue
    exact found
  · obtain ⟨value, isValue, found⟩ := shown name tree last
    obtain ⟨means, ordered, spelled, again⟩ := render_of_not_text (isPlain name tree last) notText bounded isValue
    exact ⟨value, render value, means, found, ordered, spelled, again⟩

/-- **The values of a secret arrive complete and unaltered.** Whatever the body of a read tells, the table of the
secret is empty if there are no values, and otherwise it shows them; and the state that is filled from the secret
holds the same table, each text of it known. -/
theorem withSecret_shows {text : String} {body : SecretBody} (reads : SecretBody.ofText text = .ok body)
    (path : String) (state : SecretState) :
    ∃ tree, SpellsDocument tree text ∧ ∃ table : Table String,
      (Secret.ofPayload path body.data).data = table ∧
      (state.withSecret (.ofPayload path body.data)).data = .known (table.map .known) ∧
      (((secretValues? tree = none ∨ secretValues? tree = some .null) ∧ table = ∅) ∨
        ∃ rows, secretValues? tree = some (.object rows) ∧
          ((∀ row ∈ rows, row.2.IsPlain) → Shows rows table)) := by
  obtain ⟨tree, spells, made⟩ := Shape.exists_spellsDocument SecretBody.shape_placeFree reads
  obtain ⟨part, isPart, madePart⟩ := exists_payload_of_on_read made
  refine ⟨tree, spells, _, rfl, rfl, ?_⟩
  have inside : secretValues? tree = part.part? "data" 0 := by
    rw [secretValues?, isPart, Option.bind_some]
  rw [inside]
  rcases values_of_on_read madePart with ⟨nothing, none⟩ | ⟨rows, table, isObject, some, all⟩
  · refine Or.inl ⟨nothing, ?_⟩
    show (body.data.values.getD ∅).map render = ∅
    rw [none]
    rfl
  · refine Or.inr ⟨rows, isObject, fun plain => ?_⟩
    show Shows rows ((body.data.values.getD ∅).map render)
    rw [some]
    exact shows_map_render plain (by decide) all

/-- The body of a read of one text and one number, the number twice: the second one counts. -/
def smallAnswer : String :=
  "\x7b\"data\":\x7b\"data\":\x7b\"port\":1,\"user\":\"admin\",\"port\":5432\x7d," ++
    "\"metadata\":\x7b\"created_time\":\"2024-01-01T00:00:00Z\",\"version\":3\x7d\x7d\x7d"

/-- Both arrive. -/
theorem withSecret_shows_smallAnswer : ∃ body table, SecretBody.ofText smallAnswer = .ok body ∧
    ((SecretState.ofNames "kv" "app").withSecret (.ofPayload "kv/data/app" body.data)).data =
      .known (Table.map .known table) ∧
    table.find? "user" = some "admin" ∧
    (∃ text, table.find? "port" = some text ∧ Value.ofText text = .ok (.number (.integer 5432))) ∧
    table.find? "password" = none := by
  have isRead : (SecretBody.ofText smallAnswer).toOption.isSome = true := by decide +kernel
  cases reads : SecretBody.ofText smallAnswer with
  | error fault =>
    rw [reads] at isRead
    cases isRead
  | ok body =>
    obtain ⟨tree, spells, table, isTable, known, shown⟩ :=
      withSecret_shows reads "kv/data/app" (SecretState.ofNames "kv" "app")
    have isTree : SpellsDocument (.object [(some "data", .object [
        (some "data", .object [(some "port", .number (some (.integer 1))), (some "user", .text (some "admin")),
          (some "port", .number (some (.integer 5432)))]),
        (some "metadata", .object [(some "created_time", .text (some "2024-01-01T00:00:00Z")),
          (some "version", .number (some (.integer 3)))])])]) smallAnswer :=
      .of_root (by decide +kernel) (by decide +kernel)
    obtain rfl := spells.unique isTree
    refine ⟨body, table, rfl, known, ?_⟩
    rcases shown with ⟨nothing, -⟩ | ⟨rows, isObject, shows⟩
    · rcases nothing with nothing | nothing <;> cases nothing
    · cases isObject
      have plain := shows fun row member => by
        simp only [List.mem_cons, List.not_mem_nil, or_false] at member
        rcases member with rfl | rfl | rfl
        · exact .integer (by decide) (by decide)
        · exact .text
        · exact .integer (by decide) (by decide)
      obtain ⟨value, text, means, shown, -, -, again⟩ :=
        plain.values "port" (.number (some (.integer 5432))) rfl nofun
      cases means
      refine ⟨plain.texts "user" "admin" rfl, ⟨text, shown, again⟩, ?_⟩
      cases absent : table.find? "password" with
      | none => rfl
      | some text => exact absurd ((plain.names "password").mp ⟨text, absent⟩) (by decide)

end SecretSource.Provider
