/-
**Bodies in which one part is renewed.**

A record whose parts do not depend on one another is read again if one of its parts is exchanged for another that can
be read, and nothing but this part of the result changes. So a time that is told about a version may be exchanged in
the body of a read: the body is read as before, but for the new time.

* `RenewsAt`, `renewsAt`: what is read of a record in which one part is exchanged for another.
* `RetoldAs`, `ofText_of_retoldAs`: bodies that are the same but for one time, and what is read of them.
* `TellsBy`, `readLenient_of_tellsBy`, `deletionTime_of_tellsBy`: the texts that a body tells its times by.
-/

import SecretSource.Proofs.Session.Discretion

/-! ### Records -/

namespace SecretSource.Json

variable {α β δ : Type}

/-- A tree is itself but for a part that it has. -/
theorem DiffersAt.of_part? {name : String} {place : Nat} {tree part : Tree}
    (isPart : tree.part? name place = some part) :
    DiffersAt name place (fun part' _ => part' = part) tree tree := by
  cases tree with
  | object rows =>
    obtain ⟨⟨_, _⟩, found, rfl⟩ := Option.map_eq_some_iff.mp isPart
    obtain ⟨before, behind, rfl⟩ := List.append_of_mem (List.mem_reverse.mp (List.mem_of_find?_eq_some found))
    obtain rfl : _ = some name := by simpa using List.find?_some found
    exact .member before behind rfl
  | list items =>
    have there : items[place]? = some part := isPart
    obtain ⟨inside, isItem⟩ := List.getElem?_eq_some_iff.mp there
    have whole : items.take place ++ part :: items.drop (place + 1) = items := by
      rw [← isItem, List.getElem_cons_drop, List.take_append_drop]
    rw [← whole]
    exact .item _ _ (List.length_take_of_le (Nat.le_of_lt inside)) rfl
  | _ => cases isPart

section Renewing

variable {name : String} {slot : δ → Option β} {read : Reader β} {store : δ → β → δ} {limit : Nat}

/-- What other fields make of a draft does not depend on what is stored in a slot. -/
theorem Field.Apart.on_store {field : Field δ} (apart : (Field.ofSlot name slot read store).Apart field) {part : Tree}
    {value : β} (made : read.on limit part = some value) (tree : Tree) (draft : δ) :
    field.on limit tree (store draft value) = (field.on limit tree draft).map (store · value) := by
  have stored (draft : δ) : (Field.ofSlot name slot read store).on limit part draft = some (store draft value) := by
    rw [Field.on_ofSlot, made]
    rfl
  have comm := apart.comm limit part tree draft
  rw [stored, funext stored] at comm
  exact comm.trans Option.map_eq_bind.symm

theorem Field.Apart.isSet_store {field : Field δ} (apart : (Field.ofSlot name slot read store).Apart field)
    {part : Tree} {value : β} (made : read.on limit part = some value) (draft : δ) :
    field.isSet (store draft value) = field.isSet draft :=
  apart.kept limit part draft _ (by rw [Field.on_ofSlot, made]; rfl)

namespace Shape

variable {shape : Shape δ α}

/-- A member of another name is added to the same effect, whatever is stored in the slot. -/
theorem add_store (apart : ∀ field ∈ shape.fields, field.name ≠ name → (Field.ofSlot name slot read store).Apart field)
    {part : Tree} {value : β} (made : read.on limit part = some value) {row : Option String × Tree}
    (other : row.1 ≠ some name) (draft : δ) :
    shape.add limit (store draft value) row = (shape.add limit draft row).map (store · value) := by
  obtain ⟨name', tree⟩ := row
  cases name' with
  | none => rfl
  | some name' =>
    cases found : shape.fields.find? (·.name == name') with
    | none =>
      rw [add_unknown found, add_unknown found]
      rfl
    | some field =>
      have named : field.name = name' := by simpa using List.find?_some found
      have unlike : field.name ≠ name := fun same => other (congrArg some (named.symm.trans same))
      have fields := apart field (List.mem_of_find?_eq_some found) unlike
      rw [add_known found, add_known found, fields.isSet_store made, fields.on_store made]
      split <;> rfl

/-- If the members behind one can be added, they are added to the same effect behind another. -/
theorem exists_of_foldlM_add_store (isField : shape.fields.find? (·.name == name) = some (.ofSlot name slot read store))
    (apart : ∀ field ∈ shape.fields, field.name ≠ name → (Field.ofSlot name slot read store).Apart field)
    (stores : ∀ draft value, slot (store draft value) = some value) {part : Tree} {value : β}
    (made : read.on limit part = some value) {rows : List (Option String × Tree)} {draft draft' : δ}
    (all : rows.foldlM (shape.add limit) (store draft value) = some draft') :
    ∃ rest, draft' = store rest value ∧ ∀ part' value', read.on limit part' = some value' →
      rows.foldlM (shape.add limit) (store draft value') = some (store rest value') := by
  induction rows generalizing draft with
  | nil =>
    cases all
    exact ⟨draft, rfl, fun _ _ _ => rfl⟩
  | cons row rows ih =>
    rw [List.foldlM_cons] at all
    obtain ⟨next, added, others⟩ := Option.bind_eq_some_iff.mp all
    -- A second member of the name would have been refused.
    have other : row.1 ≠ some name := by
      intro named
      obtain ⟨_, tree⟩ := row
      cases named
      have isSet : (Field.ofSlot name slot read store).isSet (store draft value) = true :=
        congrArg Option.isSome (stores draft value)
      rw [add_known isField, if_pos isSet] at added
      cases added
    rw [add_store apart made other] at added
    obtain ⟨draft₁, added₁, rfl⟩ := Option.map_eq_some_iff.mp added
    obtain ⟨rest, same, again⟩ := ih others
    refine ⟨rest, same, fun part' value' made' => ?_⟩
    rw [List.foldlM_cons, add_store apart made' other, added₁]
    exact again part' value' made'

/-- The items behind one are taken to the same effect behind another. -/
theorem exists_of_fill_store {fields : List (Field δ)}
    (apart : ∀ field ∈ fields, (Field.ofSlot name slot read store).Apart field) {part : Tree} {value : β}
    (made : read.on limit part = some value) {items : List Tree} {draft : δ} {result : α}
    (all : shape.fill limit fields items (store draft value) = some result) :
    ∃ rest, (shape.finish (store rest value)).toOption = some result ∧
      ∀ part' value', read.on limit part' = some value' →
        shape.fill limit fields items (store draft value') = (shape.finish (store rest value')).toOption := by
  induction items generalizing fields draft with
  | nil => cases fields <;> exact ⟨draft, all, fun _ _ _ => rfl⟩
  | cons item items ih =>
    cases fields with
    | nil => cases all
    | cons field fields =>
      have fieldApart := apart field List.mem_cons_self
      obtain ⟨next, taken, others⟩ := Option.bind_eq_some_iff.mp all
      rw [fieldApart.on_store made] at taken
      obtain ⟨draft₁, taken₁, rfl⟩ := Option.map_eq_some_iff.mp taken
      obtain ⟨rest, finished, again⟩ := ih (fun field member => apart field (List.mem_cons_of_mem _ member)) others
      refine ⟨rest, finished, fun part' value' made' => ?_⟩
      rw [fill, fieldApart.on_store made', taken₁]
      exact again part' value' made'

/-- An item is exchanged at the place of its field. -/
theorem exists_of_fill_at {before behind : List (Field δ)}
    (apart : ∀ field ∈ behind, (Field.ofSlot name slot read store).Apart field) {front back : List Tree} {part : Tree}
    (here : front.length = before.length) {draft : δ} {result : α}
    (all : shape.fill limit (before ++ .ofSlot name slot read store :: behind) (front ++ part :: back) draft =
      some result) :
    ∃ rest value, read.on limit part = some value ∧ (shape.finish (store rest value)).toOption = some result ∧
      ∀ part' value', read.on limit part' = some value' →
        shape.fill limit (before ++ .ofSlot name slot read store :: behind) (front ++ part' :: back) draft =
          (shape.finish (store rest value')).toOption := by
  induction before generalizing front draft with
  | nil =>
    obtain rfl := List.length_eq_zero_iff.mp here
    obtain ⟨next, taken, others⟩ := Option.bind_eq_some_iff.mp all
    rw [Field.on_ofSlot] at taken
    obtain ⟨value, made, rfl⟩ := Option.map_eq_some_iff.mp taken
    obtain ⟨rest, finished, again⟩ := exists_of_fill_store apart made others
    refine ⟨rest, value, made, finished, fun part' value' made' => ?_⟩
    rw [List.nil_append, List.nil_append, fill, Field.on_ofSlot, made']
    exact again part' value' made'
  | cons field before ih =>
    cases front with
    | nil => cases here
    | cons item front =>
      obtain ⟨next, taken, others⟩ := Option.bind_eq_some_iff.mp all
      obtain ⟨rest, value, made, finished, again⟩ := ih (Nat.succ.inj here) others
      refine ⟨rest, value, made, finished, fun part' value' made' => ?_⟩
      rw [List.cons_append, List.cons_append, fill, taken]
      exact again part' value' made'

/-- A record that can be read is read as before, but for one part, if this part is exchanged for another that can be
read; `get` and `put` say where the part is in the result. -/
def RenewsAt (shape : Shape δ α) (name : String) (place : Nat) (read : Reader β) (get : α → β) (put : α → β → α) :
    Prop :=
  ∀ differ tree tree', DiffersAt name place differ tree tree' →
    ∀ limit result, Reader.on shape.read limit tree = some result →
      ∃ part part', differ part part' ∧ read.on (limit - 1) part = some (get result) ∧
        ∀ value', read.on (limit - 1) part' = some value' →
          Reader.on shape.read limit tree' = some (put result value')

/-- **A record in which one part is renewed is read as before, but for this part**, if its fields have nothing to do
with each other. -/
theorem renewsAt (placeFree : shape.PlaceFree) (apart : shape.fields.Pairwise Field.Apart)
    {before behind : List (Field δ)} (isField : shape.fields = before ++ .ofSlot name slot read store :: behind)
    (notBefore : ∀ field ∈ before, field.name ≠ name) (stores : ∀ draft value, slot (store draft value) = some value)
    {get : α → β} {put : α → β → α}
    (finishes : ∀ draft value result, shape.finish (store draft value) = .ok result →
      get result = value ∧ ∀ value', shape.finish (store draft value') = .ok (put result value')) :
    shape.RenewsAt name before.length read get put := by
  intro differ tree tree' differs limit result made
  have finish {rest : δ} {value : β} (finished : (shape.finish (store rest value)).toOption = some result) :
      get result = value ∧ ∀ value', (shape.finish (store rest value')).toOption = some (put result value') := by
    obtain ⟨held, again⟩ := finishes rest value result (toOption_eq_some_iff.mp finished)
    exact ⟨held, fun value' => toOption_eq_some_iff.mpr (again value')⟩
  have others : ∀ field ∈ shape.fields, field.name ≠ name → (Field.ofSlot name slot read store).Apart field := by
    intro field member unlike
    have own : Field.ofSlot name slot read store ∈ shape.fields := by simp [isField]
    exact apart.forall own member fun same => unlike (same ▸ rfl)
  cases differs with
  | @member front back part part' inside =>
    have found : shape.fields.find? (·.name == name) = some (.ofSlot name slot read store) := by
      have notFound : before.find? (·.name == name) = none :=
        List.find?_eq_none.mpr fun field member same => notBefore field member (beq_iff_eq.mp same)
      rw [isField, List.find?_append, notFound, Option.none_or]
      exact List.find?_cons_of_pos (by simp [Field.ofSlot])
    rw [on_read_object placeFree] at made
    split at made
    · cases made
    · rename_i deep
      obtain ⟨draft, all, finished⟩ := Option.bind_eq_some_iff.mp made
      rw [List.foldlM_append] at all
      obtain ⟨draft₁, ahead, all⟩ := Option.bind_eq_some_iff.mp all
      rw [List.foldlM_cons] at all
      obtain ⟨draft₂, added, all⟩ := Option.bind_eq_some_iff.mp all
      rw [add_known found] at added
      split at added
      · cases added
      · rename_i unset
        rw [Field.on_ofSlot] at added
        obtain ⟨value, isValue, rfl⟩ := Option.map_eq_some_iff.mp added
        obtain ⟨rest, rfl, again⟩ := exists_of_foldlM_add_store found others stores isValue all
        obtain ⟨held, renewed⟩ := finish finished
        refine ⟨part, part', inside, held ▸ isValue, fun value' isValue' => ?_⟩
        rw [on_read_object placeFree, if_neg deep, List.foldlM_append, ahead]
        show ((shape.add (limit - 1) draft₁ (some name, part') >>= fun draft => back.foldlM _ draft).bind _) = _
        rw [add_known found, if_neg unset, Field.on_ofSlot, isValue']
        show ((back.foldlM (shape.add (limit - 1)) (store draft₁ value')).bind _) = _
        rw [again part' value' isValue']
        exact renewed value'
  | @item front back part part' here inside =>
    rw [on_read_list placeFree, isField] at made
    split at made
    · cases made
    · rename_i deep
      have behindApart : ∀ field ∈ behind, (Field.ofSlot name slot read store).Apart field := by
        rw [isField] at apart
        exact (List.pairwise_cons.mp (List.pairwise_append.mp apart).2.1).1
      obtain ⟨rest, value, isValue, finished, again⟩ := exists_of_fill_at behindApart here made
      obtain ⟨held, renewed⟩ := finish finished
      refine ⟨part, part', inside, held ▸ isValue, fun value' isValue' => ?_⟩
      rw [on_read_list placeFree, isField, if_neg deep, again part' value' isValue']
      exact renewed value'

/-- What a record holds of a part is what is made of it. -/
theorem RenewsAt.on_part {get : α → β} {put : α → β → α} {place : Nat}
    (renews : shape.RenewsAt name place read get put) {tree part : Tree} (isPart : tree.part? name place = some part)
    {result : α} (made : Reader.on shape.read limit tree = some result) :
    read.on (limit - 1) part = some (get result) := by
  obtain ⟨_, _, rfl, held, -⟩ := renews _ _ _ (DiffersAt.of_part? isPart) _ _ made
  exact held

end Shape

end Renewing

end SecretSource.Json

/-! ### Times that are told about a version -/

namespace SecretSource.Vault

open SecretSource.Json
open SecretSource.Provider (exists_metadata_of_on_read exists_payload_of_on_read)
open SecretSource.Time (Instant readLenient readStrict)
open SecretSource.Unicode (trimBlank)

theorem on_readCreatedTime_text (limit : Nat) (text : String) :
    readCreatedTime.on limit (.text (some text)) = (readLenient text).toOption := by
  unfold readCreatedTime
  rw [on_readChecked_text, toOption_mapError]

/-- A text tells the time of a deletion without white space at its ends, and nothing else tells none. -/
theorem on_readDeletionTime_text (limit : Nat) (text : String) :
    readDeletionTime.on limit (.text (some text)) =
      if trimBlank text = "" then some none else (readStrict (trimBlank text)).toOption.map some := by
  have given : readOptional readString limit (Tree.text (some text)).node = .ok (some text) := rfl
  unfold Reader.on readDeletionTime
  rw [given]
  dsimp only [Option.map, bind, Except.bind]
  split
  · rename_i none
    cases none
  · rename_i empty
    rw [if_pos (Option.some.inj empty)]
    rfl
  · rename_i other same
    cases same
    rw [if_neg other]
    cases readStrict (trimBlank text) <;> rfl

/-! ### Renewing a time -/

theorem VersionPayload.renewsAt_created : VersionPayload.shape.RenewsAt "created_time" 0 readCreatedTime (·.createdTime)
    fun told value => { told with createdTime := value } := by
  have isField : VersionPayload.shape.fields = [] ++
      .ofSlot "created_time" (·.createdTime) readCreatedTime
        (fun draft value => { draft with createdTime := some value }) :: VersionPayload.shape.fields.drop 1 := rfl
  refine Shape.renewsAt shape_placeFree shape_apart isField nofun (fun _ _ => rfl) fun draft value result finished => ?_
  obtain ⟨_, deletionTime, destroyed, version, customMetadata⟩ := draft
  cases version <;> cases finished
  exact ⟨rfl, fun _ => rfl⟩

theorem VersionPayload.renewsAt_deleted : VersionPayload.shape.RenewsAt "deletion_time" 1 readDeletionTime
    (·.deletionTime) fun told value => { told with deletionTime := value } := by
  have isField : VersionPayload.shape.fields = VersionPayload.shape.fields.take 1 ++
      .ofSlot "deletion_time" (·.deletionTime) readDeletionTime
        (fun draft value => { draft with deletionTime := some value }) :: VersionPayload.shape.fields.drop 2 := rfl
  refine Shape.renewsAt shape_placeFree shape_apart isField (by decide) (fun _ _ => rfl)
    fun draft value result finished => ?_
  obtain ⟨createdTime, _, destroyed, version, customMetadata⟩ := draft
  cases createdTime <;> cases version <;> cases finished
  exact ⟨rfl, fun _ => rfl⟩

theorem SecretPayload.renewsAt_metadata : SecretPayload.shape.RenewsAt "metadata" 1 VersionPayload.shape.read
    (·.metadata) fun payload value => { payload with metadata := value } := by
  have isField : SecretPayload.shape.fields = SecretPayload.shape.fields.take 1 ++
      .ofSlot "metadata" (·.metadata) VersionPayload.shape.read
        (fun draft value => { draft with metadata := some value }) :: SecretPayload.shape.fields.drop 2 := rfl
  refine Shape.renewsAt shape_placeFree shape_apart isField (by decide) (fun _ _ => rfl)
    fun draft value result finished => ?_
  cases finished
  exact ⟨rfl, fun _ => rfl⟩

theorem SecretBody.renewsAt_data : SecretBody.shape.RenewsAt "data" 0 SecretPayload.shape.read (·.data)
    fun body value => { body with data := value } := by
  have isField : SecretBody.shape.fields = [] ++
      .ofSlot "data" (·.data) SecretPayload.shape.read
        (fun draft value => { draft with data := some value }) :: SecretBody.shape.fields.drop 1 := rfl
  refine Shape.renewsAt shape_placeFree shape_apart isField nofun (fun _ _ => rfl) fun draft value result finished => ?_
  cases finished
  exact ⟨rfl, fun _ => rfl⟩

/-- Two bodies of a read are the same but for one time that is told about the version: the second one tells it by a
text. -/
def RetoldAs (name : String) (place : Nat) (text body body' : String) : Prop :=
  ∃ tree tree', SpellsDocument tree body ∧ SpellsDocument tree' body' ∧
    DiffersAt "data" 0 (DiffersAt "metadata" 1 (DiffersAt name place fun _ part' => part' = .text (some text)))
      tree tree'

/-- **A body with another time is read as before but for this time**, if the time can be read. -/
theorem ofText_of_retoldAs {β : Type} {name : String} {place : Nat} {read : Reader β} {get : VersionPayload → β}
    {put : VersionPayload → β → VersionPayload} (renews : VersionPayload.shape.RenewsAt name place read get put)
    {text body body' : String} {parsed : SecretBody} (reads : SecretBody.ofText body = .ok parsed)
    (retold : RetoldAs name place text body body') {value : β}
    (isValue : ∀ limit, read.on limit (.text (some text)) = some value) :
    SecretBody.ofText body' = .ok { parsed with data.metadata := put parsed.data.metadata value } := by
  obtain ⟨tree, tree', spells, spells', differs⟩ := retold
  have made : (SecretBody.ofText body).toOption = _ := Shape.toOption_ofText SecretBody.shape_placeFree spells
  have made' : (SecretBody.ofText body').toOption = _ := Shape.toOption_ofText SecretBody.shape_placeFree spells'
  rw [reads] at made
  obtain ⟨payload, payload', inPayload, isPayload, withPayload⟩ := SecretBody.renewsAt_data _ _ _ differs _ _ made.symm
  obtain ⟨told, told', inTold, isTold, withTold⟩ := SecretPayload.renewsAt_metadata _ _ _ inPayload _ _ isPayload
  obtain ⟨part, part', rfl, -, withPart⟩ := renews _ _ _ inTold _ _ isTold
  rw [← toOption_eq_some_iff, made']
  exact withPayload _ (withTold _ (withPart value (isValue _)))

/-! ### The texts of times -/

/-- What a body tells as one of the times of a version. -/
def toldTime? (name : String) (place : Nat) (tree : Tree) : Option Tree :=
  ((tree.part? "data" 0).bind (·.part? "metadata" 1)).bind (·.part? name place)

/-- A body tells one of the times of a version by a text. -/
def TellsBy (name : String) (place : Nat) (text body : String) : Prop :=
  ∃ tree, SpellsDocument tree body ∧ toldTime? name place tree = some (.text (some text))

/-- What is read of a body is made of the part for what is told about the version. -/
theorem exists_told_of_tellsBy {name text body : String} {place : Nat} {parsed : SecretBody}
    (reads : SecretBody.ofText body = .ok parsed) (tells : TellsBy name place text body) :
    ∃ limit tree, tree.part? name place = some (.text (some text)) ∧
      Reader.on VersionPayload.shape.read limit tree = some parsed.data.metadata := by
  obtain ⟨tree, spells, told⟩ := tells
  obtain ⟨tree', spells', made⟩ := Shape.exists_spellsDocument SecretBody.shape_placeFree reads
  rw [spells'.unique spells] at made
  obtain ⟨part, isPart, madePart⟩ := exists_payload_of_on_read made
  obtain ⟨inner, isInner, madeInner⟩ := exists_metadata_of_on_read madePart
  rw [toldTime?, isPart, Option.bind_some, isInner, Option.bind_some] at told
  exact ⟨_, inner, told, madeInner⟩

/-- The time when a version was made is the one that is read of its text. -/
theorem readLenient_of_tellsBy {text body : String} {parsed : SecretBody} (reads : SecretBody.ofText body = .ok parsed)
    (tells : TellsBy "created_time" 0 text body) : readLenient text = .ok parsed.data.metadata.createdTime := by
  obtain ⟨limit, tree, told, made⟩ := exists_told_of_tellsBy reads tells
  have isTime := VersionPayload.renewsAt_created.on_part told made
  rw [on_readCreatedTime_text] at isTime
  exact toOption_eq_some_iff.mp isTime

/-- The time when a version was deleted is the one that is read of its text, and there is none if this is blank. -/
theorem deletionTime_of_tellsBy {text body : String} {parsed : SecretBody} (reads : SecretBody.ofText body = .ok parsed)
    (tells : TellsBy "deletion_time" 1 text body) :
    trimBlank text = "" ∧ parsed.data.metadata.deletionTime = none ∨
      ∃ instant, readStrict (trimBlank text) = .ok instant ∧ parsed.data.metadata.deletionTime = some instant := by
  obtain ⟨limit, tree, told, made⟩ := exists_told_of_tellsBy reads tells
  have isTime := VersionPayload.renewsAt_deleted.on_part told made
  rw [on_readDeletionTime_text] at isTime
  split at isTime
  · rename_i blank
    exact Or.inl ⟨blank, (Option.some.inj isTime).symm⟩
  · obtain ⟨instant, isInstant, same⟩ := Option.map_eq_some_iff.mp isTime
    exact Or.inr ⟨instant, toOption_eq_some_iff.mp isInstant, same.symm⟩

end SecretSource.Vault
