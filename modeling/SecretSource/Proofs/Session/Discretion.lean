/-
**The values of a secret show nowhere but in the data of the state.**

Two bodies of a read that differ only in the values of the secret, not in their names, are read as secrets that
differ in nothing else, of whatever kind and size the values are. So whether there is a state, what is reported
and what is sent does not depend on the values, and log lines of states are the same.

* `Json.DiffersAt`, `OnlyValuesDiffer`: bodies that differ only in the values of the secret.
* `sameButValues_of_onlyValuesDiffer`: what is read of two such bodies.
* `ReadsAlike`, `Client.read_alike`: two reads that are answered by such bodies.
* `SecretState.SameButValues`, `SecretState.SameButValues.logText_eq`: states that differ only in known data.
* `readState_discreet`: two reads of a state.
-/

import SecretSource.Proofs.Session.Filling
import SecretSource.Proofs.Vault.Classifying

/-! ### Trees that differ in one part -/

namespace SecretSource.Json

/-- Two trees of a record are the same but for one part of it, in which they differ in a given way. -/
inductive DiffersAt (name : String) (place : Nat) (differ : Tree → Tree → Prop) : Tree → Tree → Prop where
  | member (before behind : List (Option String × Tree)) {part part' : Tree} (inside : differ part part') :
      DiffersAt name place differ (.object (before ++ (some name, part) :: behind))
        (.object (before ++ (some name, part') :: behind))
  | item (before behind : List Tree) {part part' : Tree} (here : before.length = place)
      (inside : differ part part') :
      DiffersAt name place differ (.list (before ++ part :: behind)) (.list (before ++ part' :: behind))

namespace DiffersAt

variable {name : String} {place : Nat} {differ : Tree → Tree → Prop} {tree tree' : Tree}

/-- Other parts are the same. -/
theorem part?_of_ne (differs : DiffersAt name place differ tree tree') {other : String} {place' : Nat}
    (otherName : other ≠ name) (otherPlace : place' ≠ place) :
    tree.part? other place' = tree'.part? other place' := by
  cases differs with
  | member before behind =>
    have notHere : some name ≠ some other := fun same => otherName (Option.some.inj same).symm
    simp only [Tree.part?, lastMember?_append, lastMember?_cons, if_neg notHere]
  | item before behind here =>
    simp only [Tree.part?, List.getElem?_append, List.getElem?_cons]
    split
    · rfl
    · rw [if_neg (by omega), if_neg (by omega)]

/-- The part is the same, or differs in that way. -/
theorem part?_cases (differs : DiffersAt name place differ tree tree') :
    tree.part? name place = tree'.part? name place ∨
      ∃ part part', tree.part? name place = some part ∧ tree'.part? name place = some part' ∧
        differ part part' := by
  cases differs with
  | @member before behind part part' inside =>
    simp only [Tree.part?, lastMember?_append, lastMember?_cons]
    cases lastMember? behind name with
    | some last => exact Or.inl rfl
    | none => exact Or.inr ⟨part, part', rfl, rfl, inside⟩
  | @item before behind part part' here inside =>
    subst here
    exact Or.inr ⟨part, part', by simp [Tree.part?], by simp [Tree.part?], inside⟩

end DiffersAt

/-- Two objects have the same names. -/
inductive SameNames : Tree → Tree → Prop where
  | object {rows rows' : List (Option String × Tree)}
      (names : ∀ name, name ∈ rows.map Prod.fst ↔ name ∈ rows'.map Prod.fst) :
      SameNames (.object rows) (.object rows')

end SecretSource.Json

/-! ### Payloads and bodies -/

namespace SecretSource.Vault

open SecretSource.Http (Delivery Reply isSuccess)
open SecretSource.Json
open SecretSource.Provider (exists_metadata_of_on_read exists_payload_of_on_read values_of_on_read)

/-- Two versions of a secret differ in nothing but their values. -/
structure SecretPayload.SameButValues (first second : SecretPayload) : Prop where
  metadata : first.metadata = second.metadata
  names : (first.values.getD ∅).names = (second.values.getD ∅).names

/-- Two bodies of a read differ in nothing but the values of the secret, and have the same names for these. -/
def OnlyValuesDiffer (body body' : String) : Prop :=
  ∃ tree tree', SpellsDocument tree body ∧ SpellsDocument tree' body' ∧
    (tree = tree' ∨ DiffersAt "data" 0 (DiffersAt "data" 0 SameNames) tree tree')

theorem SecretPayload.SameButValues.refl (payload : SecretPayload) : payload.SameButValues payload := ⟨rfl, rfl⟩

theorem SecretPayload.SameButValues.isRemoved_iff {first second : SecretPayload}
    (same : first.SameButValues second) : first.IsRemoved ↔ second.IsRemoved := by
  unfold SecretPayload.IsRemoved
  rw [same.metadata]

/-- The values of a version have the names of its members. -/
theorem isSome_find?_values {tree : Tree} {limit : Nat} {payload : SecretPayload}
    (made : Reader.on SecretPayload.shape.read limit tree = some payload) (name : String) :
    ((payload.values.getD ∅).find? name).isSome = true ↔
      ∃ rows, tree.part? "data" 0 = some (.object rows) ∧ some name ∈ rows.map Prod.fst := by
  rcases values_of_on_read made with ⟨nothing, none⟩ | ⟨rows, table, isObject, some, all⟩
  · rw [none]
    refine iff_of_false nofun ?_
    rintro ⟨rows, isObject, -⟩
    rcases nothing with nothing | nothing <;> cases nothing.symm.trans isObject
  · rw [some, isObject]
    refine (isSome_find?_of_foldlM_addRow all name).trans ⟨fun inside => ⟨rows, rfl, inside⟩, ?_⟩
    rintro ⟨rows, ⟨⟩, inside⟩
    exact inside

/-- What is read of two versions that differ in nothing but their values. -/
theorem SecretPayload.sameButValues_of_differsAt {tree tree' : Tree}
    (differs : DiffersAt "data" 0 SameNames tree tree') {limit : Nat} {payload payload' : SecretPayload}
    (made : Reader.on SecretPayload.shape.read limit tree = some payload)
    (made' : Reader.on SecretPayload.shape.read limit tree' = some payload') :
    payload.SameButValues payload' := by
  refine ⟨?_, Table.names_eq_of_find? fun name => ?_⟩
  · obtain ⟨part, isPart, told⟩ := exists_metadata_of_on_read made
    obtain ⟨part', isPart', told'⟩ := exists_metadata_of_on_read made'
    rw [differs.part?_of_ne (by decide) (by decide), isPart'] at isPart
    cases isPart
    exact Option.some.inj (told.symm.trans told')
  · rw [Bool.eq_iff_iff, isSome_find?_values made, isSome_find?_values made']
    rcases differs.part?_cases with same | ⟨part, part', isPart, isPart', ⟨names⟩⟩
    · rw [same]
    · rw [isPart, isPart']
      constructor
      · rintro ⟨rows, ⟨⟩, inside⟩
        exact ⟨_, rfl, (names _).mp inside⟩
      · rintro ⟨rows, ⟨⟩, inside⟩
        exact ⟨_, rfl, (names _).mpr inside⟩

/-- **What is read of two bodies that differ only in the values of the secret.** -/
theorem sameButValues_of_onlyValuesDiffer {body body' : String} (differ : OnlyValuesDiffer body body')
    {parsed parsed' : SecretBody} (reads : SecretBody.ofText body = .ok parsed)
    (reads' : SecretBody.ofText body' = .ok parsed') : parsed.data.SameButValues parsed'.data := by
  obtain ⟨tree, tree', spells, spells', differ⟩ := differ
  obtain ⟨spelled, again, made⟩ := Shape.exists_spellsDocument SecretBody.shape_placeFree reads
  obtain ⟨spelled', again', made'⟩ := Shape.exists_spellsDocument SecretBody.shape_placeFree reads'
  rw [again.unique spells] at made
  rw [again'.unique spells'] at made'
  obtain ⟨part, isPart, made⟩ := exists_payload_of_on_read made
  obtain ⟨part', isPart', made'⟩ := exists_payload_of_on_read made'
  have same (sameParts : tree.part? "data" 0 = tree'.part? "data" 0) :
      parsed.data.SameButValues parsed'.data := by
    rw [isPart, isPart'] at sameParts
    cases sameParts
    rw [Option.some.inj (made.symm.trans made')]
    exact .refl _
  -- Either the part for the version is the same, or it differs in its own part for the values.
  rcases differ with rfl | differs
  · exact same rfl
  · rcases differs.part?_cases with sameParts | ⟨inner, inner', isInner, isInner', inside⟩
    · exact same sameParts
    · cases isInner.symm.trans isPart
      cases isInner'.symm.trans isPart'
      exact SecretPayload.sameButValues_of_differsAt inside made made'

/-! ### Secrets and reads -/

/-- Two secrets differ in nothing but their values. -/
structure Secret.SameButValues (first second : Secret) : Prop where
  others : { first with data := second.data } = second
  names : first.data.names = second.data.names

theorem SecretPayload.SameButValues.ofPayload {first second : SecretPayload} (same : first.SameButValues second)
    (path : String) : (Secret.ofPayload path first).SameButValues (.ofPayload path second) where
  others := by
    unfold Secret.ofPayload
    rw [same.metadata]
  names := by
    unfold Secret.ofPayload
    rw [Table.names_map, Table.names_map, same.names]

/-- Two replies have the same status, which tells of a secret or of none, and bodies that are read and differ only
in the values of the secret. -/
structure RepliesAlike (reply reply' : Reply) : Prop where
  status : reply.status = reply'.status
  tells : isSuccess reply.status = true ∨ reply.status = 404
  bodies : ∃ body body' parsed parsed', reply.text? = some body ∧ reply'.text? = some body' ∧
    SecretBody.ofText body = .ok parsed ∧ SecretBody.ofText body' = .ok parsed' ∧ OnlyValuesDiffer body body'

/-- Two reads fail in the same way, or read secrets that differ in nothing but their values. -/
inductive ReadsAlike : Except Failure Secret → Except Failure Secret → Prop where
  | failed (failure : Failure) : ReadsAlike (.error failure) (.error failure)
  | told {secret secret' : Secret} (same : secret.SameButValues secret') : ReadsAlike (.ok secret) (.ok secret')

theorem ReadsAlike.refl (result : Except Failure Secret) : ReadsAlike result result := by
  cases result with
  | error failure => exact .failed failure
  | ok secret => exact .told ⟨rfl, rfl⟩

/-- Replies of one status tell of such secrets, or both that there is none. -/
theorem secretOfReply_alike {body body' : String} {parsed parsed' : SecretBody}
    (differ : OnlyValuesDiffer body body') (reads : SecretBody.ofText body = .ok parsed)
    (reads' : SecretBody.ofText body' = .ok parsed') (path : String) {status : Nat}
    (tells : isSuccess status = true ∨ status = 404) :
    ReadsAlike (secretOfReply path status body) (secretOfReply path status body') := by
  have same := sameButValues_of_onlyValuesDiffer differ reads reads'
  rcases tells with succeeds | rfl
  · rw [secretOfReply_eq_iff.mpr (.told succeeds reads), secretOfReply_eq_iff.mpr (.told succeeds reads')]
    exact .told (same.ofPayload path)
  · by_cases gone : parsed.data.IsRemoved
    · rw [secretOfReply_eq_iff.mpr (.removed rfl reads gone),
        secretOfReply_eq_iff.mpr (.removed rfl reads' (same.isRemoved_iff.mp gone))]
      exact .told (same.ofPayload path)
    · have notFound {body : String} {parsed : SecretBody} (reads : SecretBody.ofText body = .ok parsed)
          (kept : ¬ parsed.data.IsRemoved) : secretOfReply path 404 body = .error (.secretNotFound path) :=
        secretOfReply_eq_iff.mpr <| .failed .missing fun _ _ reads' => by
          cases reads.symm.trans reads'
          exact kept
      rw [notFound reads gone, notFound reads' (mt same.isRemoved_iff.mpr gone)]
      exact .failed _

/-- A client that gets two such replies sends the same requests. -/
theorem Client.read_alike (client : Client) (request : SecretRequest) {reply reply' : Reply}
    (alike : RepliesAlike reply reply') :
    (client.read request (.answered reply)).sent = (client.read request (.answered reply')).sent ∧
      ReadsAlike (client.read request (.answered reply)).result
        (client.read request (.answered reply')).result := by
  obtain ⟨sameStatus, tells, body, body', parsed, parsed', whole, whole', reads, reads', differ⟩ := alike
  rw [client.read_result, client.read_result]
  unfold replyTo read send
  dsimp only
  rcases Http.exchange_cases client.settings (client.secretAddress request)
    (client.headers request.namespaceName) with ⟨-, _, stopped⟩ | ⟨-, _, -, -, answered⟩
  · rw [stopped, stopped]
    exact ⟨rfl, .failed _⟩
  · rw [answered, answered]
    refine ⟨rfl, ?_⟩
    simp only [whole, whole', ← sameStatus]
    exact secretOfReply_alike differ reads reads' _ tells

end SecretSource.Vault

/-! ### States and log lines -/

namespace SecretSource.Provider

open SecretSource.Http (Reply)
open SecretSource.Json
open SecretSource.Text
open SecretSource.Vault

/-- Two states differ in nothing but their known data, which have the same names. -/
structure SecretState.SameButValues (first second : SecretState) : Prop where
  others : { first with data := second.data } = second
  names : first.data.map Table.names = second.data.map Table.names

namespace SecretState

/-- Log lines show of the data only their names. -/
theorem SameButValues.logText_eq {first second : SecretState} (same : first.SameButValues second) :
    first.logText = second.logText := by
  have shown (field : Attribute TextTable) : field.logText (fun table => Log.list (table.names.map quoted)) =
      (field.map Table.names).logText fun names => Log.list (names.map quoted) := by
    cases field <;> rfl
  rw [← same.others]
  unfold logText
  dsimp only
  rw [shown, shown, same.names]

/-- A state is filled in the same way but for the values of the secret. -/
theorem withSecret_sameButValues (state : SecretState) {secret secret' : Secret}
    (same : secret.SameButValues secret') :
    (state.withSecret secret).SameButValues (state.withSecret secret') where
  others := by
    rw [← same.others]
    rfl
  names := by
    show Attribute.known (Table.names _) = .known (Table.names _)
    rw [Table.names_map, Table.names_map, same.names]

end SecretState

/-- Whatever reader gets two such replies, it sends and asks for the same. -/
theorem SecretReader.read_alike (reader : SecretReader) (request : SecretRequest) {reply reply' : Reply}
    (alike : RepliesAlike reply reply') :
    (reader.read request (.answered reply)).sent = (reader.read request (.answered reply')).sent ∧
      (reader.read request (.answered reply)).asked = (reader.read request (.answered reply')).asked ∧
      ReadsAlike (reader.read request (.answered reply)).result
        (reader.read request (.answered reply')).result := by
  cases reader with
  | client vault =>
    obtain ⟨sent, alike⟩ := vault.read_alike request alike
    exact ⟨sent, rfl, alike⟩
  | custom answer => exact ⟨rfl, rfl, .refl _⟩

/-- Two reads of a state give the same but for the values of the secret, and their log lines are the same. -/
structure ReadOutcome.SameButValues (first second : ReadOutcome) : Prop where
  diagnostics : first.diagnostics = second.diagnostics
  sent : first.sent = second.sent
  asked : first.asked = second.asked
  state : first.state = none ∧ second.state = none ∨
    ∃ after after', first.state = some after ∧ second.state = some after' ∧ after.SameButValues after' ∧
      after.logText = after'.logText

/-- **The values of a secret show nowhere but in the data of the state.** Two reads that are answered with the
same status, and with bodies that differ only in the values of the secret, give the same but for these values; and
the log line of a state does not depend on the values. -/
theorem readState_discreet (slot : Slot) (state : SecretState) (diagnostics : Diagnostics) :
    (∀ reply reply', RepliesAlike reply reply' →
      (readState slot state (.answered reply) diagnostics).SameButValues
        (readState slot state (.answered reply') diagnostics)) ∧
    ∀ first second : SecretState, first.SameButValues second → first.logText = second.logText := by
  refine ⟨fun reply reply' alike => ?_, fun _ _ same => same.logText_eq⟩
  unfold readState
  cases buildRequest state with
  | error errors => exact ⟨rfl, rfl, rfl, Or.inl ⟨rfl, rfl⟩⟩
  | ok request =>
    cases slot.reader with
    | error failure => exact ⟨rfl, rfl, rfl, Or.inl ⟨rfl, rfl⟩⟩
    | ok reader =>
      obtain ⟨sent, asked, alike⟩ := reader.read_alike request alike
      dsimp only
      generalize (reader.read request (.answered reply)).result = result at alike ⊢
      generalize (reader.read request (.answered reply')).result = result' at alike ⊢
      cases alike with
      | failed failure => exact ⟨rfl, sent, asked, Or.inl ⟨rfl, rfl⟩⟩
      | told same =>
        have filled := state.withSecret_sameButValues same
        exact ⟨rfl, sent, asked, Or.inr ⟨_, _, rfl, rfl, filled, filled.logText_eq⟩⟩

/-- The body for a version that was destroyed, and whose values are told nevertheless. -/
def destroyedAnswer (values : String) : String :=
  "\x7b\"data\":\x7b\"data\":" ++ values ++ ",\"metadata\":\x7b\"destroyed\":true,"
    ++ "\"created_time\":\"2024-01-01T00:00:00Z\",\"version\":3\x7d\x7d\x7d"

/-- What it spells. -/
def destroyedTree (values : Tree) : Tree :=
  .object [(some "data", .object [(some "data", values), (some "metadata", .object [
    (some "destroyed", .truth true), (some "created_time", .text (some "2024-01-01T00:00:00Z")),
    (some "version", .number (some (.integer 3)))])])]

/-- The reply with it. -/
def destroyedReply (values : String) : Reply where
  status := 404
  body := Utf8.encode (destroyedAnswer values).toList

/-- A text and a number. -/
def plainValues : String := "\x7b\"password\":\"hunter2\",\"port\":5432\x7d"

/-- A list and null, under the same names. -/
def nestedValues : String := "\x7b\"port\":[true,\"a\"],\"password\":null\x7d"

theorem repliesAlike_destroyed : RepliesAlike (destroyedReply plainValues) (destroyedReply nestedValues) := by
  have spells : SpellsDocument (destroyedTree (.object [(some "password", .text (some "hunter2")),
      (some "port", .number (some (.integer 5432)))])) (destroyedAnswer plainValues) :=
    .of_root (by decide +kernel) (by decide +kernel)
  have spells' : SpellsDocument (destroyedTree (.object [(some "port", .list [.truth true, .text (some "a")]),
      (some "password", .null)])) (destroyedAnswer nestedValues) :=
    .of_root (by decide +kernel) (by decide +kernel)
  have differ : OnlyValuesDiffer (destroyedAnswer plainValues) (destroyedAnswer nestedValues) :=
    ⟨_, _, spells, spells',
      Or.inr (.member [] [] (.member [] _ (.object fun name => by simp [or_comm])))⟩
  have isRead : (SecretBody.ofText (destroyedAnswer plainValues)).toOption.isSome = true := by decide +kernel
  have isRead' : (SecretBody.ofText (destroyedAnswer nestedValues)).toOption.isSome = true := by decide +kernel
  obtain ⟨parsed, reads⟩ := Option.isSome_iff_exists.mp isRead
  obtain ⟨parsed', reads'⟩ := Option.isSome_iff_exists.mp isRead'
  rw [toOption_eq_some_iff] at reads reads'
  exact ⟨rfl, Or.inr rfl, _, _, parsed, parsed', by decide +kernel, by decide +kernel, reads, reads', differ⟩

/-- A number in one state, and a list in the other. -/
theorem readState_discreet_destroyed :
    let read (client : Client) (values : String) :=
      readState (some (.client client)) (.ofNames "kv" "app") (.answered (destroyedReply values)) {}
    ∃ client after after', RepliesAlike (destroyedReply plainValues) (destroyedReply nestedValues) ∧
      Client.make { address := "https://[::1]:8200", token := "t" } = .ok client ∧
      (read client plainValues).SameButValues (read client nestedValues) ∧
      (read client plainValues).state = some after ∧ (read client nestedValues).state = some after' ∧
      after.data.value?.bind (·.find? "port") = some (.known "5432") ∧
      after'.data.value?.bind (·.find? "port") = some (.known "[true,\"a\"]") ∧
      after.logText = after'.logText := by
  intro read
  have computed : (Client.make { address := "https://[::1]:8200", token := "t" }).toOption.bind (fun client =>
      (read client plainValues).state.bind fun after => (read client nestedValues).state.map fun after' =>
        (after.data.value?.bind (·.find? "port"), after'.data.value?.bind (·.find? "port"))) =
      some (some (.known "5432"), some (.known "[true,\"a\"]")) := by
    decide +kernel
  obtain ⟨client, made, computed⟩ := Option.bind_eq_some_iff.mp computed
  obtain ⟨after, given, computed⟩ := Option.bind_eq_some_iff.mp computed
  obtain ⟨after', given', computed⟩ := Option.map_eq_some_iff.mp computed
  obtain ⟨port, port'⟩ := Prod.mk.inj computed
  rw [toOption_eq_some_iff] at made
  obtain ⟨discreet, lines⟩ := readState_discreet (some (.client client)) (.ofNames "kv" "app") {}
  have same := discreet _ _ repliesAlike_destroyed
  rcases same.state with ⟨nothing, -⟩ | ⟨_, _, known, known', filled, -⟩
  · cases given.symm.trans nothing
  · cases given.symm.trans known
    cases given'.symm.trans known'
    exact ⟨client, after, after', repliesAlike_destroyed, made, same, given, given', port, port',
      lines _ _ filled⟩

end SecretSource.Provider
