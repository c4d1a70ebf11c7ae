/-
**Reading typed values out of a JSON tree.**

A reader takes the depth that brackets may still have and a tree, and gives a value or a refusal. Most
refusals are faults with a place of their own; a problem without a place is put where the record around
the value is left. Records are read from an object, where unknown names are passed over, or from the
list of their fields in order.
-/

import SecretSource.Json.Value

namespace SecretSource.Json

/-- Why a value is refused: a fault, or a problem whose place the record around it decides. -/
inductive Refusal where
  | placed (fault : Fault)
  | unplaced (problem : Problem)

/-- The fault that a refusal becomes at a place. -/
def Refusal.settle (place : Place) : Refusal → Fault
  | .placed fault => fault
  | .unplaced problem => ⟨problem, place⟩

/-- A reader of one kind of value. -/
abbrev Reader (α : Type) := (limit : Nat) → Node → Except Refusal α

/-- Refuses with a fault. -/
def refuse (fault : Fault) : Except Refusal α := .error (.placed fault)

/-- The fault of a value that is not of the expected kind. -/
def mismatch (expected : String) : Node → Fault
  | .null stop => ⟨.invalidType .null expected, stop⟩
  | .truth value stop => ⟨.invalidType (.truth value) expected, stop⟩
  | .number (.ok value) stop => ⟨.invalidType (.number value) expected, stop⟩
  | .number (.error fault) _ => fault
  | .text (.ok value) stop => ⟨.invalidType (.text value) expected, stop⟩
  | .text (.error fault) _ => fault
  | .list start _ => ⟨.invalidType .sequence expected, start⟩
  | .object start _ => ⟨.invalidType .map expected, start⟩
  | .broken stop => stop.reading

mutual

/-- Passes a value of any kind; texts and numbers are not looked into. -/
def Node.skip : Node → Except Fault Unit
  | .null _ => .ok ()
  | .truth _ _ => .ok ()
  | .number _ _ => .ok ()
  | .text _ _ => .ok ()
  | .list _ items => items.skip
  | .object _ members => members.skip
  | .broken stop => .error stop.skipping

/-- Passes the values of a list. -/
def Items.skip : Items → Except Fault Unit
  | .closed _ => .ok ()
  | .broken stop => .error stop.skipping
  | .more value _ rest => do value.skip; rest.skip

/-- Passes the members of an object. -/
def Members.skip : Members → Except Fault Unit
  | .closed _ => .ok ()
  | .broken stop => .error stop.skipping
  | .more _ _ value _ rest => do value.skip; rest.skip

end

/-- Reads a text that a further check must accept; its refusal stands behind the text. -/
def readChecked (expected : String) (check : String → Except Problem α) : Reader α
  | _, .text (.ok text) stop =>
    match check text with
    | .ok value => .ok value
    | .error problem => refuse ⟨problem, stop⟩
  | _, node => refuse (mismatch expected node)

/-- Reads a text. -/
def readString : Reader String :=
  readChecked "a string" .ok

/-- Reads a truth value. -/
def readFlag : Reader Bool
  | _, .truth value _ => .ok value
  | _, node => refuse (mismatch "a boolean" node)

/-- Reads a natural number of 64 bits. -/
def readNatural : Reader Nat
  | _, .number (.ok (.integer value)) stop =>
    if 0 ≤ value then .ok value.toNat
    else refuse ⟨.invalidValue (.number (.integer value)) "u64", stop⟩
  | _, node => refuse (mismatch "u64" node)

/-- Reads any value. -/
def readAny : Reader Value := fun limit node => (node.value limit).mapError .placed

/-- Reads a value that may be null. -/
def readOptional (read : Reader α) : Reader (Option α)
  | _, .null _ => .ok none
  | limit, node => (read limit node).map some

/-- Reads the values of a list. -/
def readEach (read : Reader α) (limit : Nat) : Items → Except Refusal (List α)
  | .closed _ => .ok []
  | .broken stop => refuse stop.reading
  | .more value leave rest => do
    let first ← (read limit value).mapError fun refusal => .placed (refusal.settle leave)
    let others ← readEach read limit rest
    pure (first :: others)

/-- Reads a list. -/
def readList (read : Reader α) : Reader (List α)
  | limit, .list start items =>
    if limit ≤ 1 then refuse ⟨.tooDeep, start.next⟩ else readEach read (limit - 1) items
  | _, node => refuse (mismatch "a sequence" node)

/-- Reads members into a table; of two members with one name the last one counts. -/
def readRows (read : Reader α) (limit : Nat) (done : Table α) :
    Members → Except Refusal (Table α)
  | .closed _ => .ok done
  | .broken stop => refuse stop.reading
  | .more name _ value leave rest => do
    let name ← name.mapError .placed
    let value ← (read limit value).mapError fun refusal => .placed (refusal.settle leave)
    readRows read limit (done.insert name value) rest

/-- Reads an object as a table. -/
def readTable (read : Reader α) : Reader (Table α)
  | limit, .object start members =>
    if limit ≤ 1 then refuse ⟨.tooDeep, start.next⟩ else readRows read (limit - 1) ∅ members
  | _, node => refuse (mismatch "a map" node)

/-- A field of a record whose parts are gathered in a draft: its name, whether the draft has it, and its
reader, which adds it to the draft. -/
structure Field (δ : Type) where
  name : String
  isSet : δ → Bool
  read : (limit : Nat) → Node → δ → Except Refusal δ

/-- A field that `store` puts into the draft. -/
def Field.ofSlot (name : String) (slot : δ → Option α) (read : Reader α) (store : δ → α → δ) :
    Field δ where
  name := name
  isSet draft := (slot draft).isSome
  read limit node draft := (read limit node).map (store draft)

/-- How a record is read: its name in messages, its fields in order, the draft without any of them, and
the record of a draft, or the position of the first field that is missing and may not be. -/
structure Shape (δ α : Type) where
  title : String
  fields : List (Field δ)
  blank : δ
  finish : δ → Except Nat α

namespace Shape

variable {δ α : Type} (shape : Shape δ α)

/-- Reads the fields from the members of an object. -/
def fromMembers (limit : Nat) (draft : δ) : Members → Except Fault α
  | .closed stop =>
    match shape.finish draft with
    | .ok value => .ok value
    | .error index =>
      .error ⟨.missingField ((shape.fields[index]?.map (·.name)).getD ""), stop⟩
  | .broken stop => .error stop.reading
  | .more name leaveName value leave rest => do
    let name ← name
    match shape.fields.find? (·.name == name) with
    | none =>
      value.skip
      fromMembers limit draft rest
    | some field =>
      if field.isSet draft then .error ⟨.duplicateField name, leaveName⟩
      else
        let draft ← (field.read limit value draft).mapError (·.settle leave)
        fromMembers limit draft rest

/-- What a list of all fields is called. -/
def fullTitle : String :=
  let count := shape.fields.length
  "struct " ++ shape.title ++ " with " ++ toString count
    ++ (if count = 1 then " element" else " elements")

/-- Reads the fields from the items of a list; `behind` is where the item before would be left. -/
def fromItems (limit : Nat) (behind : Place) (draft : δ) :
    List (Field δ) → Items → Except Fault α
  | _, .closed stop =>
    match shape.finish draft with
    | .ok value => .ok value
    | .error index => .error ⟨.invalidLength index shape.fullTitle, stop⟩
  | [], .broken stop => .error stop.leaving
  | [], .more _ _ _ => .error ⟨.trailingCharacters, behind.next⟩
  | _ :: _, .broken stop => .error stop.reading
  | field :: fields, .more value leave rest => do
    let draft ← (field.read limit value draft).mapError (·.settle leave)
    fromItems limit leave draft fields rest

/-- Reads a record. -/
def read : Reader α
  | limit, .object start members =>
    if limit ≤ 1 then refuse ⟨.tooDeep, start.next⟩
    else (shape.fromMembers (limit - 1) shape.blank members).mapError .placed
  | limit, .list start items =>
    if limit ≤ 1 then refuse ⟨.tooDeep, start.next⟩
    else (shape.fromItems (limit - 1) start shape.blank shape.fields items).mapError .placed
  | _, node => refuse (mismatch ("struct " ++ shape.title) node)

/-- Reads a whole text as a record. -/
def ofText (text : String) : Except Fault α :=
  Document.decode
    (fun node => (shape.read depthLimit node).mapError (·.settle .start)) text

end Shape

end SecretSource.Json
