/-
**The tree of a JSON text, with the places that messages speak of.**

`Document.ofText` reads a whole text into a tree once; reading stops at the first place where the text
is no JSON, and the tree ends in a break there. Readers of values walk the tree from the left and report
what they meet first, a break or a value of the wrong kind. What a break means depends on who meets it,
so it holds one fault for a reader, one for a reader that passes the value, and one for a record that
needs no more values.
-/

import SecretSource.Json.Literal
import SecretSource.Json.Numeral

namespace SecretSource.Json

/-- Where the text is no JSON, as told by a reader, by one that passes the value, and by a record that
has all its values. -/
structure Break where
  reading : Fault
  skipping : Fault
  leaving : Fault

/-- The same fault for all. -/
def Break.plain (fault : Fault) : Break := ⟨fault, fault, fault⟩

mutual

/-- A value with the place behind it, or the place before it if it is opened by a bracket. -/
inductive Node where
  | null (stop : Place)
  | truth (value : Bool) (stop : Place)
  | number (value : Except Fault Number) (stop : Place)
  | text (value : Except Fault String) (stop : Place)
  | list (start : Place) (items : Items)
  | object (start : Place) (members : Members)
  | broken (stop : Break)

/-- The values of a list. A problem with a value that names no place of its own is put at `leave`. -/
inductive Items where
  | closed (stop : Place)
  | broken (stop : Break)
  | more (value : Node) (leave : Place) (rest : Items)

/-- The members of an object. A problem with a name is put at `leaveName`, one with a value that names
no place of its own at `leave`. -/
inductive Members where
  | closed (stop : Place)
  | broken (stop : Break)
  | more (name : Except Fault String) (leaveName : Place) (value : Node) (leave : Place)
      (rest : Members)

end

/-- A value that is a break. -/
def stuck (stop : Break) : Node × Except Break Cursor := (.broken stop, .error stop)

/-- Reads the rest of a word whose first letter has been passed. -/
def readWord (cursor : Cursor) : List Char → Except Fault Cursor
  | [] => .ok cursor
  | letter :: word =>
    match cursor.rest with
    | [] => .error (cursor.fault .endInValue)
    | found :: rest =>
      if found = letter then readWord (step cursor rest) word
      else .error (cursor.faultAhead .expectedWord)

/-- A word of the language and what it stands for. -/
def wordNode (cursor : Cursor) (word : List Char) (node : Place → Node) :
    Node × Except Break Cursor :=
  match readWord cursor word with
  | .ok next => (node next.place, .ok next)
  | .error fault => stuck (.plain fault)

/-- A text between quotation marks; the cursor is behind the first of them. -/
def textNode (cursor : Cursor) : Node × Except Break Cursor :=
  let reading := (readText cursor).map (·.1)
  match skipText cursor with
  | .ok next => (.text reading next.place, .ok next)
  | .error skipping =>
    let told := match reading with
      | .error fault => fault
      | .ok _ => skipping
    stuck ⟨told, skipping, told⟩

/-- A number. -/
def numberNode (cursor : Cursor) : Node × Except Break Cursor :=
  match readNumeral cursor with
  | .ok (numeral, next) => (.number (numeral.value next.place) next.place, .ok next)
  | .error fault => stuck ⟨fault.reading, fault.skipping, fault.reading⟩

/-- Where a record that gives up on a value of a list finds itself: behind the closing bracket, or
before the next value. -/
def leaveItem (cursor : Cursor) : Place :=
  match cursor.rest with
  | ']' :: _ => cursor.place.next
  | ',' :: rest => (step cursor rest).blanks.place
  | _ => cursor.place

/-- Where a record that gives up on a member finds itself: behind the closing bracket, if it is next. -/
def leaveMember (cursor : Cursor) : Place :=
  match cursor.rest with
  | '\x7d' :: _ => cursor.place.next
  | _ => cursor.place

mutual

/-- Reads a value. -/
def readNode : (fuel : Nat) → Cursor → Node × Except Break Cursor
  | 0, cursor => stuck (.plain (cursor.fault .endInValue))
  | fuel + 1, cursor =>
    let cursor := cursor.blanks
    match cursor.rest with
    | [] => stuck (.plain (cursor.fault .endInValue))
    | letter :: rest =>
      let next := step cursor rest
      match letter with
      | 'n' => wordNode next ['u', 'l', 'l'] .null
      | 't' => wordNode next ['r', 'u', 'e'] (.truth true)
      | 'f' => wordNode next ['a', 'l', 's', 'e'] (.truth false)
      | '"' => textNode next
      | '[' =>
        let (items, stop) := readItems fuel next
        (.list cursor.place items, stop)
      | '\x7b' =>
        let (members, stop) := readMembers fuel next
        (.object cursor.place members, stop)
      | _ =>
        if letter = '-' ∨ letter.isDigit then numberNode cursor
        else stuck (.plain (cursor.faultAhead .expectedValue))

/-- Reads the values of a list behind its opening bracket. -/
def readItems : (fuel : Nat) → Cursor → Items × Except Break Cursor
  | 0, cursor =>
    let stop := Break.plain (cursor.fault .endInList)
    (.broken stop, .error stop)
  | fuel + 1, cursor =>
    let cursor := cursor.blanks
    match cursor.rest with
    | [] =>
      let stop := Break.plain (cursor.fault .endInList)
      (.broken stop, .error stop)
    | ']' :: rest => (.closed cursor.place.next, .ok (step cursor rest))
    | _ => readItem fuel cursor

/-- Reads a value of a list and what follows it. -/
def readItem : (fuel : Nat) → Cursor → Items × Except Break Cursor
  | 0, cursor =>
    let stop := Break.plain (cursor.fault .endInList)
    (.broken stop, .error stop)
  | fuel + 1, cursor =>
    let (value, next) := readNode fuel cursor
    match next with
    | .error stop => (.more value cursor.place (.broken stop), .error stop)
    | .ok next =>
      let next := next.blanks
      let leave := leaveItem next
      match next.rest with
      | ']' :: rest => (.more value leave (.closed next.place.next), .ok (step next rest))
      | ',' :: rest =>
        let next := (step next rest).blanks
        match next.rest with
        | [] =>
          let stop : Break :=
            ⟨next.fault .endInValue, next.fault .endInValue, next.fault .trailingCharacters⟩
          (.more value leave (.broken stop), .error stop)
        | ']' :: _ =>
          let fault := next.faultAhead .trailingComma
          let stop : Break := ⟨fault, next.faultAhead .expectedValue, fault⟩
          (.more value leave (.broken stop), .error stop)
        | _ =>
          let (items, stop) := readItem fuel next
          (.more value leave items, stop)
      | [] =>
        let stop := Break.plain (next.fault .endInList)
        (.more value leave (.broken stop), .error stop)
      | _ =>
        let fault := next.faultAhead .expectedListEnd
        let stop : Break := ⟨fault, fault, next.faultAhead .trailingCharacters⟩
        (.more value leave (.broken stop), .error stop)

/-- Reads the members of an object behind its opening bracket. -/
def readMembers : (fuel : Nat) → Cursor → Members × Except Break Cursor
  | 0, cursor =>
    let stop := Break.plain (cursor.fault .endInObject)
    (.broken stop, .error stop)
  | fuel + 1, cursor =>
    let cursor := cursor.blanks
    match cursor.rest with
    | [] =>
      let stop := Break.plain (cursor.fault .endInObject)
      (.broken stop, .error stop)
    | '\x7d' :: rest => (.closed cursor.place.next, .ok (step cursor rest))
    | '"' :: rest => readMember fuel (step cursor rest)
    | _ =>
      let stop := Break.plain (cursor.faultAhead .nameNotText)
      (.broken stop, .error stop)

/-- Reads a member of an object, behind the opening quotation mark of its name, and what follows it. -/
def readMember : (fuel : Nat) → Cursor → Members × Except Break Cursor
  | 0, cursor =>
    let stop := Break.plain (cursor.fault .endInObject)
    (.broken stop, .error stop)
  | fuel + 1, cursor =>
    let name := (readText cursor).map (·.1)
    match skipText cursor with
    | .error skipping =>
      let told := match name with
        | .error fault => fault
        | .ok _ => skipping
      let stop : Break := ⟨told, skipping, told⟩
      (.broken stop, .error stop)
    | .ok next =>
      let next := next.blanks
      let leaveName := leaveMember next
      match next.rest with
      | ':' :: rest =>
        let (value, next) := readNode fuel (step next rest)
        match next with
        | .error stop => (.more name leaveName value cursor.place (.broken stop), .error stop)
        | .ok next =>
          let next := next.blanks
          let leave := leaveMember next
          match next.rest with
          | '\x7d' :: rest =>
            (.more name leaveName value leave (.closed next.place.next), .ok (step next rest))
          | ',' :: rest =>
            let next := (step next rest).blanks
            match next.rest with
            | '"' :: rest =>
              let (members, stop) := readMember fuel (step next rest)
              (.more name leaveName value leave members, stop)
            | [] =>
              let fault := next.fault .endInValue
              let stop : Break := ⟨fault, next.fault .endInObject, fault⟩
              (.more name leaveName value leave (.broken stop), .error stop)
            | '\x7d' :: _ =>
              let fault := next.faultAhead .trailingComma
              let stop : Break := ⟨fault, next.faultAhead .nameNotText, fault⟩
              (.more name leaveName value leave (.broken stop), .error stop)
            | _ =>
              let stop := Break.plain (next.faultAhead .nameNotText)
              (.more name leaveName value leave (.broken stop), .error stop)
          | [] =>
            let stop := Break.plain (next.fault .endInObject)
            (.more name leaveName value leave (.broken stop), .error stop)
          | _ =>
            let stop := Break.plain (next.faultAhead .expectedObjectEnd)
            (.more name leaveName value leave (.broken stop), .error stop)
      | [] =>
        let stop := Break.plain (next.fault .endInObject)
        (.more name leaveName (.broken stop) next.place (.broken stop), .error stop)
      | _ =>
        let stop := Break.plain (next.faultAhead .expectedColon)
        (.more name leaveName (.broken stop) next.place (.broken stop), .error stop)

end

/-- A text as a tree, and what follows the value: nothing, or a fault. -/
structure Document where
  root : Node
  ending : Except Fault Unit

/-- Reads a whole text. Every step of reading passes a character or is one of four before the next one
is passed, so the fuel lasts. -/
def Document.ofText (text : String) : Document :=
  let cursor := Cursor.ofText text
  let (root, stop) := readNode (4 * cursor.rest.length + 4) cursor
  match stop with
  | .error stop => ⟨root, .error stop.reading⟩
  | .ok next =>
    let next := next.blanks
    match next.rest with
    | [] => ⟨root, .ok ()⟩
    | _ => ⟨root, .error (next.faultAhead .trailingCharacters)⟩

/-- Reads a text with a reader of its root, then sees that nothing follows. -/
def Document.decode (reader : Node → Except Fault α) (text : String) : Except Fault α := do
  let document := Document.ofText text
  let value ← reader document.root
  document.ending
  pure value

end SecretSource.Json
