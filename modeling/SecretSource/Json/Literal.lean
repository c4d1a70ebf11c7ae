/-
**Texts between quotation marks in JSON.**

`readText` decodes the escapes up to the closing quotation mark. `skipText` only finds the closing
mark: it does not mind halves of surrogate pairs that stand alone. What one reads, the other passes.
-/

import SecretSource.Json.Cursor
import SecretSource.Text.Hex

namespace SecretSource.Json

open SecretSource.Text

/-- What a reader of a quoted text is in the middle of: nothing, an escape, the digits of a numbered
escape with the first half of a pair that it may complete, or the second half that must follow. -/
inductive Stage where
  | plain
  | escaped
  | digits (missing : Nat) (value : Nat) (lead : Option Nat)
  | pairSlash (lead : Nat)
  | pairLetter (lead : Nat)

/-- The character of an escape of two characters. -/
def escapedChar? (letter : Char) : Option Char :=
  match letter with
  | '"' => some '"'
  | '\\' => some '\\'
  | '/' => some '/'
  | 'b' => some '\x08'
  | 'f' => some '\x0c'
  | 'n' => some '\n'
  | 'r' => some '\r'
  | 't' => some '\t'
  | _ => none

/-- Whether four digits follow; if not, what is wrong with them. -/
def checkDigits (place : Place) (rest : List Char) : Except Fault Unit :=
  match Cursor.placeAfter 4 place rest with
  | none => .error ⟨.endInText, Cursor.endPlace place rest⟩
  | some beyond =>
    if (rest.take 4).all fun letter => (Hex.digitValue? letter).isSome then .ok ()
    else .error ⟨.invalidEscape, beyond⟩

/-- What a numbered escape stands for, or what must follow it. -/
def numbered (lead : Option Nat) (value : Nat) : Except Problem (Stage × Option Char) :=
  let isHigh := decide (0xD800 ≤ value ∧ value ≤ 0xDBFF)
  let isLow := decide (0xDC00 ≤ value ∧ value ≤ 0xDFFF)
  match lead with
  | some high =>
    if isLow then
      .ok (.plain, some (Char.ofNat (0x10000 + (high - 0xD800) * 1024 + (value - 0xDC00))))
    else .error .loneSurrogate
  | none =>
    if isLow then .error .loneSurrogate
    else if isHigh then .ok (.pairSlash value, none)
    else .ok (.plain, some (Char.ofNat value))

/-- Reads a text up to its closing quotation mark; `done` holds what has been read, last one first. -/
def readFrom (stage : Stage) (done : List Char) (place : Place) :
    List Char → Except Fault (List Char × Cursor)
  | [] => .error ⟨.endInText, place⟩
  | letter :: rest =>
    match stage with
    | .plain =>
      if letter = '"' then .ok (done.reverse, ⟨place.after letter, rest⟩)
      else if letter = '\\' then readFrom .escaped done (place.after letter) rest
      else if letter.toNat < 0x20 then .error ⟨.controlCharacter, place.after letter⟩
      else readFrom .plain (letter :: done) (place.after letter) rest
    | .escaped =>
      match escapedChar? letter with
      | some plain => readFrom .plain (plain :: done) (place.after letter) rest
      | none =>
        if letter = 'u' then
          match checkDigits (place.after letter) rest with
          | .ok () => readFrom (.digits 4 0 none) done (place.after letter) rest
          | .error fault => .error fault
        else .error ⟨.invalidEscape, place.afterByte letter⟩
    | .digits missing value lead =>
      let value := 16 * value + (Hex.digitValue? letter).getD 0
      if 1 < missing then
        readFrom (.digits (missing - 1) value lead) done (place.after letter) rest
      else
        match numbered lead value with
        | .error problem => .error ⟨problem, place.after letter⟩
        | .ok (next, none) => readFrom next done (place.after letter) rest
        | .ok (next, some plain) => readFrom next (plain :: done) (place.after letter) rest
    | .pairSlash lead =>
      if letter = '\\' then readFrom (.pairLetter lead) done (place.after letter) rest
      else .error ⟨.openSurrogate, place.afterByte letter⟩
    | .pairLetter lead =>
      if letter = 'u' then
        match checkDigits (place.after letter) rest with
        | .ok () => readFrom (.digits 4 0 (some lead)) done (place.after letter) rest
        | .error fault => .error fault
      else .error ⟨.openSurrogate, place.afterByte letter⟩

/-- Reads a text whose opening quotation mark lies before the cursor. -/
def readText (cursor : Cursor) : Except Fault (String × Cursor) :=
  match readFrom .plain [] cursor.place cursor.rest with
  | .ok (text, next) => .ok (String.ofList text, next)
  | .error fault => .error fault

/-- Finds the closing quotation mark; `escaped` says that a backslash lies before the cursor. -/
def skipFrom (escaped : Bool) (place : Place) : List Char → Except Fault Cursor
  | [] => .error ⟨.endInText, place⟩
  | letter :: rest =>
    if escaped then
      if (escapedChar? letter).isSome then skipFrom false (place.after letter) rest
      else if letter = 'u' then
        match checkDigits (place.after letter) rest with
        | .ok () => skipFrom false (place.after letter) rest
        | .error fault => .error fault
      else .error ⟨.invalidEscape, place.afterByte letter⟩
    else if letter = '"' then .ok ⟨place.after letter, rest⟩
    else if letter = '\\' then skipFrom true (place.after letter) rest
    else if letter.toNat < 0x20 then .error ⟨.controlCharacter, place⟩
    else skipFrom false (place.after letter) rest

/-- Passes a text whose opening quotation mark lies before the cursor. -/
def skipText (cursor : Cursor) : Except Fault Cursor :=
  skipFrom false cursor.place cursor.rest

end SecretSource.Json
