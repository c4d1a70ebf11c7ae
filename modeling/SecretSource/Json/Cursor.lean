/-
**A cursor in a JSON text.**

What is left of the text, and the place that has been reached. `Cursor.blanks` passes white space; `Cursor.fault` and
`Cursor.faultAhead` are faults here and one byte ahead.
-/

import SecretSource.Json.Problem

namespace SecretSource.Json

/-- A place of a text and the characters behind it. -/
structure Cursor where
  place : Place
  rest : List Char

namespace Cursor

/-- The start of a text. -/
def ofText (text : String) : Cursor := ⟨.start, text.toList⟩

/-- Whether a character is white space between values. -/
def isBlank (letter : Char) : Bool :=
  letter == ' ' || letter == '\n' || letter == '\r' || letter == '\t'

/-- Passes the characters of a class. -/
def passWhile (isPassed : Char → Bool) (place : Place) : List Char → Cursor
  | [] => ⟨place, []⟩
  | letter :: rest =>
    if isPassed letter then passWhile isPassed (place.after letter) rest else ⟨place, letter :: rest⟩

/-- Passes white space. -/
def blanks (cursor : Cursor) : Cursor :=
  passWhile isBlank cursor.place cursor.rest

/-- A fault at the cursor. -/
def fault (cursor : Cursor) (problem : Problem) : Fault := ⟨problem, cursor.place⟩

/-- A fault behind the first byte of the character at the cursor, or at the end of the text. -/
def faultAhead (cursor : Cursor) (problem : Problem) : Fault :=
  match cursor.rest with
  | [] => ⟨problem, cursor.place⟩
  | letter :: _ => ⟨problem, cursor.place.afterByte letter⟩

/-- Where the text ends. -/
def endPlace (place : Place) (rest : List Char) : Place :=
  rest.foldl Place.after place

/-- The place behind so many bytes, or none if the text is shorter. -/
def placeAfter : (count : Nat) → Place → List Char → Option Place
  | 0, place, _ => some place
  | _ + 1, _, [] => none
  | count + 1, place, letter :: rest =>
    if letter.utf8Size ≤ count + 1 then placeAfter (count + 1 - letter.utf8Size) (place.after letter) rest
    else some ⟨place.line, place.column + (count + 1)⟩
termination_by _ _ rest => rest.length

end Cursor

end SecretSource.Json
