/-
**What can be wrong with a JSON text, and where.**

A problem is a cause, its message a sentence; a fault is a problem at a place of the text. Problems of
spelling come first, then those of a value that is well spelled but not of the kind that was asked for.
-/

import SecretSource.Number.Shortest
import SecretSource.Text.Quoted

namespace SecretSource.Json

open SecretSource.Number

/-- A place between two bytes of a text: lines count from one, columns count the bytes before the place
in its line. -/
structure Place where
  line : Nat
  column : Nat
deriving DecidableEq, Repr

namespace Place

/-- Where a text starts. -/
def start : Place := ⟨1, 0⟩

/-- The place behind a character. -/
def after (place : Place) (letter : Char) : Place :=
  if letter = '\n' then ⟨place.line + 1, 0⟩ else ⟨place.line, place.column + letter.utf8Size⟩

/-- The place behind the first byte of a character. -/
def afterByte (place : Place) (letter : Char) : Place :=
  if letter = '\n' then ⟨place.line + 1, 0⟩ else ⟨place.line, place.column + 1⟩

/-- The place behind a character that is one byte of its line. -/
def next (place : Place) : Place := ⟨place.line, place.column + 1⟩

end Place

/-- A number as a text spells it: a whole number of 64 bits, or a value of floating point. -/
inductive Number where
  | integer (value : Int)
  | real (value : Binary64)
deriving DecidableEq, Repr

/-- The text of a number. -/
def Number.text : Number → String
  | .integer value => toString value
  | .real value => value.text

/-- What was found where another kind of value was asked for. -/
inductive Found where
  | null
  | truth (value : Bool)
  | number (value : Number)
  | text (value : String)
  | sequence
  | map

/-- How a found value is named in a message. -/
def Found.message : Found → String
  | .null => "null"
  | .truth true => "boolean `true`"
  | .truth false => "boolean `false`"
  | .number (.integer value) => "integer `" ++ toString value ++ "`"
  | .number (.real value) => "floating point `" ++ value.text ++ "`"
  | .text value => "string " ++ Text.quoted value
  | .sequence => "sequence"
  | .map => "map"

/-- What is wrong. -/
inductive Problem where
  | endInList
  | endInObject
  | endInText
  | endInValue
  | expectedColon
  | expectedListEnd
  | expectedObjectEnd
  | expectedWord
  | expectedValue
  | invalidEscape
  | invalidNumber
  | numberOutOfRange
  | controlCharacter
  | nameNotText
  | loneSurrogate
  | openSurrogate
  | trailingComma
  | trailingCharacters
  | tooDeep
  | invalidType (found : Found) (expected : String)
  | invalidValue (found : Found) (expected : String)
  | invalidLength (length : Nat) (expected : String)
  | missingField (name : String)
  | duplicateField (name : String)
  | refused (reason : String)

/-- The sentence for a problem. -/
def Problem.message : Problem → String
  | .endInList => "EOF while parsing a list"
  | .endInObject => "EOF while parsing an object"
  | .endInText => "EOF while parsing a string"
  | .endInValue => "EOF while parsing a value"
  | .expectedColon => "expected `:`"
  | .expectedListEnd => "expected `,` or `]`"
  | .expectedObjectEnd => "expected `,` or `\x7d`"
  | .expectedWord => "expected ident"
  | .expectedValue => "expected value"
  | .invalidEscape => "invalid escape"
  | .invalidNumber => "invalid number"
  | .numberOutOfRange => "number out of range"
  | .controlCharacter =>
    "control character (\\u0000-\\u001F) found while parsing a string"
  | .nameNotText => "key must be a string"
  | .loneSurrogate => "lone leading surrogate in hex escape"
  | .openSurrogate => "unexpected end of hex escape"
  | .trailingComma => "trailing comma"
  | .trailingCharacters => "trailing characters"
  | .tooDeep => "recursion limit exceeded"
  | .invalidType found expected =>
    "invalid type: " ++ found.message ++ ", expected " ++ expected
  | .invalidValue found expected =>
    "invalid value: " ++ found.message ++ ", expected " ++ expected
  | .invalidLength length expected =>
    "invalid length " ++ toString length ++ ", expected " ++ expected
  | .missingField name => "missing field `" ++ name ++ "`"
  | .duplicateField name => "duplicate field `" ++ name ++ "`"
  | .refused reason => reason

/-- A problem at its place. -/
structure Fault where
  problem : Problem
  place : Place

/-- The sentence for a fault. -/
def Fault.message (fault : Fault) : String :=
  fault.problem.message ++ " at line " ++ toString fault.place.line ++ " column "
    ++ toString fault.place.column

end SecretSource.Json
