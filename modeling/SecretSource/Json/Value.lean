/-
**JSON values and their compact text.**

An object holds every name once, in the order of the names, so equal values have equal texts.
`Node.value` reads a tree into a value: of two members with one name the last one counts, and brackets
nested too deeply are refused.

* `written` is the text without white space.
-/

import SecretSource.Json.Node
import SecretSource.Table

namespace SecretSource.Json

/-- A JSON value. The rows of an object are in ascending order of their names. -/
inductive Value where
  | null
  | truth (value : Bool)
  | number (value : Number)
  | text (value : String)
  | list (items : List Value)
  | object (rows : List (String × Value))

namespace Value

/-- A character of a text as it stands between quotation marks. -/
def writtenChar (letter : Char) : List Char :=
  match letter with
  | '"' => ['\\', '"']
  | '\\' => ['\\', '\\']
  | '\x08' => ['\\', 'b']
  | '\x0c' => ['\\', 'f']
  | '\n' => ['\\', 'n']
  | '\r' => ['\\', 'r']
  | '\t' => ['\\', 't']
  | _ =>
    if letter.toNat < 0x20 then
      ['\\', 'u', '0', '0', Text.Hex.lowerDigit (letter.toNat / 16),
        Text.Hex.lowerDigit (letter.toNat % 16)]
    else [letter]

/-- A text between quotation marks. -/
def writtenText (text : String) : List Char :=
  '"' :: text.toList.flatMap writtenChar ++ ['"']

mutual

/-- The text of a value without white space. -/
def written : Value → List Char
  | .null => "null".toList
  | .truth true => "true".toList
  | .truth false => "false".toList
  | .number value => value.text.toList
  | .text value => writtenText value
  | .list [] => ['[', ']']
  | .list (item :: rest) => '[' :: written item ++ writtenItems rest
  | .object [] => ['\x7b', '\x7d']
  | .object ((name, value) :: rest) =>
    '\x7b' :: writtenText name ++ ':' :: written value ++ writtenRows rest

/-- The rest of a list with its closing bracket. -/
def writtenItems : List Value → List Char
  | [] => [']']
  | item :: rest => ',' :: written item ++ writtenItems rest

/-- The rest of an object with its closing bracket. -/
def writtenRows : List (String × Value) → List Char
  | [] => ['\x7d']
  | (name, value) :: rest =>
    ',' :: writtenText name ++ ':' :: written value ++ writtenRows rest

end

/-- The text of a value. -/
def toText (value : Value) : String := String.ofList value.written

end Value

/-- How deeply brackets may be nested. -/
def depthLimit : Nat := 128

mutual

/-- Reads a tree into a value; brackets may be nested less deeply than `limit`. -/
def Node.value (limit : Nat) : Node → Except Fault Value
  | .null _ => .ok .null
  | .truth value _ => .ok (.truth value)
  | .number value _ => value.map .number
  | .text value _ => value.map .text
  | .list start items =>
    if limit ≤ 1 then .error ⟨.tooDeep, start.next⟩
    else (items.values (limit - 1)).map .list
  | .object start members =>
    if limit ≤ 1 then .error ⟨.tooDeep, start.next⟩
    else (members.rows (limit - 1) []).map .object
  | .broken stop => .error stop.reading

/-- Reads the values of a list. -/
def Items.values (limit : Nat) : Items → Except Fault (List Value)
  | .closed _ => .ok []
  | .broken stop => .error stop.reading
  | .more value _ rest => do
    let first ← value.value limit
    let others ← rest.values limit
    pure (first :: others)

/-- Reads members into rows, on top of those that have been read. -/
def Members.rows (limit : Nat) (done : List (String × Value)) :
    Members → Except Fault (List (String × Value))
  | .closed _ => .ok done
  | .broken stop => .error stop.reading
  | .more name _ value _ rest => do
    let name ← name
    let value ← value.value limit
    rest.rows limit (Table.insertRow name value done)

end

/-- Reads a whole text into a value. -/
def Value.ofText (text : String) : Except Fault Value :=
  Document.decode (Node.value depthLimit) text

end SecretSource.Json
