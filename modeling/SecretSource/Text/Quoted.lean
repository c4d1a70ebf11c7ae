/-
**Quoted text, as log lines show it.**

A text stands between quotation marks; a quotation mark, a backslash and the common controls have an
escape of two characters, and every other character that is not printable is written by its number.
-/

import SecretSource.Unicode.Escaped

namespace SecretSource.Text

/-- One character inside quotation marks. -/
def quotedChar (letter : Char) : List Char :=
  match letter with
  | '"' => ['\\', '"']
  | '\\' => ['\\', '\\']
  | '\n' => ['\\', 'n']
  | '\r' => ['\\', 'r']
  | '\t' => ['\\', 't']
  | '\x00' => ['\\', '0']
  | _ =>
    if Unicode.isEscaped letter then
      ['\\', 'u', '\x7b'] ++ Nat.toDigits 16 letter.toNat ++ ['\x7d']
    else [letter]

/-- A text between quotation marks. -/
def quoted (text : String) : String :=
  String.ofList ('"' :: text.toList.flatMap quotedChar ++ ['"'])

end SecretSource.Text
