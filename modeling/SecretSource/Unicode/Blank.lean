/-
**White space.**

The characters with the property White_Space, and what is left of a text without them at its ends.
-/

import SecretSource.Text.Split

namespace SecretSource.Unicode

/-- Whether a character is white space. -/
def isBlank (letter : Char) : Bool :=
  let point := letter.toNat
  (9 ≤ point && point ≤ 13) || point == 0x20 || point == 0x85 || point == 0xA0 || point == 0x1680
    || (0x2000 ≤ point && point ≤ 0x200A) || point == 0x2028 || point == 0x2029 || point == 0x202F
    || point == 0x205F || point == 0x3000

/-- A text without white space at its ends. -/
def trimBlank (text : String) : String :=
  String.ofList (Text.trim isBlank text.toList)

/-- A text without white space at its start. -/
def trimBlankStart (text : List Char) : List Char :=
  text.dropWhile isBlank

/-- Whether a text holds nothing but white space. -/
def isBlankText (text : String) : Bool :=
  text.toList.all isBlank

end SecretSource.Unicode
