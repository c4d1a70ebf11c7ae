/-
**Percent-encoding.**

`encode` writes the bytes of refused characters as `%XX`; `bytes` undoes it and leaves a percent sign
alone that no two digits follow.
-/

import SecretSource.Text.Hex
import SecretSource.Text.Utf8

namespace SecretSource.Text.Percent

/-- A byte as a percent sign and two capital digits. -/
def escape (byte : UInt8) : List Char :=
  ['%', Hex.upperDigit (byte.toNat / 16), Hex.upperDigit (byte.toNat % 16)]

/-- One character; what lies outside ASCII is always written by its bytes. -/
def encodeChar (isRefused : Char → Bool) (letter : Char) : List Char :=
  if letter.toNat < 0x20 ∨ 0x7E < letter.toNat ∨ isRefused letter then
    (String.utf8EncodeChar letter).flatMap escape
  else [letter]

/-- A text with controls, refused characters and all beyond ASCII written by their bytes. -/
def encode (isRefused : Char → Bool) (text : List Char) : List Char :=
  text.flatMap (encodeChar isRefused)

/-- The bytes that an encoded text stands for. -/
def bytes : List Char → List UInt8
  | [] => []
  | '%' :: high :: low :: rest =>
    match Hex.digitValue? high, Hex.digitValue? low with
    | some first, some second => UInt8.ofNat (16 * first + second) :: bytes rest
    | _, _ => 0x25 :: bytes (high :: low :: rest)
  | letter :: rest => String.utf8EncodeChar letter ++ bytes rest

/-- The text that an encoded text stands for, if its bytes are well formed. -/
def decode? (text : List Char) : Option (List Char) :=
  Utf8.decode? (bytes text)

end SecretSource.Text.Percent
