/-
**From the bytes of a body to text.**

A byte order mark is removed and chooses UTF-8 or one of the two byte orders of UTF-16; without one the
bytes are UTF-8. What is ill formed becomes the replacement character, so reading never fails.
-/

import SecretSource.Text.Utf8

namespace SecretSource.Text.Encoding

/-- The order of the two bytes of a unit. -/
inductive ByteOrder where
  | littleEndian | bigEndian

/-- The unit that two bytes write. -/
def ByteOrder.unit : ByteOrder → UInt8 → UInt8 → Nat
  | .littleEndian, first, second => first.toNat + 256 * second.toNat
  | .bigEndian, first, second => 256 * first.toNat + second.toNat

/-- Reads UTF-16; `high` is the first half of a pair that waits for its second half. -/
def utf16 (order : ByteOrder) : Option Nat → List UInt8 → List Char
  | none, [] => []
  | some _, [] => [Utf8.replacement]
  | _, [_] => [Utf8.replacement]
  | high, first :: second :: rest =>
    let unit := order.unit first second
    let isHigh := decide (0xD800 ≤ unit ∧ unit ≤ 0xDBFF)
    let isLow := decide (0xDC00 ≤ unit ∧ unit ≤ 0xDFFF)
    match high with
    | some lead =>
      if isLow then
        Char.ofNat (0x10000 + (lead - 0xD800) * 1024 + (unit - 0xDC00)) :: utf16 order none rest
      else if isHigh then Utf8.replacement :: utf16 order (some unit) rest
      else Utf8.replacement :: Char.ofNat unit :: utf16 order none rest
    | none =>
      if isHigh then utf16 order (some unit) rest
      else if isLow then Utf8.replacement :: utf16 order none rest
      else Char.ofNat unit :: utf16 order none rest

/-- Reads the bytes of a body. -/
def decode (bytes : List UInt8) : String :=
  String.ofList <| match bytes with
    | 0xEF :: 0xBB :: 0xBF :: rest => Utf8.lossy rest
    | 0xFF :: 0xFE :: rest => utf16 .littleEndian none rest
    | 0xFE :: 0xFF :: rest => utf16 .bigEndian none rest
    | _ => Utf8.lossy bytes

end SecretSource.Text.Encoding
