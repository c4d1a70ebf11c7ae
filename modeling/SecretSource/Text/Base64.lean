/-
**Base64 with padding.**

Three bytes become four characters of the standard alphabet; a last group of one or two bytes is filled
up with equals signs.
-/

namespace SecretSource.Text.Base64

/-- The character of six bits. -/
def symbol (bits : Nat) : Char :=
  if bits < 26 then Char.ofNat (65 + bits)
  else if bits < 52 then Char.ofNat (71 + bits)
  else if bits < 62 then Char.ofNat (bits - 4)
  else if bits = 62 then '+'
  else '/'

/-- Writes bytes in groups of three. -/
def encode : List UInt8 → List Char
  | [] => []
  | [first] =>
    let one := first.toNat
    [symbol (one / 4), symbol (one % 4 * 16), '=', '=']
  | [first, second] =>
    let one := first.toNat
    let two := second.toNat
    [symbol (one / 4), symbol (one % 4 * 16 + two / 16), symbol (two % 16 * 4), '=']
  | first :: second :: third :: rest =>
    let one := first.toNat
    let two := second.toNat
    let three := third.toNat
    symbol (one / 4) :: symbol (one % 4 * 16 + two / 16) :: symbol (two % 16 * 4 + three / 64)
      :: symbol (three % 64) :: encode rest

end SecretSource.Text.Base64
