/-
**Host names in ASCII.**

A name is folded, composed and cut into labels; a label that still has characters beyond ASCII is written
in Punycode behind `xn--`, and a label that comes so is checked by reading it. What is refused: characters
outside the tables, signs that would end or confuse the host of an address, marks and joiners out of place,
and labels that mix directions.
-/

import SecretSource.Idna.Direction
import SecretSource.Idna.Joining
import SecretSource.Idna.Mapping
import SecretSource.Idna.Punycode
import SecretSource.Text.Split

namespace SecretSource.Idna

open Punycode (isAscii)

/-- Whether an ASCII character may not stand in a host name. -/
def isRefused (letter : Char) : Bool :=
  letter.toNat ≤ 0x20 || letter.toNat == 0x7F
    || ['%', '#', '/', ':', '<', '>', '?', '@', '[', '\\', ']', '^', '|'].contains letter

/-- What announces a label in Punycode. -/
def mark : List Char := ['x', 'n', '-', '-']

/-- A label as it is read and as it is written. -/
structure Label where
  spoken : List Char
  written : List Char

/-- Whether a label beyond ASCII may stand in a name. -/
def isSound (label : List Char) : Bool :=
  ! startsWithMark label && placesJoiners label

/-- Reads the Punycode of a label. It must hold a character beyond ASCII, and only what folding would
leave as it is. -/
def readCoded (code : List Char) : Option (List Char) := do
  let label ← Punycode.decode? code
  if label.any (! isAscii ·) && label.all (fun letter => isAscii letter || isAllowed letter)
      && isComposed label && isSound label then
    some label
  else none

/-- A folded label in both forms. -/
def label? (folded : List Char) : Option Label :=
  if folded.all isAscii then
    if mark.isPrefixOf folded then do
      let spoken ← readCoded (folded.drop mark.length)
      some ⟨spoken, folded⟩
    else some ⟨folded, folded⟩
  else if mark.isPrefixOf folded then none
  else if isSound folded then some ⟨folded, mark ++ Punycode.encode folded⟩
  else none

/-- A name in folded and composed form. -/
def fold (name : List Char) : Option (List Char) := do
  let parts ← name.mapM mapped
  let folded := parts.flatten
  some (if folded.all isAscii then folded else compose folded)

/-- Whether the labels agree on a direction. Names in ASCII always do. -/
def agreesOnDirection (labels : List Label) : Bool :=
  let spoken := labels.map (·.spoken)
  spoken.all (·.all isAscii) || ! spoken.any isRightToLeft || spoken.all keepsDirection

/-- The ASCII form of a host name. -/
def toAscii (name : List Char) : Option (List Char) := do
  let folded ← fold name
  let labels ← (Text.pieces '.' folded).mapM label?
  let written := Text.joined '.' (labels.map (·.written))
  if agreesOnDirection labels && ! written.any isRefused then some written else none

end SecretSource.Idna
