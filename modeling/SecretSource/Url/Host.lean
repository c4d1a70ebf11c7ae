/-
**Hosts: names and numeric addresses.**

A host in brackets is an address of 128 bits, written shortest; any other is a name, and a name whose last
label is a number must be an address of 32 bits.

* `read` reads the host of an address, `written` is how it is printed.
-/

import SecretSource.Idna.Domain
import SecretSource.Text.Percent
import SecretSource.Url.Fault

namespace SecretSource.Url

open SecretSource.Text

/-- A host: a name in ASCII, an address of 32 bits, or the eight pieces of one of 128 bits. -/
inductive Host where
  | name (labels : List Char)
  | ipv4 (address : Nat)
  | ipv6 (pieces : List Nat)
deriving DecidableEq, Repr

namespace Host

/-- The value of a digit in a base up to sixteen. -/
def digitIn? (base : Nat) (letter : Char) : Option Nat := do
  let value ← Hex.digitValue? letter
  if value < base then some value else none

/-- The number that digits in a base write. -/
def numberIn? (base : Nat) (digits : List Char) : Option Nat := do
  let values ← digits.mapM (digitIn? base)
  some (values.foldl (fun number value => base * number + value) 0)

/-- A part of an address of 32 bits: decimal, octal behind a zero, or hexadecimal behind `0x`. -/
def partOf? : List Char → Option Nat
  | [] => none
  | ['0'] => some 0
  | '0' :: letter :: rest =>
    if letter = 'x' ∨ letter = 'X' then numberIn? 16 rest else numberIn? 8 (letter :: rest)
  | digits => numberIn? 10 digits

/-- Whether the last label of a name is a number; one empty label behind it does not count. -/
def endsInNumber (name : List Char) : Bool :=
  let labels := (pieces '.' name).reverse
  let labels := match labels with
    | [] :: rest => rest
    | all => all
  match labels with
  | [] => false
  | last :: _ => (! last.isEmpty && last.all Char.isDigit) || (partOf? last).isSome

/-- Parts in the order of their weight: each but the last is a byte, the last fills what is left. -/
def joinParts (weight : Nat) : List Nat → Option Nat
  | [] => none
  | [last] => if last < weight then some last else none
  | part :: rest => do
    let low ← joinParts (weight / 256) rest
    if part < 256 then some (part * (weight / 256) + low) else none

/-- Reads an address of 32 bits. -/
def readIpv4 (text : List Char) : Option Nat := do
  let parts := pieces '.' text
  let parts := match parts.reverse with
    | [] :: rest => rest.reverse
    | _ => parts
  if parts.length ≤ 4 then joinParts 4294967296 (← parts.mapM partOf?) else none

/-- A byte in decimal without leading zeros. -/
def byte? (digits : List Char) : Option Nat := do
  if digits.isEmpty || (digits.length != 1 && digits.head? == some '0') then none
  else
    let value ← numberIn? 10 digits
    if value < 256 then some value else none

/-- The two pieces that four bytes with points between them write. -/
def tailPieces? (text : List Char) : Option (List Nat) := do
  match ← (pieces '.' text).mapM byte? with
  | [first, second, third, fourth] => some [256 * first + second, 256 * third + fourth]
  | _ => none

/-- A piece of one to four hexadecimal digits. -/
def piece? (word : List Char) : Option Nat :=
  if 1 ≤ word.length ∧ word.length ≤ 4 then numberIn? 16 word else none

/-- Reads the words between colons. `done` holds the pieces, last one first, and `gap` how many of them
stood before the double colon, which counts as one piece more. -/
def readWords (done : List Nat) (gap : Option Nat) : List (List Char) → Option (List Nat × Option Nat)
  | [] => some (done, gap)
  | word :: rest =>
    let count := done.length + (if gap.isSome then 1 else 0)
    if 8 ≤ count then none
    else if word.isEmpty then
      if gap.isSome then none
      else
        match rest with
        | [] => none
        | [[]] => some (done, some done.length)
        | _ => readWords done (some done.length) rest
    else if rest.isEmpty && word.contains '.' then
      if count ≤ 6 then do
        let tail ← tailPieces? word
        some (tail.reverse ++ done, gap)
      else none
    else
      match piece? word with
      | some piece => readWords (piece :: done) gap rest
      | none => none

/-- Reads an address of 128 bits. -/
def readIpv6 (text : List Char) : Option (List Nat) := do
  let words ← match pieces ':' text with
    | [] :: [] :: rest => some ([] :: rest)
    | [] :: _ => none
    | all => some all
  let (done, gap) ← readWords [] none words
  match gap with
  | none => if done.length = 8 then some done.reverse else none
  | some before =>
    let read := done.reverse
    some (read.take before ++ List.replicate (8 - read.length) 0 ++ read.drop before)

/-- Reads the host of an address of the web. -/
def read (text : List Char) : Except Fault Host :=
  match text with
  | '[' :: rest =>
    match rest.reverse with
    | ']' :: inside =>
      match readIpv6 inside.reverse with
      | some pieces => .ok (.ipv6 pieces)
      | none => .error .badIpv6
    | _ => .error .badIpv6
  | _ =>
    match Percent.decode? text with
    | none => .error .badName
    | some spoken =>
      match Idna.toAscii spoken with
      | none => .error .badName
      | some [] => .error .noHost
      | some labels =>
        if endsInNumber labels then
          match readIpv4 labels with
          | some address => .ok (.ipv4 address)
          | none => .error .badIpv4
        else .ok (.name labels)

/-- Checks the host of an address whose scheme has no meaning here. -/
def checkOpaque (text : List Char) : Except Fault Unit :=
  match text with
  | '[' :: _ => (read text).map fun _ => ()
  | _ =>
    let refused := ['\x00', '\t', '\n', '\r', ' ', '#', '/', ':', '<', '>', '?', '@', '[', '\\', ']',
      '^', '|']
    if text.any refused.contains then .error .badHostCharacter else .ok ()

/-- Where the longest row of zero pieces starts, the first of several, and its length. -/
def longestZeros (index : Nat) (current best : Nat × Nat) : List Nat → Nat × Nat
  | [] => best
  | piece :: rest =>
    if piece = 0 then
      let current := if current.2 = 0 then (index, 1) else (current.1, current.2 + 1)
      longestZeros (index + 1) current (if best.2 < current.2 then current else best) rest
    else longestZeros (index + 1) (0, 0) best rest

/-- The text of an address of 128 bits: a row of two zeros or more is a double colon. -/
def ipv6Text (pieces : List Nat) : List Char :=
  let digits := fun (row : List Nat) => joined ':' (row.map (Nat.toDigits 16))
  let (start, length) := longestZeros 0 (0, 0) (0, 0) pieces
  if 2 ≤ length then
    digits (pieces.take start) ++ ':' :: ':' :: digits (pieces.drop (start + length))
  else digits pieces

/-- The text of an address of 32 bits. -/
def ipv4Text (address : Nat) : List Char :=
  joined '.' ([address / 16777216 % 256, address / 65536 % 256, address / 256 % 256, address % 256].map
    (Nat.toDigits 10))

/-- The text of a host. -/
def written : Host → List Char
  | .name labels => labels
  | .ipv4 address => ipv4Text address
  | .ipv6 pieces => '[' :: ipv6Text pieces ++ [']']

end Host

end SecretSource.Url
