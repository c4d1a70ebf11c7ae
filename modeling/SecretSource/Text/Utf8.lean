/-
**UTF-8 bytes: encoding, and reading that never fails.**

`encode` writes characters as bytes. `scan` reads bytes part by part, an ill-formed part becomes a gap;
`lossy` puts the replacement character into every gap and `decode?` refuses bytes with a gap. The parts
are those of the Encoding standard: a byte that cannot go on with a sequence ends it and starts anew.
-/

namespace SecretSource.Text.Utf8

/-- The bytes of a text. -/
def encode (text : List Char) : List UInt8 :=
  text.flatMap String.utf8EncodeChar

/-- A sequence that has begun: how many bytes are missing, the bits so far, and the range that the next
byte must lie in. -/
structure Pending where
  missing : Nat
  bits : Nat
  lowest : Nat
  highest : Nat

/-- What a byte starts when no sequence is open: a character, a gap, or a sequence. -/
def start (byte : Nat) : Option Char ⊕ Pending :=
  if byte < 0x80 then .inl (some (Char.ofNat byte))
  else if 0xC2 ≤ byte ∧ byte ≤ 0xDF then .inr ⟨1, byte - 0xC0, 0x80, 0xBF⟩
  else if byte = 0xE0 then .inr ⟨2, 0, 0xA0, 0xBF⟩
  else if byte = 0xED then .inr ⟨2, 0xD, 0x80, 0x9F⟩
  else if 0xE1 ≤ byte ∧ byte ≤ 0xEF then .inr ⟨2, byte - 0xE0, 0x80, 0xBF⟩
  else if byte = 0xF0 then .inr ⟨3, 0, 0x90, 0xBF⟩
  else if byte = 0xF4 then .inr ⟨3, 4, 0x80, 0x8F⟩
  else if 0xF1 ≤ byte ∧ byte ≤ 0xF3 then .inr ⟨3, byte - 0xF0, 0x80, 0xBF⟩
  else .inl none

/-- Reads bytes into characters and gaps. -/
def scan : Option Pending → List UInt8 → List (Option Char)
  | none, [] => []
  | some _, [] => [none]
  | none, byte :: rest =>
    match start byte.toNat with
    | .inl part => part :: scan none rest
    | .inr pending => scan (some pending) rest
  | some pending, byte :: rest =>
    let value := byte.toNat
    if pending.lowest ≤ value ∧ value ≤ pending.highest then
      let bits := 64 * pending.bits + (value - 0x80)
      if pending.missing ≤ 1 then some (Char.ofNat bits) :: scan none rest
      else scan (some ⟨pending.missing - 1, bits, 0x80, 0xBF⟩) rest
    else
      match start value with
      | .inl part => none :: part :: scan none rest
      | .inr fresh => none :: scan (some fresh) rest

/-- The character that stands for what could not be read. -/
def replacement : Char := Char.ofNat 0xFFFD

/-- Reads bytes; every ill-formed part becomes one replacement character. -/
def lossy (bytes : List UInt8) : List Char :=
  (scan none bytes).map (·.getD replacement)

/-- Reads well-formed bytes. -/
def decode? (bytes : List UInt8) : Option (List Char) :=
  (scan none bytes).mapM id

end SecretSource.Text.Utf8
