/-
**Punycode: labels beyond ASCII in letters, digits and hyphens.**

The ASCII characters of a label come first; behind the last hyphen the others follow in the order of their
numbers, each as the distance from the one before, in digits whose weights adapt (RFC 3492).
-/

namespace SecretSource.Idna.Punycode

/-- The digit of a value below 36. -/
def digit (value : Nat) : Char :=
  if value < 26 then Char.ofNat (97 + value) else Char.ofNat (22 + value)

/-- The value of a digit. -/
def digitValue? (letter : Char) : Option Nat :=
  if 'a' ≤ letter ∧ letter ≤ 'z' then some (letter.toNat - 97)
  else if 'A' ≤ letter ∧ letter ≤ 'Z' then some (letter.toNat - 65)
  else if '0' ≤ letter ∧ letter ≤ '9' then some (letter.toNat - 22)
  else none

/-- The least value that ends no distance at a position of its digits. -/
def threshold (position bias : Nat) : Nat :=
  if position ≤ bias then 1 else if bias + 26 ≤ position then 26 else position - bias

theorem threshold_pos (position bias : Nat) : 1 ≤ threshold position bias := by
  unfold threshold
  split
  · omega
  · split <;> omega

theorem threshold_le (position bias : Nat) : threshold position bias ≤ 26 := by
  unfold threshold
  split
  · omega
  · split <;> omega

/-- Divides a distance by 35 until it is at most 455, and counts in steps of 36. -/
def settle (distance count : Nat) : Nat × Nat :=
  if 455 < distance then settle (distance / 35) (count + 36) else (distance, count)
termination_by distance
decreasing_by exact Nat.div_lt_self (by omega) (by omega)

/-- The bias behind a distance: `length` characters have been placed by then. -/
def adapted (distance length : Nat) (first : Bool) : Nat :=
  let scaled := if first then distance / 700 else distance / 2
  let settled := settle (scaled + scaled / length) 0
  settled.2 + 36 * settled.1 / (settled.1 + 38)

/-- The digits of a distance. -/
def writeDistance (bias position distance : Nat) : List Char :=
  let least := threshold position bias
  if distance < least then [digit distance]
  else
    digit (least + (distance - least) % (36 - least))
      :: writeDistance bias (position + 36) ((distance - least) / (36 - least))
termination_by distance
decreasing_by
  have low := threshold_pos position bias
  have high := threshold_le position bias
  calc (distance - threshold position bias) / (36 - threshold position bias)
      ≤ distance - threshold position bias := Nat.div_le_self _ _
    _ < distance := by omega

/-- Reads the digits of a distance on top of `sum`; gives what is left behind them. -/
def readDistance (bias position weight sum : Nat) : List Char → Option (Nat × List Char)
  | [] => none
  | letter :: rest =>
    match digitValue? letter with
    | none => none
    | some value =>
      let least := threshold position bias
      if value < least then some (sum + value * weight, rest)
      else readDistance bias (position + 36) (weight * (36 - least)) (sum + value * weight) rest

theorem readDistance_length {bias position weight sum : Nat} {text : List Char}
    {found : Nat × List Char} (read : readDistance bias position weight sum text = some found) :
    found.2.length < text.length := by
  induction text generalizing position weight sum with
  | nil => simp [readDistance] at read
  | cons letter rest ih =>
    unfold readDistance at read
    split at read
    · cases read
    · dsimp only at read
      split at read
      · cases read
        simp
      · have shorter := ih read
        simp only [List.length_cons]
        omega

/-- What has been written so far: the digits, the distance that has grown since the last of them, the
bias, and how many characters have been placed. -/
structure Progress where
  digits : List Char
  distance : Nat
  bias : Nat
  placed : Nat

/-- Passes a character while those with the number `point` are written; `basic` characters are ASCII. -/
def pass (basic point : Nat) (progress : Progress) (letter : Char) : Progress :=
  if letter.toNat < point then { progress with distance := progress.distance + 1 }
  else if letter.toNat = point then
    { digits := progress.digits ++ writeDistance progress.bias 36 progress.distance
      distance := 0
      bias := adapted progress.distance (progress.placed + 1) (progress.placed == basic)
      placed := progress.placed + 1 }
  else progress

/-- Writes the characters with each of some ascending numbers; `next` is the least number that has not
been looked for. -/
def writePoints (label : List Char) (basic next : Nat) (progress : Progress) :
    List Nat → Progress
  | [] => progress
  | point :: rest =>
    let grown :=
      { progress with distance := progress.distance + (point - next) * (progress.placed + 1) }
    let passed := label.foldl (pass basic point) grown
    writePoints label basic (point + 1) { passed with distance := passed.distance + 1 } rest

/-- Puts a number into ascending numbers, once. -/
def insertPoint (point : Nat) : List Nat → List Nat
  | [] => [point]
  | other :: rest =>
    if point < other then point :: other :: rest
    else if point = other then other :: rest
    else other :: insertPoint point rest

/-- Whether a character is ASCII. -/
def isAscii (letter : Char) : Bool := letter.toNat < 0x80

/-- Writes a label. -/
def encode (label : List Char) : List Char :=
  let basic := label.filter isAscii
  let points := ((label.filter (! isAscii ·)).map Char.toNat).foldr insertPoint []
  let start : Progress := ⟨[], 0, 72, basic.length⟩
  basic ++ (if basic.isEmpty then [] else ['-'])
    ++ (writePoints label basic.length 0x80 start points).digits

/-- Reads distances and places a character for each; `next` is the number and `index` the position from
which the distance counts. -/
def place (bias next index : Nat) (done text : List Char) : Option (List Char) :=
  if text.isEmpty then some done
  else
    match read : readDistance bias 36 1 index text with
    | none => none
    | some (sum, rest) =>
      let length := done.length + 1
      let point := next + sum / length
      let index' := sum % length
      if point < 0xD800 ∨ (0xDFFF < point ∧ point < 0x110000) then
        place (adapted (sum - index) length (index == 0)) point (index' + 1)
          (done.insertIdx index' (Char.ofNat point)) rest
      else none
termination_by text.length
decreasing_by exact readDistance_length read

/-- Reads a label. A hyphen in front divides nothing. -/
def decode? (text : List Char) : Option (List Char) :=
  let tail := (text.reverse.takeWhile (· != '-')).reverse
  let front := text.take (text.length - tail.length - 1)
  if front.isEmpty then place 72 0x80 0 [] text
  else place 72 0x80 0 front tail

end SecretSource.Idna.Punycode
