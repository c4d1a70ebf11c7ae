/-
**Cutting texts: at a separator, and at both ends.**

* `pieces` cuts a text at every separator, and `joined_pieces` puts it together again.
* `trim` drops a class of characters from both ends of a text.
-/

namespace SecretSource.Text

/-- The pieces of a text between separators, empty ones included. There is always one piece more than
there are separators. -/
def pieces (separator : Char) : List Char → List (List Char)
  | [] => [[]]
  | letter :: rest =>
    if letter = separator then [] :: pieces separator rest
    else
      match pieces separator rest with
      | [] => [[letter]]
      | first :: others => (letter :: first) :: others

/-- Pieces with a separator between them. -/
def joined (separator : Char) : List (List Char) → List Char
  | [] => []
  | [piece] => piece
  | piece :: next :: rest => piece ++ separator :: joined separator (next :: rest)

theorem pieces_ne_nil (separator : Char) (text : List Char) : pieces separator text ≠ [] := by
  cases text with
  | nil => simp [pieces]
  | cons letter rest =>
    unfold pieces
    split
    · simp
    · split <;> simp

/-- Cutting loses nothing. -/
theorem joined_pieces (separator : Char) (text : List Char) :
    joined separator (pieces separator text) = text := by
  induction text with
  | nil => rfl
  | cons letter rest ih =>
    unfold pieces
    split
    · rename_i same
      cases shape : pieces separator rest with
      | nil => exact absurd shape (pieces_ne_nil separator rest)
      | cons first others =>
        rw [shape] at ih
        simp [joined, ih, same]
    · cases shape : pieces separator rest with
      | nil => exact absurd shape (pieces_ne_nil separator rest)
      | cons first others =>
        rw [shape] at ih
        cases others with
        | nil => simpa [joined] using ih
        | cons second more => simpa [joined] using ih

/-- A text without the characters of a class at its start and at its end. -/
def trim (isDropped : Char → Bool) (text : List Char) : List Char :=
  ((text.dropWhile isDropped).reverse.dropWhile isDropped).reverse

/-- A text without the characters of a class at its end. -/
def trimEnd (isDropped : Char → Bool) (text : List Char) : List Char :=
  (text.reverse.dropWhile isDropped).reverse

/-- A text without slashes at its start and at its end. -/
def trimSlashes (text : String) : String :=
  String.ofList (trim (· == '/') text.toList)

end SecretSource.Text
