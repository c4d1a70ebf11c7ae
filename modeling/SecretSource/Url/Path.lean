/-
**Paths of addresses: encoded segments.**

A path is the list of its segments in the order of reading. Dots are resolved when a path is read; `push`
adds one segment behind a path, written so that it neither ends nor splits the path. Dots alone are not added, but
dots with tabs or line ends among them are resolved.
-/

import SecretSource.Text.Percent
import SecretSource.Text.Split

namespace SecretSource.Url

open SecretSource.Text

/-- What a path refuses. -/
def isPathRefused (letter : Char) : Bool :=
  [' ', '"', '#', '<', '>', '?', '\x60', '\x7b', '\x7d'].contains letter

/-- What a segment that is pushed refuses. -/
def isSegmentRefused (letter : Char) : Bool :=
  isPathRefused letter || ['/', '%', '\\'].contains letter

/-- What every part of an address drops. -/
def isDropped (letter : Char) : Bool :=
  letter == '\t' || letter == '\n' || letter == '\x0d'

/-- A path: encoded segments, never none. -/
abbrev Path := List (List Char)

namespace Path

/-- Whether a segment has the form of a drive. -/
def isDrive : List Char → Bool
  | [letter, sign] => letter.isAlpha && (sign == ':' || sign == '|')
  | _ => false

/-- A segment with every encoded dot decoded. -/
def plainDots : List Char → List Char
  | '%' :: '2' :: letter :: rest =>
    if letter = 'e' ∨ letter = 'E' then '.' :: plainDots rest else '%' :: '2' :: letter :: plainDots rest
  | letter :: rest => letter :: plainDots rest
  | [] => []

/-- A path without its last segment; a drive stays. -/
def parent (path : Path) : Path :=
  match path.getLast? with
  | some last => if isDrive last then path else path.dropLast
  | none => path

/-- Adds the segments that are read behind a path. -/
def resolve (done : Path) : List (List Char) → Path
  | [] => done
  | segment :: rest =>
    let dots := plainDots segment
    if dots = ['.', '.'] then
      if rest.isEmpty then parent done ++ [[]] else resolve (parent done) rest
    else if dots = ['.'] then
      if rest.isEmpty then done ++ [[]] else resolve done rest
    else resolve (done ++ [segment]) rest

/-- Reads what follows the host, up to a question mark or a number sign. -/
def read (text : List Char) : Path :=
  let text := text.map fun letter => if letter = '\\' then '/' else letter
  let text := match text with
    | '/' :: rest => rest
    | all => all
  resolve [] ((pieces '/' text).map (Percent.encode isPathRefused))

/-- The text of a path. -/
def written (path : Path) : List Char :=
  path.flatMap ('/' :: ·)

/-- A path without an empty segment at its end. -/
def withoutEnd (path : Path) : Path :=
  match path.getLast? with
  | some [] => if path.length ≤ 1 then path else path.dropLast
  | _ => path

/-- Adds one segment. Dots are passed over; a segment that becomes dots once tabs and line ends are
dropped from it is resolved. -/
def push (path : Path) (segment : List Char) : Path :=
  if segment = ['.'] ∨ segment = ['.', '.'] then path
  else
    let kept := segment.filter (! isDropped ·)
    let before := if path = [[]] then [] else path
    if kept = ['.', '.'] then parent before ++ [[]]
    else if kept = ['.'] then before ++ [[]]
    else before ++ [Percent.encode isSegmentRefused kept]

/-- Adds segments one by one. -/
def extend (path : Path) (segments : List (List Char)) : Path :=
  segments.foldl push path

end Path

end SecretSource.Url
