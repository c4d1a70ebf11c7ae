/-
**Filters of log lines.**

A filter is a list of directives with commas between them. A directive is a target, a level, or a target with
a span and its fields and then a level, as in `target[span]=level`. Only whether a filter is well formed
matters here.
-/

import SecretSource.Text.Split
import SecretSource.Unicode.Alphanumeric
import SecretSource.Unicode.Blank

namespace SecretSource.Logging

open SecretSource.Text

/-- What is wrong with a filter. -/
inductive FilterFault where
  | directive
  | level
deriving DecidableEq, Repr

/-- The sentence for a fault. -/
def FilterFault.message : FilterFault → String
  | .directive => "invalid filter directive"
  | .level =>
    "error parsing level filter: expected one of \"off\", \"error\", \"warn\", \"info\", \"debug\", "
      ++ "\"trace\", or a number 0-5"

/-- What part of a directive a reader is in. -/
inductive Part where
  | start
  | target
  | span
  | field (isEmpty : Bool)
  | behindFields
  | behindSpan
  | level (place : Nat)

/-- The part behind a character; `place` counts the bytes up to its end. -/
def Part.next (part : Part) (letter : Char) (place : Nat) : Option Part :=
  match part with
  | .start =>
    if letter = '[' then some .span
    else if ['-', ':', '_'].contains letter || Unicode.isAlphanumeric letter then some .target
    else none
  | .target =>
    some (if letter = '=' then .level place else if letter = '[' then .span else .target)
  | .span =>
    some (if letter = ']' then .behindSpan else if letter = '\x7b' then .field true else .span)
  | .field isEmpty =>
    if letter = '\x7d' then (if isEmpty then none else some .behindFields) else some (.field false)
  | .behindFields => if letter = ']' then some .behindSpan else none
  | .behindSpan => if letter = '=' then some (.level place) else none
  | .level opening => some (.level opening)

/-- The part in which a directive ends. -/
def partAtEnd (part : Part) (place : Nat) : List Char → Option Part
  | [] => some part
  | letter :: rest => do
    let place := place + letter.utf8Size
    partAtEnd (← part.next letter place) place rest

/-- A text without so many bytes at its start. -/
def dropBytes : Nat → List Char → List Char
  | _, [] => []
  | 0, text => text
  | count + 1, letter :: rest => dropBytes (count + 1 - letter.utf8Size) rest
termination_by _ text => text.length

/-- Whether a text is a number of at most five, with a plus sign or without. -/
def isLevelNumber (text : List Char) : Bool :=
  let digits := match text with
    | '+' :: rest => rest
    | _ => text
  let significant := digits.dropWhile (· == '0')
  ! digits.isEmpty && match significant with
    | [] => true
    | [digit] => '1' ≤ digit && digit ≤ '5'
    | _ => false

/-- Whether a text names a level. -/
def isLevel (text : List Char) : Bool :=
  isLevelNumber text
    || ["off", "error", "warn", "info", "debug", "trace"].contains (String.ofList (text.map Char.toLower))

/-- Checks a directive. Blanks around it do not count for its parts, but its level is looked for at the
place that it has without them. -/
def checkDirective (directive : List Char) : Except FilterFault Unit :=
  match partAtEnd .start 0 (trim Unicode.isBlank directive) with
  | some .target => .ok ()
  | some .behindSpan => .ok ()
  | some (.level place) =>
    let level := dropBytes place directive
    if level.isEmpty || isLevel level then .ok () else .error .level
  | _ => .error .directive

/-- Checks a filter; empty directives are passed over. -/
def checkFilter (filter : String) : Except FilterFault Unit :=
  ((pieces ',' filter.toList).filter (! ·.isEmpty)).forM checkDirective

end SecretSource.Logging
