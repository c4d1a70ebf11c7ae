/-
**How values are written in log lines.**

A record is written as its name and its fields, a missing value as `None`, and a span of time in the
largest unit that it fills. Texts inside are quoted by `Text.quoted`.
-/

import SecretSource.Text.Quoted
import SecretSource.Text.Split

namespace SecretSource.Text.Log

/-- The fields of a record with commas between them. -/
def fieldList (fields : List (String × String)) : String :=
  String.intercalate ", " (fields.map fun field => field.1 ++ ": " ++ field.2)

/-- A record with all its fields. -/
def record (name : String) (fields : List (String × String)) : String :=
  name ++ " \x7b " ++ fieldList fields ++ " \x7d"

/-- A record that shows only some of its fields. -/
def partialRecord (name : String) (fields : List (String × String)) : String :=
  name ++ " \x7b " ++ fieldList fields ++ ", .. \x7d"

/-- A list of written values. -/
def list (items : List String) : String :=
  "[" ++ String.intercalate ", " items ++ "]"

/-- A table of written values under quoted names. -/
def table (rows : List (String × String)) : String :=
  "\x7b" ++ String.intercalate ", " (rows.map fun row => quoted row.1 ++ ": " ++ row.2) ++ "\x7d"

/-- A value that may be missing. -/
def optional (write : α → String) : Option α → String
  | none => "None"
  | some value => "Some(" ++ write value ++ ")"

/-- A truth value. -/
def flag (value : Bool) : String :=
  if value then "true" else "false"

/-- An amount that is counted in parts of a unit, with a power of ten of them in it: in the unit, with a point before
the digits of what is no whole unit, and without zeros behind these. -/
def inUnit (places amount : Nat) (unit : String) : String :=
  let digits := Nat.toDigits 10 amount
  let whole := digits.length - places
  let fraction := trimEnd (· == '0') (digits.drop whole)
  String.ofList (digits.take whole ++ if fraction.isEmpty then [] else '.' :: fraction) ++ unit

/-- A span of time, given in nanoseconds. -/
def duration (nanoseconds : Nat) : String :=
  if 1_000_000_000 ≤ nanoseconds then inUnit 9 nanoseconds "s"
  else if 1_000_000 ≤ nanoseconds then inUnit 6 nanoseconds "ms"
  else if 1_000 ≤ nanoseconds then inUnit 3 nanoseconds "µs"
  else inUnit 0 nanoseconds "ns"

end SecretSource.Text.Log
