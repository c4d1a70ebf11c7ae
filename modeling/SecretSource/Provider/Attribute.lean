/-
**Attributes: values that may be missing or not known yet.**

An attribute without a value is null; one whose value depends on something that has not been made is
unknown. In JSON a null attribute is `null`, an unknown one is a marker of a number and bytes, and any other
is its value.
-/

import SecretSource.Json.Decode
import SecretSource.Text.Log

namespace SecretSource.Provider

open SecretSource.Json

/-- An attribute. -/
inductive Attribute (α : Type) where
  | null
  | unknown
  | known (value : α)
deriving DecidableEq, Repr

namespace Attribute

variable {α β : Type}

/-- The value of an attribute, if it is known. -/
def value? : Attribute α → Option α
  | .known value => some value
  | _ => none

/-- The attribute of a value that may be missing. -/
def ofOption : Option α → Attribute α
  | some value => .known value
  | none => .null

/-- The attribute with its value changed. -/
def map (change : α → β) : Attribute α → Attribute β
  | .null => .null
  | .unknown => .unknown
  | .known value => .known (change value)

/-- An attribute as a log line shows it. -/
def logText (write : α → String) : Attribute α → String
  | .null => "Null"
  | .unknown => "Unknown"
  | .known value => write value

/-- An attribute as JSON. -/
def toJson (write : α → Value) : Attribute α → Value
  | .null => .null
  | .unknown => .list [.number (.integer 0), .list []]
  | .known value => write value

/-- Whether a value is a whole number within bounds. -/
def isWithin (lowest highest : Int) : Node → Bool
  | .number (.ok (.integer value)) _ => decide (lowest ≤ value) && decide (value ≤ highest)
  | _ => false

/-- Whether all values of a list are bytes. -/
def areBytes : Items → Bool
  | .closed _ => true
  | .broken _ => false
  | .more value _ rest => isWithin 0 255 value && areBytes rest

/-- Whether a value is the marker of what is unknown: a number of one byte, and bytes or a text. -/
def isMarker : Node → Bool
  | .list _ (.more kind _ (.more content _ (.closed _))) =>
    isWithin (-128) 127 kind && match content with
      | .list _ items => areBytes items
      | .text _ _ => true
      | _ => false
  | _ => false

end Attribute

/-- Reads an attribute. The text of its value is read as a whole first; a value that then turns out to be of
the wrong kind is only told to be so. -/
def readAttribute (readValue : Reader α) : Reader (Attribute α) := fun limit node =>
  match node.value limit with
  | .error fault => refuse fault
  | .ok _ =>
    match readValue limit node, node with
    | .ok value, _ => .ok (.known value)
    | .error _, .null _ => .ok .null
    | .error _, _ =>
      if Attribute.isMarker node then .ok .unknown
      else .error (.unplaced (.refused "data did not match any variant of untagged enum Value"))

/-- Reads a whole number of 64 bits with a sign. -/
def readInteger : Reader Int
  | _, .number (.ok (.integer value)) stop =>
    if -9223372036854775808 ≤ value ∧ value ≤ 9223372036854775807 then .ok value
    else refuse ⟨.invalidValue (.number (.integer value)) "i64", stop⟩
  | _, node => refuse (mismatch "i64" node)

end SecretSource.Provider
