/-
**What is serialised fits its schema.**

A schema says which attributes there are and of which types, and states are serialised without a look at it. They
fit all the same: each attribute is there once, under its name, and is null, the marker of what is unknown, or a value
of its type.

* `AttributeType.Admits`: the values of a type.
* `Schema.Admits`: an object with exactly the attributes of a schema.
* `SecretState.admits_toJson`: all states fit.
-/

import SecretSource.Provider.Schema
import SecretSource.Provider.State

namespace SecretSource.Provider

open SecretSource.Json

/-- A type admits null and the marker of what is unknown, and what it says. Every value of a map is of the type of its
elements; an object has all its fields, no others, and each one is of its type. -/
inductive AttributeType.Admits : AttributeType → Value → Prop where
  | null {type : AttributeType} : Admits type .null
  | unknown {type : AttributeType} : Admits type (.list [.number (.integer 0), .list []])
  | text {text : String} : Admits .text (.text text)
  | number {number : Number} : Admits .number (.number number)
  | flag {flag : Bool} : Admits .flag (.truth flag)
  | map {element : AttributeType} {rows : List (String × Value)}
      (elements : ∀ row ∈ rows, Admits element row.2) : Admits (.map element) (.object rows)
  | object {fields : List (String × AttributeType)} {rows : List (String × Value)}
      (names : (rows.map (·.1)).Perm (fields.map (·.1)))
      (values : ∀ row ∈ rows, ∀ type, fields.lookup row.1 = some type → Admits type row.2) :
      Admits (.object fields) (.object rows)

/-- An object that has exactly the attributes of a schema, each one of its type. -/
def Schema.Admits (schema : Schema) (value : Value) : Prop :=
  ∃ rows, value = .object rows ∧ (rows.map (·.1)).Perm schema.names ∧
    ∀ row ∈ rows, ∀ declared, schema.attributes.lookup row.1 = some declared → declared.type.Admits row.2

variable {α : Type}

/-- An attribute is of a type if its value is. -/
theorem AttributeType.admits_toJson {type : AttributeType} {write : α → Value}
    (admits : ∀ value, type.Admits (write value)) (field : Attribute α) : type.Admits (field.toJson write) := by
  cases field with
  | null => exact .null
  | unknown => exact .unknown
  | known value => exact admits value

theorem admits_textField (field : Attribute String) : AttributeType.text.Admits (field.toJson .text) :=
  AttributeType.admits_toJson (fun _ => .text) field

theorem admits_tableField (field : Attribute TextTable) :
    (AttributeType.map .text).Admits (field.toJson tableToJson) := by
  refine AttributeType.admits_toJson (fun table => .map fun row member => ?_) field
  obtain ⟨row', -, rfl⟩ := List.mem_map.mp member
  exact admits_textField row'.2

theorem admits_versionField (field : Attribute Int) :
    AttributeType.number.Admits (field.toJson fun version => .number (.integer version)) :=
  AttributeType.admits_toJson (fun _ => .number) field

/-- All metadata are of their type. -/
theorem SecretMetadata.admits_toJson (metadata : SecretMetadata) : metadataType.Admits metadata.toJson := by
  have names : List.Perm ["created_time", "deletion_time", "destroyed", "version", "custom_metadata"]
      ["created_time", "custom_metadata", "deletion_time", "destroyed", "version"] := by decide
  refine .object names fun row member type found => ?_
  simp only [List.mem_cons, List.not_mem_nil, or_false] at member
  rcases member with rfl | rfl | rfl | rfl | rfl <;> cases found
  · exact admits_textField _
  · exact admits_textField _
  · exact AttributeType.admits_toJson (fun _ => .flag) _
  · exact admits_versionField _
  · exact admits_tableField _

/-- **All states fit the schema of the data source.** -/
theorem SecretState.admits_toJson (state : SecretState) : secretSchema.Admits state.toJson := by
  have names : List.Perm ["id", "mount", "name", "namespace", "path", "data", "version", "metadata"]
      secretSchema.names := by decide
  refine ⟨_, rfl, names, fun row member declared found => ?_⟩
  simp only [List.mem_cons, List.not_mem_nil, or_false] at member
  rcases member with rfl | rfl | rfl | rfl | rfl | rfl | rfl | rfl <;> cases found
  · exact admits_textField _
  · exact admits_textField _
  · exact admits_textField _
  · exact admits_textField _
  · exact admits_textField _
  · exact admits_tableField _
  · exact admits_versionField _
  · exact AttributeType.admits_toJson SecretMetadata.admits_toJson _

end SecretSource.Provider
