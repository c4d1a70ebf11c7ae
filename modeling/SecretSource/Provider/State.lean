/-
**The state of the data source for secrets.**

Mount, name, namespace and version are given by the user; the rest is filled from the secret that was read.
Log lines show the names of the values of a secret, never the values.

* `withSecret_inputs`: filling in a secret leaves what the user gave as it is, but for the version.
-/

import SecretSource.Provider.Attribute
import SecretSource.Vault.Secret

namespace SecretSource.Provider

open SecretSource.Json
open SecretSource.Text

/-- A table of texts, each of which may be missing or unknown. -/
abbrev TextTable := Table (Attribute String)

/-- What is told about the version of a secret. -/
structure SecretMetadata where
  createdTime : Attribute String := .null
  deletionTime : Attribute String := .null
  destroyed : Attribute Bool := .null
  version : Attribute Int := .null
  customMetadata : Attribute TextTable := .null
deriving DecidableEq

/-- The state of the data source, one field for each attribute. -/
structure SecretState where
  id : Attribute String := .null
  mount : Attribute String := .null
  name : Attribute String := .null
  namespaceName : Attribute String := .null
  path : Attribute String := .null
  data : Attribute TextTable := .null
  version : Attribute Int := .null
  metadata : Attribute SecretMetadata := .null
deriving DecidableEq

/-- A table of texts as a log line shows it. -/
def tableLogText (table : TextTable) : String :=
  Log.table (table.rows.map fun row => (row.1, row.2.logText quoted))

/-- A table of texts as JSON. -/
def tableToJson (table : TextTable) : Value :=
  .object (table.rows.map fun row => (row.1, row.2.toJson .text))

/-- A version as an attribute; it is null if 64 bits with a sign do not hold it. -/
def versionAttribute (version : Nat) : Attribute Int :=
  if version ≤ 9223372036854775807 then .known version else .null

/-- Reads a table of texts. -/
def readTexts : Reader TextTable := readTable (readAttribute readString)

namespace SecretMetadata

/-- What is known about the version of a secret, as attributes. -/
def ofVersion (metadata : Vault.VersionMetadata) : SecretMetadata where
  createdTime := .known metadata.createdTime.text
  deletionTime := .ofOption (metadata.deletionTime.map (·.text))
  destroyed := .known metadata.destroyed
  version := versionAttribute metadata.version
  customMetadata := .known (metadata.customMetadata.map .known)

/-- The metadata as a log line shows them. -/
def logText (metadata : SecretMetadata) : String :=
  Log.record "KvSecretMetadata" [
    ("created_time", metadata.createdTime.logText quoted),
    ("deletion_time", metadata.deletionTime.logText quoted),
    ("destroyed", metadata.destroyed.logText Log.flag),
    ("version", metadata.version.logText toString),
    ("custom_metadata", metadata.customMetadata.logText tableLogText)]

/-- The metadata as JSON. -/
def toJson (metadata : SecretMetadata) : Value :=
  .object [
    ("created_time", metadata.createdTime.toJson .text),
    ("deletion_time", metadata.deletionTime.toJson .text),
    ("destroyed", metadata.destroyed.toJson .truth),
    ("version", metadata.version.toJson fun version => .number (.integer version)),
    ("custom_metadata", metadata.customMetadata.toJson tableToJson)]

/-- The fields of metadata that have been read. -/
structure Draft where
  createdTime : Option (Attribute String) := none
  deletionTime : Option (Attribute String) := none
  destroyed : Option (Attribute Bool) := none
  version : Option (Attribute Int) := none
  customMetadata : Option (Attribute TextTable) := none

/-- How metadata are read from JSON. -/
def shape : Shape Draft SecretMetadata where
  title := "KvSecretMetadata"
  fields := [
    .ofSlot "created_time" (·.createdTime) (readAttribute readString)
      fun draft value => { draft with createdTime := some value },
    .ofSlot "deletion_time" (·.deletionTime) (readAttribute readString)
      fun draft value => { draft with deletionTime := some value },
    .ofSlot "destroyed" (·.destroyed) (readAttribute readFlag)
      fun draft value => { draft with destroyed := some value },
    .ofSlot "version" (·.version) (readAttribute readInteger)
      fun draft value => { draft with version := some value },
    .ofSlot "custom_metadata" (·.customMetadata) (readAttribute readTexts)
      fun draft value => { draft with customMetadata := some value }]
  blank := {}
  finish draft :=
    match draft.createdTime, draft.deletionTime, draft.destroyed, draft.version,
      draft.customMetadata with
    | some createdTime, some deletionTime, some destroyed, some version, some customMetadata =>
      .ok { createdTime, deletionTime, destroyed, version, customMetadata }
    | none, _, _, _, _ => .error 0
    | _, none, _, _, _ => .error 1
    | _, _, none, _, _ => .error 2
    | _, _, _, none, _ => .error 3
    | _, _, _, _, none => .error 4

end SecretMetadata

namespace SecretState

/-- The state that asks for the latest version of a secret. -/
def ofNames (mount name : String) : SecretState where
  mount := .known mount
  name := .known name

/-- The state with its computed attributes filled from a secret. -/
def withSecret (state : SecretState) (secret : Vault.Secret) : SecretState where
  id := .known secret.path
  mount := state.mount
  name := state.name
  namespaceName := state.namespaceName
  path := .known secret.path
  data := .known (secret.data.map .known)
  version := versionAttribute secret.metadata.version
  metadata := .known (SecretMetadata.ofVersion secret.metadata)

/-- Filling in a secret leaves what the user gave as it is, but for the version. -/
theorem withSecret_inputs (state : SecretState) (secret : Vault.Secret) :
    (state.withSecret secret).mount = state.mount ∧ (state.withSecret secret).name = state.name
      ∧ (state.withSecret secret).namespaceName = state.namespaceName := ⟨rfl, rfl, rfl⟩

/-- The state as a log line shows it. -/
def logText (state : SecretState) : String :=
  Log.record "KvSecretState" [
    ("id", state.id.logText quoted),
    ("mount", state.mount.logText quoted),
    ("name", state.name.logText quoted),
    ("namespace", state.namespaceName.logText quoted),
    ("path", state.path.logText quoted),
    ("data_keys", state.data.logText fun table => Log.list (table.names.map quoted)),
    ("version", state.version.logText toString),
    ("metadata", state.metadata.logText SecretMetadata.logText)]

/-- The state as JSON. -/
def toJson (state : SecretState) : Value :=
  .object [
    ("id", state.id.toJson .text),
    ("mount", state.mount.toJson .text),
    ("name", state.name.toJson .text),
    ("namespace", state.namespaceName.toJson .text),
    ("path", state.path.toJson .text),
    ("data", state.data.toJson tableToJson),
    ("version", state.version.toJson fun version => .number (.integer version)),
    ("metadata", state.metadata.toJson SecretMetadata.toJson)]

/-- The fields of a state that have been read. -/
structure Draft where
  id : Option (Attribute String) := none
  mount : Option (Attribute String) := none
  name : Option (Attribute String) := none
  namespaceName : Option (Attribute String) := none
  path : Option (Attribute String) := none
  data : Option (Attribute TextTable) := none
  version : Option (Attribute Int) := none
  metadata : Option (Attribute SecretMetadata) := none

/-- The state of a draft, or the position of the first field that is missing. -/
def Draft.finish (draft : Draft) : Except Nat SecretState := do
  let need {α : Type} (index : Nat) (slot : Option α) : Except Nat α :=
    match slot with
    | some value => .ok value
    | none => .error index
  let id ← need 0 draft.id
  let mount ← need 1 draft.mount
  let name ← need 2 draft.name
  let namespaceName ← need 3 draft.namespaceName
  let path ← need 4 draft.path
  let data ← need 5 draft.data
  let version ← need 6 draft.version
  let metadata ← need 7 draft.metadata
  .ok { id, mount, name, namespaceName, path, data, version, metadata }

/-- How a state is read from JSON. -/
def shape : Shape Draft SecretState where
  title := "KvSecretState"
  fields := [
    .ofSlot "id" (·.id) (readAttribute readString) fun draft value => { draft with id := some value },
    .ofSlot "mount" (·.mount) (readAttribute readString)
      fun draft value => { draft with mount := some value },
    .ofSlot "name" (·.name) (readAttribute readString)
      fun draft value => { draft with name := some value },
    .ofSlot "namespace" (·.namespaceName) (readAttribute readString)
      fun draft value => { draft with namespaceName := some value },
    .ofSlot "path" (·.path) (readAttribute readString)
      fun draft value => { draft with path := some value },
    .ofSlot "data" (·.data) (readAttribute readTexts)
      fun draft value => { draft with data := some value },
    .ofSlot "version" (·.version) (readAttribute readInteger)
      fun draft value => { draft with version := some value },
    .ofSlot "metadata" (·.metadata) (readAttribute SecretMetadata.shape.read)
      fun draft value => { draft with metadata := some value }]
  blank := {}
  finish := Draft.finish

end SecretState

end SecretSource.Provider
