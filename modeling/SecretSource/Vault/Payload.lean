/-
**What a vault answers, as JSON.**

The bodies of a read, of a look at a token and of a failed request, each with the reader of its text.
Only the fields that are used are kept.
-/

import SecretSource.Json.Decode
import SecretSource.Time.Lenient
import SecretSource.Time.Strict

namespace SecretSource.Vault

open SecretSource.Json
open SecretSource.Time (Instant)

/-- What is told about a version of a secret. -/
structure VersionPayload where
  createdTime : Instant
  deletionTime : Option Instant
  destroyed : Bool
  version : Nat
  customMetadata : Option (Table String)

/-- A version of a secret: its values, unless they are gone, and what is told about it. -/
structure SecretPayload where
  values : Option (Table Value)
  metadata : VersionPayload

/-- The body of a read. -/
structure SecretBody where
  data : SecretPayload
  warnings : Option (List String)

/-- The body of a failed request. -/
structure ErrorBody where
  errors : List String

/-- What is told about a token. -/
structure TokenInfo where
  accessor : String
  displayName : String
  policies : List String
  ttl : Nat
  renewable : Bool
deriving DecidableEq, Repr

/-- The body of a look at a token. -/
structure TokenBody where
  data : TokenInfo

/-- The time when a version was made. -/
def readCreatedTime : Reader Instant :=
  readChecked "an RFC 3339 formatted date and time string" fun text =>
    (Time.readLenient text).mapError fun reason => .refused reason.message

/-- The time when a version was deleted, where nothing but blanks is no time. -/
def readDeletionTime : Reader (Option Instant) := fun limit node => do
  match (← readOptional readString limit node).map Unicode.trimBlank with
  | none => pure none
  | some "" => pure none
  | some text =>
    match Time.readStrict text with
    | .ok time => pure (some time)
    | .error reason => .error (.unplaced (.refused reason.message))

/-- The fields of `VersionPayload` that have been read. -/
structure VersionDraft where
  createdTime : Option Instant := none
  deletionTime : Option (Option Instant) := none
  destroyed : Option Bool := none
  version : Option Nat := none
  customMetadata : Option (Option (Table String)) := none

/-- How `VersionPayload` is read. -/
def VersionPayload.shape : Shape VersionDraft VersionPayload where
  title := "KvV2Metadata"
  fields := [
    .ofSlot "created_time" (·.createdTime) readCreatedTime
      fun draft value => { draft with createdTime := some value },
    .ofSlot "deletion_time" (·.deletionTime) readDeletionTime
      fun draft value => { draft with deletionTime := some value },
    .ofSlot "destroyed" (·.destroyed) readFlag
      fun draft value => { draft with destroyed := some value },
    .ofSlot "version" (·.version) readNatural
      fun draft value => { draft with version := some value },
    .ofSlot "custom_metadata" (·.customMetadata) (readOptional (readTable readString))
      fun draft value => { draft with customMetadata := some value }]
  blank := {}
  finish draft :=
    match draft.createdTime, draft.version with
    | some createdTime, some version => .ok {
        createdTime
        deletionTime := draft.deletionTime.join
        destroyed := draft.destroyed.getD false
        version
        customMetadata := draft.customMetadata.join }
    | none, _ => .error 0
    | some _, none => .error 3

/-- The fields of `SecretPayload` that have been read. -/
structure SecretDraft where
  values : Option (Option (Table Value)) := none
  metadata : Option VersionPayload := none

/-- How `SecretPayload` is read. -/
def SecretPayload.shape : Shape SecretDraft SecretPayload where
  title := "KvV2Data"
  fields := [
    .ofSlot "data" (·.values) (readOptional (readTable readAny))
      fun draft value => { draft with values := some value },
    .ofSlot "metadata" (·.metadata) VersionPayload.shape.read
      fun draft value => { draft with metadata := some value }]
  blank := {}
  finish draft :=
    match draft.metadata with
    | some metadata => .ok { values := draft.values.join, metadata }
    | none => .error 1

/-- The fields of `SecretBody` that have been read. -/
structure SecretBodyDraft where
  data : Option SecretPayload := none
  warnings : Option (Option (List String)) := none

/-- How `SecretBody` is read. -/
def SecretBody.shape : Shape SecretBodyDraft SecretBody where
  title := "KvV2Response"
  fields := [
    .ofSlot "data" (·.data) SecretPayload.shape.read
      fun draft value => { draft with data := some value },
    .ofSlot "warnings" (·.warnings) (readOptional (readList readString))
      fun draft value => { draft with warnings := some value }]
  blank := {}
  finish draft :=
    match draft.data with
    | some data => .ok { data, warnings := draft.warnings.join }
    | none => .error 0

/-- Reads the body of a read. -/
def SecretBody.ofText (text : String) : Except Fault SecretBody := SecretBody.shape.ofText text

/-- How `ErrorBody` is read. -/
def ErrorBody.shape : Shape (Option (List String)) ErrorBody where
  title := "ErrorResponse"
  fields := [.ofSlot "errors" id (readList readString) fun _ value => some value]
  blank := none
  finish draft := .ok { errors := draft.getD [] }

/-- Reads the body of a failed request. -/
def ErrorBody.ofText (text : String) : Except Fault ErrorBody := ErrorBody.shape.ofText text

/-- The fields of `TokenInfo` that have been read. -/
structure TokenDraft where
  accessor : Option String := none
  displayName : Option String := none
  policies : Option (List String) := none
  ttl : Option Nat := none
  renewable : Option Bool := none

/-- How `TokenInfo` is read. -/
def TokenInfo.shape : Shape TokenDraft TokenInfo where
  title := "TokenInfo"
  fields := [
    .ofSlot "accessor" (·.accessor) readString
      fun draft value => { draft with accessor := some value },
    .ofSlot "display_name" (·.displayName) readString
      fun draft value => { draft with displayName := some value },
    .ofSlot "policies" (·.policies) (readList readString)
      fun draft value => { draft with policies := some value },
    .ofSlot "ttl" (·.ttl) readNatural
      fun draft value => { draft with ttl := some value },
    .ofSlot "renewable" (·.renewable) readFlag
      fun draft value => { draft with renewable := some value }]
  blank := {}
  finish draft := .ok {
    accessor := draft.accessor.getD ""
    displayName := draft.displayName.getD ""
    policies := draft.policies.getD []
    ttl := draft.ttl.getD 0
    renewable := draft.renewable.getD false }

/-- How `TokenBody` is read. -/
def TokenBody.shape : Shape (Option TokenInfo) TokenBody where
  title := "TokenLookupResponse"
  fields := [.ofSlot "data" id TokenInfo.shape.read fun _ value => some value]
  blank := none
  finish draft :=
    match draft with
    | some data => .ok { data }
    | none => .error 0

/-- Reads the body of a look at a token. -/
def TokenBody.ofText (text : String) : Except Fault TokenBody := TokenBody.shape.ofText text

/-- What is told about a token, as JSON. -/
def TokenInfo.value (token : TokenInfo) : Value :=
  .object [
    ("accessor", .text token.accessor),
    ("display_name", .text token.displayName),
    ("policies", .list (token.policies.map .text)),
    ("ttl", .number (.integer token.ttl)),
    ("renewable", .truth token.renewable)]

end SecretSource.Vault
