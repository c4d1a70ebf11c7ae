/-
**Schemas: which attributes there are.**

The schema of the provider block and that of the data source for secrets.
-/

namespace SecretSource.Provider

/-- The type of an attribute. -/
inductive AttributeType where
  | text
  | number
  | flag
  | map (element : AttributeType)
  | object (fields : List (String × AttributeType))

/-- Who sets an attribute. -/
inductive Constraint where
  | required
  | optional
  | computed
  | optionalComputed
deriving DecidableEq, Repr

/-- What a schema says about an attribute. -/
structure AttributeSchema where
  type : AttributeType := .text
  description : String
  constraint : Constraint
  isSensitive : Bool := false
  isDeprecated : Bool := false

/-- A schema, with its attributes in the order of their names. -/
structure Schema where
  version : Nat
  blockVersion : Nat
  description : String
  attributes : List (String × AttributeSchema)
  isDeprecated : Bool := false

/-- The names of the attributes of a schema. -/
def Schema.names (schema : Schema) : List String := schema.attributes.map (·.1)

/-- The schema of the provider block. -/
def providerSchema : Schema where
  version := 1
  blockVersion := 1
  description := "HashiCorp Vault KV version 2 secrets"
  attributes := [
    ("address", {
      description := "URL of the Vault server, defaults to VAULT_ADDR"
      constraint := .optional }),
    ("namespace", {
      description := "Vault namespace used by default, defaults to VAULT_NAMESPACE"
      constraint := .optional }),
    ("token", {
      description := "Token used to authenticate with Vault, defaults to VAULT_TOKEN"
      constraint := .optional
      isSensitive := true })]

/-- The type of the metadata of a secret. -/
def metadataType : AttributeType :=
  .object [
    ("created_time", .text),
    ("custom_metadata", .map .text),
    ("deletion_time", .text),
    ("destroyed", .flag),
    ("version", .number)]

/-- The schema of the data source for secrets. -/
def secretSchema : Schema where
  version := 1
  blockVersion := 1
  description := "Reads a secret from Vault KV Version 2 backend"
  attributes := [
    ("data", {
      type := .map .text
      description := "Secret data"
      constraint := .computed
      isSensitive := true }),
    ("id", {
      description := "Same as `path`"
      constraint := .computed }),
    ("metadata", {
      type := metadataType
      description := "Metadata about the secret"
      constraint := .computed }),
    ("mount", {
      description := "The mount point of the KV-V2 secret engine"
      constraint := .required }),
    ("name", {
      description := "Name of the secret"
      constraint := .required }),
    ("namespace", {
      description := "Namespace of the secret, defaults to the provider namespace"
      constraint := .optional }),
    ("path", {
      description := "Full path of the secret"
      constraint := .computed }),
    ("version", {
      type := .number
      description := "Version (iteration) of the secret to retrieve, latest when unset"
      constraint := .optionalComputed })]

/-- The data sources of the provider. -/
def dataSources : List String := ["kv_secret"]

end SecretSource.Provider
