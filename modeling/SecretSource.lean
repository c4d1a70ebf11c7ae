import SecretSource.Failure
import SecretSource.Http.Exchange
import SecretSource.Http.Settings
import SecretSource.Http.Status
import SecretSource.Idna.Composition
import SecretSource.Idna.Direction
import SecretSource.Idna.Domain
import SecretSource.Idna.Joining
import SecretSource.Idna.Mapping
import SecretSource.Idna.Punycode
import SecretSource.Json.Cursor
import SecretSource.Json.Decode
import SecretSource.Json.Literal
import SecretSource.Json.Node
import SecretSource.Json.Numeral
import SecretSource.Json.Problem
import SecretSource.Json.Value
import SecretSource.Logging.Config
import SecretSource.Logging.Filter
import SecretSource.Number.Binary64
import SecretSource.Number.Shortest
import SecretSource.Proofs.Except
import SecretSource.Proofs.Idna.Refusing
import SecretSource.Proofs.Json.Grammar
import SecretSource.Proofs.Json.Meaning
import SecretSource.Proofs.Json.Members
import SecretSource.Proofs.Json.Numerals
import SecretSource.Proofs.Json.Quoted
import SecretSource.Proofs.Json.Reading
import SecretSource.Proofs.Json.Rearranging
import SecretSource.Proofs.Json.Tree
import SecretSource.Proofs.Json.Writing
import SecretSource.Proofs.Session.Concealment
import SecretSource.Proofs.Session.Configuring
import SecretSource.Proofs.Session.Discretion
import SecretSource.Proofs.Session.Filling
import SecretSource.Proofs.Session.Guessing
import SecretSource.Proofs.Session.Idle
import SecretSource.Proofs.Session.Namespace
import SecretSource.Proofs.Session.Pinning
import SecretSource.Proofs.Session.Planning
import SecretSource.Proofs.Session.Refinement
import SecretSource.Proofs.Session.Reporting
import SecretSource.Proofs.Session.Secrecy
import SecretSource.Proofs.Session.Sending
import SecretSource.Proofs.Session.Slashes
import SecretSource.Proofs.Session.Sources
import SecretSource.Proofs.Session.Step
import SecretSource.Proofs.Session.Timestamps
import SecretSource.Proofs.Session.Traffic
import SecretSource.Proofs.Session.Validating
import SecretSource.Proofs.Session.WriteOnce
import SecretSource.Proofs.State.Arrival
import SecretSource.Proofs.State.Attribute
import SecretSource.Proofs.State.Respelling
import SecretSource.Proofs.State.RoundTrip
import SecretSource.Proofs.State.Schema
import SecretSource.Proofs.Text.Cutting
import SecretSource.Proofs.Text.PercentCoding
import SecretSource.Proofs.Time.Counting
import SecretSource.Proofs.Time.Loose
import SecretSource.Proofs.Time.Printing
import SecretSource.Proofs.Time.Scanning
import SecretSource.Proofs.Time.Telling
import SecretSource.Proofs.Url.Authority
import SecretSource.Proofs.Url.Climbing
import SecretSource.Proofs.Url.Printing
import SecretSource.Proofs.Url.Pushing
import SecretSource.Proofs.Url.Resolved
import SecretSource.Proofs.Vault.Classifying
import SecretSource.Proofs.Vault.Components
import SecretSource.Proofs.Vault.Composing
import SecretSource.Proofs.Vault.Concealment
import SecretSource.Proofs.Vault.Containment
import SecretSource.Proofs.Vault.Explaining
import SecretSource.Proofs.Vault.Identity
import SecretSource.Proofs.Vault.Making
import SecretSource.Proofs.Vault.Payload
import SecretSource.Proofs.Vault.Renewing
import SecretSource.Proofs.Vault.Spelling
import SecretSource.Provider.Attribute
import SecretSource.Provider.Config
import SecretSource.Provider.DataSource
import SecretSource.Provider.Diagnostics
import SecretSource.Provider.Failure
import SecretSource.Provider.Operation
import SecretSource.Provider.Process
import SecretSource.Provider.Run
import SecretSource.Provider.Schema
import SecretSource.Provider.Session
import SecretSource.Provider.State
import SecretSource.Provider.Traffic
import SecretSource.Table
import SecretSource.Text.Base64
import SecretSource.Text.Encoding
import SecretSource.Text.Hex
import SecretSource.Text.Log
import SecretSource.Text.Percent
import SecretSource.Text.Quoted
import SecretSource.Text.Split
import SecretSource.Text.Utf8
import SecretSource.Time.Calendar
import SecretSource.Time.Instant
import SecretSource.Time.Lenient
import SecretSource.Time.Scan
import SecretSource.Time.Strict
import SecretSource.Unicode.Alphanumeric
import SecretSource.Unicode.Blank
import SecretSource.Unicode.Escaped
import SecretSource.Unicode.RangeTable
import SecretSource.Url.Address
import SecretSource.Url.Fault
import SecretSource.Url.Host
import SecretSource.Url.Path
import SecretSource.Vault.Client
import SecretSource.Vault.Config
import SecretSource.Vault.Failure
import SecretSource.Vault.Payload
import SecretSource.Vault.Request
import SecretSource.Vault.Secret
