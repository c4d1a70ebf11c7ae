/-
**Sending a request and receiving its reply.**

What happens to a request on its way is a `Delivery`, given from outside; the rest is computed. `exchange`
composes the request and gives what reached the server, which is one request or none, with the reply or the
reason why there is none. User and password of an address become a header and leave the address.

A connection that cannot be made secure is one that is refused. A reply is its status and its body: it is taken for
granted that none of its headers names another address to go to, or an encoding of the body.

* `canSend`: whether a request can be sent at all.
* `exchange_cases`: what can happen to a request.
* `exchange_sent`, `exchange_sent_ne_nil_iff`, `exchange_result_eq_ok_iff`: what is sent, when it is, and when a reply
  is received.
-/

import SecretSource.Http.Settings
import SecretSource.Table
import SecretSource.Text.Base64
import SecretSource.Text.Encoding
import SecretSource.Url.Address

namespace SecretSource.Http

open SecretSource.Text
open SecretSource.Url (Address)

/-- A request as a server receives it; header names are in small letters. -/
structure Request where
  method : String
  address : Address
  headers : Table String

/-- A reply: its status and its body. A truncated body ends before its announced length. -/
structure Reply where
  status : Nat
  body : List UInt8
  isTruncated : Bool := false

/-- What becomes of a request: no connection, a connection that is closed without an answer, or a reply. -/
inductive Delivery where
  | refused
  | dropped
  | answered (reply : Reply)

/-- Why a request gets no reply: a header that cannot be sent, an address that cannot be sent, or a failure
on the way. -/
inductive Obstacle where
  | unusableHeader
  | unusableAddress (address : Address)
  | failed (address : Address)

/-- The sentence for an obstacle. -/
def Obstacle.message : Obstacle → String
  | .unusableHeader => "builder error"
  | .unusableAddress address => "builder error for url (" ++ String.ofList address.written ++ ")"
  | .failed address => "error sending request for url (" ++ String.ofList address.written ++ ")"

/-- User and password of an address as a header, if they can be read. -/
def credentials (address : Address) : Option String := do
  let user ← Percent.decode? address.user
  let password := if address.password.isEmpty then none else Percent.decode? address.password
  if user.isEmpty && password.isNone then none
  else
    let pair := user ++ ':' :: password.getD []
    some ("Basic " ++ String.ofList (Base64.encode (Utf8.encode pair)))

/-- An address without a user that has become a header. -/
def visibleAddress (address : Address) : Address :=
  match credentials address with
  | some _ => address.withoutUser
  | none => address

/-- How long an address may be. -/
def longestAddress : Nat := 65534

/-- Whether an address can stand in a request: it is not too long, and its host has no sign that only names
outside the web have. -/
def isSendable (address : Address) : Bool :=
  decide (address.written.length ≤ longestAddress)
    && address.host.written.all fun letter => ! ['"', '\x60', '\x7b', '\x7d'].contains letter

/-- Whether a request with these headers can be sent to an address. -/
def canSend (address : Address) (headers : List (String × String)) : Bool :=
  headers.all (fun header => isHeaderValue header.2) && isSendable (visibleAddress address)

/-- The address that a server is told: without user, password and fragment. -/
def toldAddress (address : Address) : Address := { address.withoutUser with fragment := none }

/-- The request that is sent to an address with some headers. -/
def compose (settings : Settings) (address : Address) (headers : List (String × String)) : Request where
  method := "GET"
  address := toldAddress address
  headers := Table.ofRows <|
    [("accept", "application/json"), ("host", String.ofList address.hostText),
      ("user-agent", settings.userAgent)]
    ++ (match credentials address with
      | some value => [("authorization", value)]
      | none => [])
    ++ headers

/-- What was sent, and the result. -/
structure Exchange (ε α : Type) where
  sent : List Request
  result : Except ε α

/-- Sends a request. -/
def exchange (settings : Settings) (address : Address) (headers : List (String × String))
    (delivery : Delivery) : Exchange Obstacle Reply :=
  let visible := visibleAddress address
  if ! headers.all (fun header => isHeaderValue header.2) then ⟨[], .error .unusableHeader⟩
  else if ! isSendable visible then ⟨[], .error (.unusableAddress visible)⟩
  else
    let request := compose settings address headers
    match delivery with
    | .refused => ⟨[], .error (.failed visible)⟩
    | .dropped => ⟨[request], .error (.failed visible)⟩
    | .answered reply => ⟨[request], .ok reply⟩

/-- A request that cannot be sent is stopped whatever would become of it; one that can be is sent unless it is
refused, and its reply received. -/
theorem exchange_cases (settings : Settings) (address : Address) (headers : List (String × String)) :
    (canSend address headers = false ∧
        ∃ obstacle, ∀ delivery, exchange settings address headers delivery = ⟨[], .error obstacle⟩) ∨
      canSend address headers = true ∧
        ∃ obstacle, exchange settings address headers .refused = ⟨[], .error obstacle⟩ ∧
          exchange settings address headers .dropped = ⟨[compose settings address headers], .error obstacle⟩ ∧
          ∀ reply, exchange settings address headers (.answered reply) =
            ⟨[compose settings address headers], .ok reply⟩ := by
  unfold exchange canSend
  dsimp only
  cases headers.all fun header => isHeaderValue header.2 with
  | false => exact Or.inl ⟨rfl, _, fun _ => rfl⟩
  | true =>
    cases isSendable (visibleAddress address) with
    | false => exact Or.inl ⟨rfl, _, fun _ => rfl⟩
    | true => exact Or.inr ⟨rfl, _, rfl, rfl, fun _ => rfl⟩

section Delivered

variable {settings : Settings} {address : Address} {headers : List (String × String)} {delivery : Delivery}

/-- Nothing is sent but the request that was composed, and this once. -/
theorem exchange_sent :
    (exchange settings address headers delivery).sent = [] ∨
      (exchange settings address headers delivery).sent = [compose settings address headers] := by
  rcases exchange_cases settings address headers with ⟨-, _, stopped⟩ | ⟨-, _, refused, dropped, answered⟩
  · exact Or.inl (by rw [stopped])
  · cases delivery with
    | refused => exact Or.inl (by rw [refused])
    | dropped => exact Or.inr (by rw [dropped])
    | answered reply => exact Or.inr (by rw [answered])

/-- A request is sent exactly if it can be, and is not refused on its way. -/
theorem exchange_sent_ne_nil_iff :
    (exchange settings address headers delivery).sent ≠ [] ↔
      canSend address headers = true ∧ delivery ≠ .refused := by
  rcases exchange_cases settings address headers with ⟨cannot, _, stopped⟩ | ⟨can, _, refused, dropped, answered⟩
  · simp [stopped, cannot]
  · cases delivery with
    | refused => simp [refused]
    | dropped => simp [dropped, can]
    | answered reply => simp [answered, can]

/-- A reply is received exactly if it is the answer, and the request can be sent. -/
theorem exchange_result_eq_ok_iff {reply : Reply} :
    (exchange settings address headers delivery).result = .ok reply ↔
      canSend address headers = true ∧ delivery = .answered reply := by
  rcases exchange_cases settings address headers with ⟨cannot, _, stopped⟩ | ⟨can, _, refused, dropped, answered⟩
  · simp [stopped, cannot]
  · cases delivery with
    | refused => simp [refused]
    | dropped => simp [dropped]
    | answered reply => simp [answered, can]

end Delivered

/-- The body of a reply as text, or none if it ends too early. Some replies have no body. -/
def Reply.text? (reply : Reply) : Option String :=
  if reply.status = 204 ∨ reply.status = 304 then some ""
  else if reply.isTruncated then none
  else some (Encoding.decode reply.body)

end SecretSource.Http
