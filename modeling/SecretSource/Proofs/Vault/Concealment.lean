/-
**What a client does with its token.**

Of a token, a client looks only at two things: whether it is blank and whether a header can hold it.
`concealed` keeps these and nothing else of a text. A client with a concealed token gives the same results
as the client itself, and sends the same requests but for the value of the header that holds the token.

* `concealed_eq_iff`: which texts are concealed alike.
* `Http.Request.withoutToken`, `Http.Exchange.withoutTokens`: what is sent, with the token taken out.
* `Client.make_concealed`: a client is built, or refused with the same failure.
* `Client.read_concealed`, `Client.lookupSelf_concealed`: its calls.
-/

import SecretSource.Proofs.Vault.Composing

/-! ### Tables -/

namespace SecretSource.Table

variable {α β : Type}

/-- The table with every value changed as its name asks for. -/
def mapNamed (change : String → α → β) (table : Table α) : Table β :=
  ⟨table.rows.map fun row => (row.1, change row.1 row.2), List.pairwise_map.mpr table.ascending⟩

theorem insertRow_mapNamed (change : String → α → β) (name : String) (value : α)
    (rows : List (String × α)) :
    insertRow name (change name value) (rows.map fun row => (row.1, change row.1 row.2)) =
      (insertRow name value rows).map fun row => (row.1, change row.1 row.2) := by
  induction rows with
  | nil => rfl
  | cons first rest ih =>
    simp only [List.map_cons, insertRow]
    split
    · rfl
    · split
      · rw [ih, List.map_cons]
      · rfl

theorem mapNamed_insert (change : String → α → β) (table : Table α) (name : String) (value : α) :
    (table.insert name value).mapNamed change =
      (table.mapNamed change).insert name (change name value) := by
  unfold mapNamed insert
  simp only [insertRow_mapNamed]

/-- Changing the values of a table is changing them row by row. -/
theorem mapNamed_ofRows (change : String → α → β) (rows : List (String × α)) :
    (ofRows rows).mapNamed change = ofRows (rows.map fun row => (row.1, change row.1 row.2)) := by
  have behind : ∀ table : Table α,
      (rows.foldl (fun table row => table.insert row.1 row.2) table).mapNamed change =
        (rows.map fun row => (row.1, change row.1 row.2)).foldl
          (fun table row => table.insert row.1 row.2) (table.mapNamed change) := by
    induction rows with
    | nil => exact fun _ => rfl
    | cons row rest ih =>
      intro table
      rw [List.foldl_cons, ih, mapNamed_insert, List.map_cons, List.foldl_cons]
  exact behind empty

end SecretSource.Table

/-! ### Requests -/

namespace SecretSource.Http

open SecretSource.Url (Address)

variable {ε α : Type}

/-- The value of a header, taken out if it is the token. -/
def tokenRemoved (name value : String) : String :=
  if name = "x-vault-token" then "" else value

/-- A request with its token taken out. -/
def Request.withoutToken (request : Request) : Request :=
  { request with headers := request.headers.mapNamed tokenRemoved }

/-- What was sent, with the tokens taken out, and the result. -/
def Exchange.withoutTokens (exchange : Exchange ε α) : Exchange ε α :=
  { exchange with sent := exchange.sent.map Request.withoutToken }

theorem Exchange.withoutTokens_eq_iff {first second : Exchange ε α} :
    first.withoutTokens = second.withoutTokens ↔
      first.sent.map Request.withoutToken = second.sent.map Request.withoutToken ∧
        first.result = second.result := by
  rw [withoutTokens, withoutTokens, Exchange.mk.injEq]

/-- Requests are composed alike from headers that differ only in the token. -/
theorem withoutToken_compose (settings : Settings) (address : Address)
    {headers headers' : List (String × String)}
    (alike : headers.map (fun header => (header.1, tokenRemoved header.1 header.2)) =
      headers'.map fun header => (header.1, tokenRemoved header.1 header.2)) :
    (compose settings address headers).withoutToken = (compose settings address headers').withoutToken := by
  unfold Request.withoutToken compose
  simp only [Table.mapNamed_ofRows, List.map_append, alike]

/-- Requests are sent alike with headers that differ only in the token, if both tokens can be sent or
neither. -/
theorem withoutTokens_exchange (settings : Settings) (address : Address)
    {headers headers' : List (String × String)}
    (usable : headers.all (fun header => isHeaderValue header.2) =
      headers'.all fun header => isHeaderValue header.2)
    (alike : headers.map (fun header => (header.1, tokenRemoved header.1 header.2)) =
      headers'.map fun header => (header.1, tokenRemoved header.1 header.2))
    (delivery : Delivery) :
    (exchange settings address headers delivery).withoutTokens =
      (exchange settings address headers' delivery).withoutTokens := by
  have composed := withoutToken_compose settings address alike
  unfold exchange
  simp only [usable]
  split
  · rfl
  · split
    · rfl
    · cases delivery <;> simp [Exchange.withoutTokens, composed]

end SecretSource.Http

namespace SecretSource.Vault

open SecretSource.Http (Delivery Exchange isHeaderValue)
open SecretSource.Url (Address)

/-! ### Tokens -/

/-- A text that stands for all texts that are blank, and can be the value of a header, just if this one is. -/
def concealed (token : String) : String :=
  match Unicode.isBlankText token, isHeaderValue token with
  | true, true => ""
  | true, false => "\n"
  | false, true => "x"
  | false, false => "x\n"

@[simp]
theorem isBlankText_concealed (token : String) :
    Unicode.isBlankText (concealed token) = Unicode.isBlankText token := by
  unfold concealed
  split <;> rename_i blank _ <;> rw [blank] <;> decide

@[simp]
theorem isHeaderValue_concealed (token : String) :
    isHeaderValue (concealed token) = isHeaderValue token := by
  unfold concealed
  split <;> rename_i _ usable <;> rw [usable] <;> decide

/-- Texts are concealed alike exactly if both are blank or neither is, and both can be the value of a header
or neither can. -/
theorem concealed_eq_iff {first second : String} :
    concealed first = concealed second ↔
      (Unicode.isBlankText first = true ↔ Unicode.isBlankText second = true) ∧
      (isHeaderValue first = true ↔ isHeaderValue second = true) := by
  constructor
  · intro same
    rw [← isBlankText_concealed first, ← isHeaderValue_concealed first, same, isBlankText_concealed,
      isHeaderValue_concealed]
    exact ⟨Iff.rfl, Iff.rfl⟩
  · rintro ⟨blank, usable⟩
    unfold concealed
    rw [Bool.eq_iff_iff.mpr blank, Bool.eq_iff_iff.mpr usable]

/-! ### Configurations -/

namespace Config

/-- A configuration with its token concealed. -/
def concealed (config : Config) : Config := { config with token := Vault.concealed config.token }

/-- A configuration is as much in order as it is with its token concealed. -/
theorem check_concealed (config : Config) : config.concealed.check = config.check := by
  unfold check
  rw [show config.concealed.token = Vault.concealed config.token from rfl, isBlankText_concealed]
  rfl

end Config

/-! ### Clients -/

namespace Client

/-- A client with its token concealed. -/
def concealed (client : Client) : Client := { client with config := client.config.concealed }

/-- A client is built with the token concealed just as it is built without that. -/
theorem make_concealed (config : Config) : make config.concealed = (make config).map concealed := by
  unfold make
  rw [config.check_concealed]
  refine bind_eq_map_bind_right fun _ => ?_
  rw [show config.concealed.baseUrl = config.baseUrl from rfl]
  dsimp only
  split
  · rfl
  · rfl
  · exact bind_eq_map_bind_right fun _ => rfl

theorem headers_concealed (client : Client) (namespaceName : Option String) :
    ((client.concealed.headers namespaceName).all fun header => isHeaderValue header.2) =
        ((client.headers namespaceName).all fun header => isHeaderValue header.2) ∧
      (client.concealed.headers namespaceName).map
          (fun header => (header.1, Http.tokenRemoved header.1 header.2)) =
        (client.headers namespaceName).map fun header => (header.1, Http.tokenRemoved header.1 header.2) := by
  constructor
  · unfold headers
    rw [List.all_cons, List.all_cons]
    exact congrArg (· && _) (isHeaderValue_concealed client.config.token)
  · unfold headers
    rw [List.map_cons, List.map_cons]
    rfl

/-- Of two requests that are sent to the same address, one with the token concealed, the results are the
same. -/
theorem send_concealed (client : Client) (address : Address) (namespaceName : Option String)
    (delivery : Delivery) :
    (client.concealed.send address namespaceName delivery).withoutTokens =
      (client.send address namespaceName delivery).withoutTokens := by
  obtain ⟨usable, alike⟩ := client.headers_concealed namespaceName
  obtain ⟨sent, result⟩ := Exchange.withoutTokens_eq_iff.mp
    (Http.withoutTokens_exchange client.settings address usable alike delivery)
  refine Exchange.withoutTokens_eq_iff.mpr ⟨sent, ?_⟩
  unfold send
  rw [show client.concealed.settings = client.settings from rfl,
    show client.concealed.config.baseUrl = client.config.baseUrl from rfl]
  simp only [result]

theorem read_concealed (client : Client) (request : SecretRequest) (delivery : Delivery) :
    (client.concealed.read request delivery).withoutTokens = (client.read request delivery).withoutTokens := by
  obtain ⟨sent, result⟩ := Exchange.withoutTokens_eq_iff.mp
    (client.send_concealed (client.secretAddress request) request.namespaceName delivery)
  refine Exchange.withoutTokens_eq_iff.mpr ⟨sent, ?_⟩
  unfold read
  rw [show client.concealed.secretAddress request = client.secretAddress request from rfl]
  simp only [result]

theorem lookupSelf_concealed (client : Client) (delivery : Delivery) :
    (client.concealed.lookupSelf delivery).withoutTokens = (client.lookupSelf delivery).withoutTokens := by
  obtain ⟨sent, result⟩ := Exchange.withoutTokens_eq_iff.mp
    (client.send_concealed (client.address (lookupPath.map String.toList)) none delivery)
  refine Exchange.withoutTokens_eq_iff.mpr ⟨sent, ?_⟩
  unfold lookupSelf
  rw [show client.concealed.address = client.address from rfl]
  simp only [result]

end Client

end SecretSource.Vault
