/-
**What is serialised is read back.**

States, provider blocks and what is told about a token are written as compact JSON, and from their texts the same
values are read: every attribute, null, unknown or known, every text and every number that its kind of 64 bits
holds.

* `SecretState.on_read`, `Config.on_read`, `on_readTokenBody`: each kind of value is read back from its tree.
* `serialised_readBack`: all of them are read back from their texts, and the same texts are written again.
-/

import SecretSource.Proofs.State.Attribute
import SecretSource.Proofs.Vault.Payload
import SecretSource.Provider.Config
import SecretSource.Provider.State

namespace SecretSource.Provider

open SecretSource.Json
open SecretSource.Vault

/-! ### Tables of texts -/

theorem readTexts_placeFree : readTexts.PlaceFree :=
  readTable_placeFree (readAttribute_placeFree readString_placeFree)

theorem fits_text {limit : Nat} (text : String) : (Value.text text).Fits limit := .text

theorem fits_tableToJson {limit : Nat} (room : 3 < limit) (table : TextTable) : (tableToJson table).Fits limit := by
  refine .object (by omega) fun row member => ?_
  obtain ⟨row', -, rfl⟩ := List.mem_map.mp member
  exact Attribute.fits_toJson (by omega) fits_text row'.2

/-- The attribute of a text is read back. -/
theorem on_readText {limit : Nat} (room : 2 < limit) (field : Attribute String) :
    Reader.on (readAttribute readString) limit (field.toJson .text).tree = some field :=
  on_readAttribute_toJson (readString_tells limit) (Attribute.fits_toJson room fits_text field) fun _ _ => rfl

/-- A table of texts is read back. -/
theorem on_readTexts {limit : Nat} (room : 3 < limit) (table : TextTable) :
    readTexts.on limit (tableToJson table).tree = some table :=
  on_readTable_written (readAttribute_placeFree readString_placeFree) (by omega)
    fun row _ => on_readText (by omega) row.2

theorem on_readTextsField {limit : Nat} (room : 3 < limit) (field : Attribute TextTable) :
    Reader.on (readAttribute readTexts) limit (field.toJson tableToJson).tree = some field :=
  on_readAttribute_toJson (readTable_tells _ limit) (Attribute.fits_toJson (by omega) (fits_tableToJson room) field)
    fun table _ => on_readTexts room table

/-! ### Numbers and truth values -/

/-- A version is one of 64 bits with a sign. -/
def IsVersion (field : Attribute Int) : Prop :=
  ∀ version, field = .known version → -9223372036854775808 ≤ version ∧ version ≤ 9223372036854775807

/-- A version as JSON. -/
def versionToJson (version : Int) : Value := .number (.integer version)

theorem on_readVersionField {limit : Nat} (room : 2 < limit) {field : Attribute Int} (isVersion : IsVersion field) :
    Reader.on (readAttribute readInteger) limit (field.toJson versionToJson).tree = some field :=
  on_readAttribute_toJson (readInteger_tells limit) (Attribute.fits_toJson room (fun _ => .number) field)
    fun version isKnown => on_readInteger (isVersion version isKnown).1 (isVersion version isKnown).2 limit

theorem on_readFlagField {limit : Nat} (room : 2 < limit) (field : Attribute Bool) :
    Reader.on (readAttribute readFlag) limit (field.toJson .truth).tree = some field :=
  on_readAttribute_toJson (readFlag_tells limit) (Attribute.fits_toJson room (fun _ => .truth) field) fun _ _ => rfl

/-! ### Metadata -/

namespace SecretMetadata

theorem shape_placeFree : shape.PlaceFree := by
  intro field member
  simp only [shape, List.mem_cons, List.not_mem_nil, or_false] at member
  rcases member with rfl | rfl | rfl | rfl | rfl
  · exact Field.ofSlot_placeFree (readAttribute_placeFree readString_placeFree)
  · exact Field.ofSlot_placeFree (readAttribute_placeFree readString_placeFree)
  · exact Field.ofSlot_placeFree (readAttribute_placeFree readFlag_placeFree)
  · exact Field.ofSlot_placeFree (readAttribute_placeFree readInteger_placeFree)
  · exact Field.ofSlot_placeFree (readAttribute_placeFree readTexts_placeFree)

theorem shape_apart : shape.fields.Pairwise Field.Apart := by
  simp only [shape, List.pairwise_cons, List.mem_cons, List.not_mem_nil, or_false, forall_eq_or_imp, forall_eq,
    List.Pairwise.nil, and_true, false_imp_iff, implies_true]
  and_intros
  all_goals exact Field.ofSlot_apart (fun _ _ => rfl) (fun _ _ => rfl) fun _ _ _ => rfl

theorem shape_unset : ∀ field ∈ shape.fields, field.isSet shape.blank = false := by
  intro field member
  simp only [shape, List.mem_cons, List.not_mem_nil, or_false] at member
  rcases member with rfl | rfl | rfl | rfl | rfl <;> rfl

theorem fits_toJson {limit : Nat} (room : 4 < limit) (metadata : SecretMetadata) :
    metadata.toJson.Fits limit := by
  refine .object (by omega) fun row member => ?_
  simp only [List.mem_cons, List.not_mem_nil, or_false] at member
  rcases member with rfl | rfl | rfl | rfl | rfl
  · exact Attribute.fits_toJson (by omega) fits_text _
  · exact Attribute.fits_toJson (by omega) fits_text _
  · exact Attribute.fits_toJson (by omega) (fun _ => .truth) _
  · exact Attribute.fits_toJson (by omega) (fun _ => .number) _
  · exact Attribute.fits_toJson (by omega) (fits_tableToJson (by omega)) _

/-- Metadata are read back. -/
theorem on_read {limit : Nat} (room : 4 < limit) {metadata : SecretMetadata}
    (isVersion : IsVersion metadata.version) :
    Reader.on shape.read limit metadata.toJson.tree = some metadata := by
  show Reader.on shape.read limit (.object (Shape.rowsOf shape.fields [
    (metadata.createdTime.toJson .text).tree, (metadata.deletionTime.toJson .text).tree,
    (metadata.destroyed.toJson .truth).tree, (metadata.version.toJson versionToJson).tree,
    (metadata.customMetadata.toJson tableToJson).tree])) = _
  rw [Shape.on_read_rowsOf shape_placeFree (by decide) shape_apart shape_unset rfl, if_neg (by omega)]
  have text := fun field : Attribute String => on_readText (show 2 < limit - 1 by omega) field
  simp only [shape, Shape.fill, Field.on_ofSlot, text, on_readFlagField (show 2 < limit - 1 by omega),
    on_readVersionField (show 2 < limit - 1 by omega) isVersion,
    on_readTextsField (show 3 < limit - 1 by omega), Option.map_some, Option.bind_some]
  rfl

theorem read_tells (limit : Nat) : TellsValues shape.read limit := by
  refine ⟨rfl, ?_⟩
  rw [markerTree, Shape.on_read_list shape_placeFree]
  split
  · rfl
  · rfl

end SecretMetadata

/-! ### States -/

namespace SecretState

/-- All versions of a state are numbers of 64 bits with a sign. -/
def HasVersions (state : SecretState) : Prop :=
  IsVersion state.version ∧ ∀ metadata, state.metadata = .known metadata → IsVersion metadata.version

theorem shape_placeFree : shape.PlaceFree := by
  intro field member
  simp only [shape, List.mem_cons, List.not_mem_nil, or_false] at member
  rcases member with rfl | rfl | rfl | rfl | rfl | rfl | rfl | rfl
  · exact Field.ofSlot_placeFree (readAttribute_placeFree readString_placeFree)
  · exact Field.ofSlot_placeFree (readAttribute_placeFree readString_placeFree)
  · exact Field.ofSlot_placeFree (readAttribute_placeFree readString_placeFree)
  · exact Field.ofSlot_placeFree (readAttribute_placeFree readString_placeFree)
  · exact Field.ofSlot_placeFree (readAttribute_placeFree readString_placeFree)
  · exact Field.ofSlot_placeFree (readAttribute_placeFree readTexts_placeFree)
  · exact Field.ofSlot_placeFree (readAttribute_placeFree readInteger_placeFree)
  · exact Field.ofSlot_placeFree (readAttribute_placeFree (Shape.read_placeFree SecretMetadata.shape_placeFree))

theorem shape_apart : shape.fields.Pairwise Field.Apart := by
  simp only [shape, List.pairwise_cons, List.mem_cons, List.not_mem_nil, or_false, forall_eq_or_imp, forall_eq,
    List.Pairwise.nil, and_true, false_imp_iff, implies_true]
  and_intros
  all_goals exact Field.ofSlot_apart (fun _ _ => rfl) (fun _ _ => rfl) fun _ _ _ => rfl

theorem shape_unset : ∀ field ∈ shape.fields, field.isSet shape.blank = false := by
  intro field member
  simp only [shape, List.mem_cons, List.not_mem_nil, or_false] at member
  rcases member with rfl | rfl | rfl | rfl | rfl | rfl | rfl | rfl <;> rfl

/-- A state is read back. -/
theorem on_read {limit : Nat} (room : 5 < limit) {state : SecretState} (versions : state.HasVersions) :
    Reader.on shape.read limit state.toJson.tree = some state := by
  show Reader.on shape.read limit (.object (Shape.rowsOf shape.fields [
    (state.id.toJson .text).tree, (state.mount.toJson .text).tree, (state.name.toJson .text).tree,
    (state.namespaceName.toJson .text).tree, (state.path.toJson .text).tree, (state.data.toJson tableToJson).tree,
    (state.version.toJson versionToJson).tree, (state.metadata.toJson SecretMetadata.toJson).tree])) = _
  rw [Shape.on_read_rowsOf shape_placeFree (by decide) shape_apart shape_unset rfl, if_neg (by omega)]
  have text := fun field : Attribute String => on_readText (show 2 < limit - 1 by omega) field
  have metadata : Reader.on (readAttribute SecretMetadata.shape.read) (limit - 1)
      (state.metadata.toJson SecretMetadata.toJson).tree = some state.metadata :=
    on_readAttribute_toJson (SecretMetadata.read_tells _)
      (Attribute.fits_toJson (by omega) (SecretMetadata.fits_toJson (by omega)) _)
      fun metadata isKnown => SecretMetadata.on_read (by omega) (versions.2 metadata isKnown)
  simp only [shape, Shape.fill, Field.on_ofSlot, text, on_readTextsField (show 3 < limit - 1 by omega),
    on_readVersionField (show 2 < limit - 1 by omega) versions.1, metadata, Option.map_some, Option.bind_some]
  rfl

end SecretState

/-! ### Provider blocks -/

namespace Config

theorem shape_placeFree : shape.PlaceFree := by
  intro field member
  simp only [shape, List.mem_cons, List.not_mem_nil, or_false] at member
  rcases member with rfl | rfl | rfl
  all_goals exact Field.ofSlot_placeFree (readAttribute_placeFree readString_placeFree)

theorem shape_apart : shape.fields.Pairwise Field.Apart := by
  simp only [shape, List.pairwise_cons, List.mem_cons, List.not_mem_nil, or_false, forall_eq_or_imp, forall_eq,
    List.Pairwise.nil, and_true, false_imp_iff, implies_true]
  and_intros
  all_goals exact Field.ofSlot_apart (fun _ _ => rfl) (fun _ _ => rfl) fun _ _ _ => rfl

theorem shape_unset : ∀ field ∈ shape.fields, field.isSet shape.blank = false := by
  intro field member
  simp only [shape, List.mem_cons, List.not_mem_nil, or_false] at member
  rcases member with rfl | rfl | rfl <;> rfl

/-- A provider block is read back. -/
theorem on_read {limit : Nat} (room : 3 < limit) (config : Config) :
    Reader.on shape.read limit config.toJson.tree = some config := by
  show Reader.on shape.read limit (.object (Shape.rowsOf shape.fields [
    (config.address.toJson .text).tree, (config.token.toJson .text).tree,
    (config.namespaceName.toJson .text).tree])) = _
  rw [Shape.on_read_rowsOf shape_placeFree (by decide) shape_apart shape_unset rfl, if_neg (by omega)]
  have text := fun field : Attribute String => on_readText (show 2 < limit - 1 by omega) field
  simp only [shape, Shape.fill, Field.on_ofSlot, text, Option.map_some, Option.bind_some]
  rfl

end Config

/-! ### Tokens -/

section Token

theorem tokenInfo_shape_apart : TokenInfo.shape.fields.Pairwise Field.Apart := by
  simp only [TokenInfo.shape, List.pairwise_cons, List.mem_cons, List.not_mem_nil, or_false, forall_eq_or_imp,
    forall_eq, List.Pairwise.nil, and_true, false_imp_iff, implies_true]
  and_intros
  all_goals exact Field.ofSlot_apart (fun _ _ => rfl) (fun _ _ => rfl) fun _ _ _ => rfl

theorem tokenInfo_shape_unset : ∀ field ∈ TokenInfo.shape.fields, field.isSet TokenInfo.shape.blank = false := by
  intro field member
  simp only [TokenInfo.shape, List.mem_cons, List.not_mem_nil, or_false] at member
  rcases member with rfl | rfl | rfl | rfl | rfl <;> rfl

theorem on_readTexts_list {limit : Nat} (room : 1 < limit) (texts : List String) :
    Reader.on (readList readString) limit (Value.list (texts.map .text)).tree = some texts := by
  rw [Value.tree, Value.trees_eq, on_readList readString_placeFree, if_neg (by omega), List.map_map]
  refine mapM_eq_some_of_map ?_
  rw [List.map_map]
  exact List.map_congr_left fun text _ => rfl

theorem on_readNatural (limit value : Nat) :
    readNatural.on limit (.number (some (.integer value))) = some value := by
  refine (toOption_readNatural_integer limit value .start).trans ?_
  rw [if_pos (Int.natCast_nonneg value), Int.toNat_natCast]

/-- What is told about a token is read back. -/
theorem on_readTokenInfo {limit : Nat} (room : 2 < limit) (token : TokenInfo) :
    Reader.on TokenInfo.shape.read limit token.value.tree = some token := by
  show Reader.on TokenInfo.shape.read limit (.object (Shape.rowsOf TokenInfo.shape.fields [
    .text (some token.accessor), .text (some token.displayName),
    (Value.list (token.policies.map .text)).tree, .number (some (.integer token.ttl)),
    .truth token.renewable])) = _
  rw [Shape.on_read_rowsOf TokenInfo.shape_placeFree (by decide) tokenInfo_shape_apart tokenInfo_shape_unset rfl,
    if_neg (by omega)]
  have text : ∀ text : String, readString.on (limit - 1) (.text (some text)) = some text := fun _ => rfl
  have flag : ∀ flag : Bool, readFlag.on (limit - 1) (.truth flag) = some flag := fun _ => rfl
  simp only [TokenInfo.shape, Shape.fill, Field.on_ofSlot, text, flag, on_readNatural,
    on_readTexts_list (show 1 < limit - 1 by omega), Option.map_some, Option.bind_some]
  rfl

/-- The body of a look at a token, as JSON. -/
def tokenBodyToJson (token : TokenInfo) : Value := .object [("data", token.value)]

theorem on_readTokenBody {limit : Nat} (room : 3 < limit) (token : TokenInfo) :
    Reader.on TokenBody.shape.read limit (tokenBodyToJson token).tree = some ⟨token⟩ := by
  show Reader.on TokenBody.shape.read limit (.object (Shape.rowsOf TokenBody.shape.fields [token.value.tree])) = _
  rw [Shape.on_read_rowsOf TokenBody.shape_placeFree (by decide) (List.pairwise_singleton _ _)
    (fun field member => by
      obtain rfl := List.mem_singleton.mp member
      rfl) rfl, if_neg (by omega)]
  simp only [TokenBody.shape, Shape.fill, Field.on_ofSlot, on_readTokenInfo (show 2 < limit - 1 by omega),
    Option.map_some, Option.bind_some]
  rfl

end Token

/-! ### Numbers in texts -/

theorem isSpelled_zero : (Number.integer 0).IsSpelled := isSpelled_integer (by decide) (by decide)

theorem allNumbers_textField (field : Attribute String) : (field.toJson .text).AllNumbers Number.IsSpelled :=
  Attribute.allNumbers_toJson isSpelled_zero fun _ _ => .text

theorem allNumbers_textsField (field : Attribute TextTable) :
    (field.toJson tableToJson).AllNumbers Number.IsSpelled := by
  refine Attribute.allNumbers_toJson isSpelled_zero fun table _ => .object fun row member => ?_
  obtain ⟨row', -, rfl⟩ := List.mem_map.mp member
  exact allNumbers_textField row'.2

theorem allNumbers_versionField {field : Attribute Int} (isVersion : IsVersion field) :
    (field.toJson versionToJson).AllNumbers Number.IsSpelled :=
  Attribute.allNumbers_toJson isSpelled_zero fun version isKnown =>
    .number (isSpelled_integer (isVersion version isKnown).1
      (Int.le_trans (isVersion version isKnown).2 (by decide)))

theorem SecretMetadata.allNumbers_toJson {metadata : SecretMetadata} (isVersion : IsVersion metadata.version) :
    metadata.toJson.AllNumbers Number.IsSpelled := by
  refine .object fun row member => ?_
  simp only [List.mem_cons, List.not_mem_nil, or_false] at member
  rcases member with rfl | rfl | rfl | rfl | rfl
  · exact allNumbers_textField _
  · exact allNumbers_textField _
  · exact Attribute.allNumbers_toJson isSpelled_zero fun _ _ => .truth
  · exact allNumbers_versionField isVersion
  · exact allNumbers_textsField _

theorem SecretState.allNumbers_toJson {state : SecretState} (versions : state.HasVersions) :
    state.toJson.AllNumbers Number.IsSpelled := by
  refine .object fun row member => ?_
  simp only [List.mem_cons, List.not_mem_nil, or_false] at member
  rcases member with rfl | rfl | rfl | rfl | rfl | rfl | rfl | rfl
  · exact allNumbers_textField _
  · exact allNumbers_textField _
  · exact allNumbers_textField _
  · exact allNumbers_textField _
  · exact allNumbers_textField _
  · exact allNumbers_textsField _
  · exact allNumbers_versionField versions.1
  · exact Attribute.allNumbers_toJson isSpelled_zero fun metadata isKnown =>
      SecretMetadata.allNumbers_toJson (versions.2 metadata isKnown)

theorem Config.allNumbers_toJson (config : Config) : config.toJson.AllNumbers Number.IsSpelled := by
  refine .object fun row member => ?_
  simp only [List.mem_cons, List.not_mem_nil, or_false] at member
  rcases member with rfl | rfl | rfl <;> exact allNumbers_textField _

theorem allNumbers_tokenBodyToJson {token : TokenInfo} (inRange : token.ttl ≤ 18446744073709551615) :
    (tokenBodyToJson token).AllNumbers Number.IsSpelled := by
  refine .object fun row member => ?_
  obtain rfl := List.mem_singleton.mp member
  refine .object fun row member => ?_
  simp only [List.mem_cons, List.not_mem_nil, or_false] at member
  rcases member with rfl | rfl | rfl | rfl | rfl
  · exact .text
  · exact .text
  · refine .list fun item member => ?_
    obtain ⟨text, -, rfl⟩ := List.mem_map.mp member
    exact .text
  · exact .number (isSpelled_integer (by omega) (by omega))
  · exact .truth

/-! ### Whole texts -/

/-- A record is read back from its text if it is from its tree. -/
theorem ofText_toText_of_on_read {δ α : Type} {shape : Shape δ α} (free : shape.PlaceFree) {value : Value}
    (numbers : value.AllNumbers Number.IsSpelled) {record : α}
    (made : Reader.on shape.read depthLimit value.tree = some record) :
    shape.ofText value.toText = .ok record := by
  rw [← toOption_eq_some_iff, Shape.toOption_ofText free (Value.spellsDocument numbers), made]

/-- **What is serialised is read back.** States whose versions are numbers of 64 bits with a sign, provider
blocks, and what is told about tokens whose times to live are natural numbers of 64 bits, are read from their
texts as they were, and are written as the same texts again. -/
theorem serialised_readBack :
    (∀ state : SecretState, state.HasVersions →
      SecretState.shape.ofText state.toJson.toText = .ok state ∧
      (SecretState.shape.ofText state.toJson.toText).map (·.toJson.toText) = .ok state.toJson.toText) ∧
    (∀ config : Config,
      Config.shape.ofText config.toJson.toText = .ok config ∧
      (Config.shape.ofText config.toJson.toText).map (·.toJson.toText) = .ok config.toJson.toText) ∧
    ∀ token : TokenInfo, token.ttl ≤ 18446744073709551615 →
      TokenBody.ofText (tokenBodyToJson token).toText = .ok ⟨token⟩ ∧
      (TokenBody.ofText (tokenBodyToJson token).toText).map (·.data.value.toText) = .ok token.value.toText := by
  refine ⟨fun state versions => ?_, fun config => ?_, fun token inRange => ?_⟩
  · have read : SecretState.shape.ofText state.toJson.toText = .ok state :=
      ofText_toText_of_on_read SecretState.shape_placeFree (SecretState.allNumbers_toJson versions)
        (SecretState.on_read (by decide) versions)
    exact ⟨read, by rw [read]; rfl⟩
  · have read : Config.shape.ofText config.toJson.toText = .ok config :=
      ofText_toText_of_on_read Config.shape_placeFree (Config.allNumbers_toJson config)
        (Config.on_read (by decide) config)
    exact ⟨read, by rw [read]; rfl⟩
  · have read : TokenBody.ofText (tokenBodyToJson token).toText = .ok ⟨token⟩ :=
      ofText_toText_of_on_read TokenBody.shape_placeFree (allNumbers_tokenBodyToJson inRange)
        (on_readTokenBody (by decide) token)
    exact ⟨read, by rw [read]; rfl⟩

/-- A state with values of every kind, and one of its texts unknown. -/
def mixedState : SecretState where
  mount := .known "kv"
  name := .known "app\n\"1\""
  namespaceName := .unknown
  data := .known (.ofRows [("user", .known "admin"), ("password", .unknown), ("note", .null)])
  version := .known (-9223372036854775808)
  metadata := .known { destroyed := .known true, version := .known 9223372036854775807 }

/-- The token of nobody, which never expires. -/
def lastingToken : TokenInfo := ⟨"", "nobody", ["default", "root"], 18446744073709551615, false⟩

theorem serialised_readBack_mixedState :
    SecretState.shape.ofText mixedState.toJson.toText = .ok mixedState ∧
    Config.shape.ofText (Config.ofTexts "http://vault" "t" none).toJson.toText =
      .ok (Config.ofTexts "http://vault" "t" none) ∧
    TokenBody.ofText (tokenBodyToJson lastingToken).toText = .ok ⟨lastingToken⟩ := by
  have versions : mixedState.HasVersions := by
    refine ⟨fun version isKnown => ?_, fun metadata isKnown version isKnown' => ?_⟩
    · cases isKnown
      decide
    · cases isKnown
      cases isKnown'
      decide
  exact ⟨(serialised_readBack.1 mixedState versions).1, (serialised_readBack.2.1 _).1,
    (serialised_readBack.2.2 lastingToken (by decide)).1⟩

end SecretSource.Provider
