/-
**Percent-encoded texts: what they stand for and what is in them.**

* `bytes_encode`: an encoded text stands for the bytes of the text it was made from, whatever else is
  refused, as long as the percent sign is.
* `printable_of_mem_encode`: an encoded text is in printable ASCII and holds nothing that is refused.
* `encode_eq_self_of_absent`: a text whose encoded form has no percent sign is its own encoded form.
* `mem_of_decode?`: a control or a space in an encoded text is in the text that it stands for.
-/

import SecretSource.Proofs.Except
import SecretSource.Text.Percent

namespace SecretSource.Text

namespace Utf8

/-- A text is determined by its bytes. -/
theorem encode_injective {first second : List Char} (same : encode first = encode second) :
    first = second := by
  have arrays : first.utf8Encode = second.utf8Encode := congrArg List.toByteArray same
  rw [← String.toByteArray_ofList, ← String.toByteArray_ofList, String.toByteArray_inj] at arrays
  rw [← String.toList_ofList (l := first), arrays, String.toList_ofList]

/-- A sequence that is open takes no ASCII byte next. -/
theorem lowest_of_start {byte : Nat} {pending : Pending} (opens : start byte = .inr pending) :
    0x80 ≤ pending.lowest := by
  unfold start at opens
  repeat' split at opens
  all_goals cases opens
  all_goals simp

/-- An ASCII byte is read as its character, whatever stands before it. -/
theorem mem_scan {byte : UInt8} (isAscii : byte.toNat < 0x80) {bytes : List UInt8} (member : byte ∈ bytes)
    {opened : Option Pending} (bounded : ∀ pending, opened = some pending → 0x80 ≤ pending.lowest) :
    some (Char.ofNat byte.toNat) ∈ scan opened bytes := by
  have starts : start byte.toNat = .inl (some (Char.ofNat byte.toNat)) := if_pos isAscii
  induction bytes generalizing opened with
  | nil => cases member
  | cons first rest ih =>
    rcases List.mem_cons.mp member with rfl | later
    · cases opened with
      | none =>
        rw [scan, starts]
        exact List.mem_cons_self
      | some pending =>
        have beyond := bounded pending rfl
        rw [scan, if_neg (by omega), starts]
        exact List.mem_cons_of_mem _ List.mem_cons_self
    · have nothing : ∀ pending, (none : Option Pending) = some pending → 0x80 ≤ pending.lowest := nofun
      have fresh : ∀ {value : Nat} {begun : Pending}, start value = .inr begun →
          ∀ pending, some begun = some pending → 0x80 ≤ pending.lowest := by
        rintro value begun opens pending ⟨⟩
        exact lowest_of_start opens
      cases opened with
      | none =>
        rw [scan]
        split
        · exact List.mem_cons_of_mem _ (ih later nothing)
        · exact ih later (fresh ‹_›)
      | some pending =>
        rw [scan]
        split
        · split
          · exact List.mem_cons_of_mem _ (ih later nothing)
          · exact ih later (by rintro _ ⟨⟩; exact Nat.le_refl _)
        · split
          · exact List.mem_cons_of_mem _ (List.mem_cons_of_mem _ (ih later nothing))
          · exact List.mem_cons_of_mem _ (ih later (fresh ‹_›))

/-- So it is in the text that bytes stand for. -/
theorem mem_of_decode? {bytes : List UInt8} {text : List Char} (decodes : decode? bytes = some text)
    {byte : UInt8} (isAscii : byte.toNat < 0x80) (member : byte ∈ bytes) : Char.ofNat byte.toNat ∈ text := by
  have nothing : ∀ pending, (none : Option Pending) = some pending → 0x80 ≤ pending.lowest := nofun
  have read := mem_scan isAscii member nothing
  have parts : scan none bytes = text.map some := by
    rw [← List.map_id (scan none bytes)]
    exact map_eq_of_mapM decodes
  rw [parts, List.mem_map] at read
  obtain ⟨letter, inText, same⟩ := read
  rwa [← Option.some.inj same]

end Utf8

/-- What holds of every character up to the space holds of a character that is none of the later ones. -/
theorem of_forall_low (holds : Char → Prop) (each : ∀ point : Fin 33, holds (Char.ofNat point)) {letter : Char}
    (low : letter.toNat ≤ 0x20) : holds letter := by
  have here := each ⟨letter.toNat, Nat.lt_succ_of_le low⟩
  rwa [Char.ofNat_toNat] at here

namespace Percent

variable {isRefused : Char → Bool}

/-- Whether an encoded text keeps a character as it is. -/
def isKept (isRefused : Char → Bool) (letter : Char) : Bool :=
  decide (0x20 ≤ letter.toNat) && decide (letter.toNat ≤ 0x7E) && ! isRefused letter

/-! ### One character -/

theorem encodeChar_of_isKept {letter : Char} (kept : isKept isRefused letter = true) :
    encodeChar isRefused letter = [letter] := by
  simp only [isKept, Bool.and_eq_true, decide_eq_true_eq, Bool.not_eq_true'] at kept
  refine if_neg ?_
  rintro (low | high | refused)
  · omega
  · omega
  · rw [kept.2] at refused
    cases refused

theorem encodeChar_of_not_isKept {letter : Char} (lost : isKept isRefused letter = false) :
    encodeChar isRefused letter = (String.utf8EncodeChar letter).flatMap escape := by
  refine if_pos ?_
  by_cases low : letter.toNat < 0x20
  · exact Or.inl low
  · by_cases high : 0x7E < letter.toNat
    · exact Or.inr (Or.inl high)
    · have refused : isRefused letter = true := by
        simpa [isKept, Nat.not_lt.mp low, Nat.not_lt.mp high] using lost
      exact Or.inr (Or.inr refused)

/-- The signs that a byte is written with. -/
def signs : List Char := "%0123456789ABCDEF".toList

theorem upperDigit_mem_signs : ∀ value : Fin 16, Hex.upperDigit value ∈ signs := by
  decide

theorem mem_signs_of_mem_escape {byte : UInt8} {letter : Char} (member : letter ∈ escape byte) :
    letter ∈ signs := by
  have small : byte.toNat < 256 := byte.toNat_lt
  have high := upperDigit_mem_signs ⟨byte.toNat / 16, by omega⟩
  have low := upperDigit_mem_signs ⟨byte.toNat % 16, by omega⟩
  simp only [escape, List.mem_cons, List.not_mem_nil, or_false] at member
  rcases member with rfl | rfl | rfl
  · decide
  · exact high
  · exact low

/-- Bytes that were written are read back. -/
theorem bytes_flatMap_escape (written : List UInt8) (rest : List Char) :
    bytes (written.flatMap escape ++ rest) = written ++ bytes rest := by
  induction written with
  | nil => rfl
  | cons byte others ih =>
    have small : byte.toNat < 256 := byte.toNat_lt
    have high := Hex.digitValue?_upperDigit ⟨byte.toNat / 16, by omega⟩
    have low := Hex.digitValue?_upperDigit ⟨byte.toNat % 16, by omega⟩
    simp only at high low
    have whole : UInt8.ofNat (16 * (byte.toNat / 16) + byte.toNat % 16) = byte := by
      rw [Nat.div_add_mod, UInt8.ofNat_toNat]
    rw [List.flatMap_cons, List.append_assoc]
    show bytes ('%' :: Hex.upperDigit (byte.toNat / 16) :: Hex.upperDigit (byte.toNat % 16)
      :: (others.flatMap escape ++ rest)) = _
    rw [bytes, high, low]
    simp only [whole, ih, List.cons_append]

theorem bytes_cons {letter : Char} (plain : letter ≠ '%') (rest : List Char) :
    bytes (letter :: rest) = String.utf8EncodeChar letter ++ bytes rest := by
  rw [bytes]
  rintro high low behind same
  exact absurd same plain

/-! ### Whole texts -/

/-- An encoded text stands for the bytes of the text it was made from. -/
theorem bytes_encode (percent : isRefused '%' = true) (text : List Char) :
    bytes (encode isRefused text) = Utf8.encode text := by
  induction text with
  | nil => rfl
  | cons letter rest ih =>
    show bytes (encodeChar isRefused letter ++ encode isRefused rest) =
      String.utf8EncodeChar letter ++ Utf8.encode rest
    cases kept : isKept isRefused letter with
    | true =>
      have plain : letter ≠ '%' := by
        rintro rfl
        simp [isKept, percent] at kept
      rw [encodeChar_of_isKept kept, List.singleton_append, bytes_cons plain, ih]
    | false => rw [encodeChar_of_not_isKept kept, bytes_flatMap_escape, ih]

/-- An encoded text holds signs of written bytes, and characters of the text that it keeps. -/
theorem mem_encode {text : List Char} {letter : Char} (member : letter ∈ encode isRefused text) :
    letter ∈ signs ∨ (letter ∈ text ∧ isKept isRefused letter = true) := by
  obtain ⟨source, inText, written⟩ := List.mem_flatMap.mp member
  cases kept : isKept isRefused source with
  | true =>
    rw [encodeChar_of_isKept kept, List.mem_singleton] at written
    subst written
    exact Or.inr ⟨inText, kept⟩
  | false =>
    rw [encodeChar_of_not_isKept kept] at written
    obtain ⟨byte, _, inEscape⟩ := List.mem_flatMap.mp written
    exact Or.inl (mem_signs_of_mem_escape inEscape)

/-- An encoded text is in printable ASCII. -/
theorem printable_of_mem_encode {text : List Char} {letter : Char}
    (member : letter ∈ encode isRefused text) : 0x20 ≤ letter.toNat ∧ letter.toNat ≤ 0x7E := by
  rcases mem_encode member with sign | ⟨_, kept⟩
  · have printable : signs.all (fun sign => 0x20 ≤ sign.toNat ∧ sign.toNat ≤ 0x7E) = true := by decide
    exact of_decide_eq_true (List.all_eq_true.mp printable letter sign)
  · simp only [isKept, Bool.and_eq_true, decide_eq_true_eq] at kept
    exact kept.1

/-- What is refused is not in an encoded text, if no byte is written with it. -/
theorem not_mem_encode_of_isRefused {letter : Char} (refused : isRefused letter = true)
    (noSign : letter ∉ signs) (text : List Char) : letter ∉ encode isRefused text := by
  intro member
  rcases mem_encode member with sign | ⟨_, kept⟩
  · exact noSign sign
  · simp [isKept, refused] at kept

/-- A text of characters that are kept is its own encoded form. -/
theorem encode_eq_self {text : List Char} (kept : ∀ letter ∈ text, isKept isRefused letter = true) :
    encode isRefused text = text := by
  induction text with
  | nil => rfl
  | cons letter rest ih =>
    show encodeChar isRefused letter ++ encode isRefused rest = letter :: rest
    rw [encodeChar_of_isKept (kept letter List.mem_cons_self),
      ih fun other member => kept other (List.mem_cons_of_mem _ member), List.singleton_append]

/-- A text whose encoded form has no percent sign is its own encoded form. -/
theorem encode_eq_self_of_absent {text : List Char} (absent : '%' ∉ encode isRefused text) :
    encode isRefused text = text := by
  refine encode_eq_self fun letter member => ?_
  cases kept : isKept isRefused letter with
  | true => rfl
  | false =>
    obtain ⟨byte, others, shape⟩ :=
      List.exists_cons_of_ne_nil (String.utf8EncodeChar_ne_nil (c := letter))
    have signed : '%' ∈ encodeChar isRefused letter := by
      rw [encodeChar_of_not_isKept kept, shape]
      exact List.mem_cons_self
    exact absurd (List.mem_flatMap.mpr ⟨letter, member, signed⟩) absent

/-! ### What an encoded text stands for -/

/-- A control or a space stands for itself, also where a percent sign stands before it. -/
theorem mem_bytes {letter : Char} (low : letter.toNat ≤ 0x20) {text : List Char} (member : letter ∈ text) :
    UInt8.ofNat letter.toNat ∈ bytes text := by
  have noSign : letter ≠ '%' := of_forall_low (· ≠ '%') (by decide) low
  have noDigit : Hex.digitValue? letter = none :=
    of_forall_low (fun letter => Hex.digitValue? letter = none) (by decide) low
  have written : String.utf8EncodeChar letter = [UInt8.ofNat letter.toNat] :=
    of_forall_low (fun letter => String.utf8EncodeChar letter = [UInt8.ofNat letter.toNat])
      (by decide) low
  fun_induction bytes text with
  | case1 => cases member
  | case2 high low rest first second isSecond isFirst ih =>
    rcases List.mem_cons.mp member with same | member
    · exact absurd same noSign
    rcases List.mem_cons.mp member with rfl | member
    · cases noDigit.symm.trans isFirst
    rcases List.mem_cons.mp member with rfl | member
    · cases noDigit.symm.trans isSecond
    · exact List.mem_cons_of_mem _ (ih member)
  | case3 high low rest noDigits ih =>
    rcases List.mem_cons.mp member with same | member
    · exact absurd same noSign
    · exact List.mem_cons_of_mem _ (ih member)
  | case4 other rest plain ih =>
    rcases List.mem_cons.mp member with rfl | member
    · exact List.mem_append_left _ (written ▸ List.mem_singleton.mpr rfl)
    · exact List.mem_append_right _ (ih member)

/-- So it is in the text that an encoded text stands for. -/
theorem mem_of_decode? {text spoken : List Char} (decodes : decode? text = some spoken) {letter : Char}
    (low : letter.toNat ≤ 0x20) (member : letter ∈ text) : letter ∈ spoken := by
  have small : (UInt8.ofNat letter.toNat).toNat = letter.toNat := by
    rw [UInt8.toNat_ofNat']
    omega
  have read := Utf8.mem_of_decode? decodes (by omega) (mem_bytes low member)
  rwa [small, Char.ofNat_toNat] at read

end Percent

end SecretSource.Text
