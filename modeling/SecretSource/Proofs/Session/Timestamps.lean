/-
**Times survive the way through the state.**

What a state shows of a time is its instant in universal time, so times that tell the same are shown alike, whatever
their offsets. Put back into the body of an answer, what is shown is read as the same instant; and whatever is shown of
a time that was read tells what this time told, so that showing and reading it once more changes nothing.

* `TellsUniversal`: a text that tells an instant in universal time.
* `ofText_of_retoldAs_created`, `ofText_of_retoldAs_deleted`: what is shown, put back into a body.
* `IsShown`, `IsShown.eq_of_same`: what is shown of a time in a body depends on what it tells only.
* `timestamps_kept`: all of this.
-/

import SecretSource.Proofs.Time.Printing
import SecretSource.Proofs.Vault.Renewing

namespace SecretSource.Provider

open SecretSource.Json
open SecretSource.Time
open SecretSource.Unicode (trimBlank)
open SecretSource.Vault

/-- A text spells a time of universal time that tells an instant. -/
def TellsUniversal (IsSpelled : ToldTime → List Char → Prop) (text : String) (instant : Instant) : Prop :=
  ∃ time, IsSpelled time text.toList ∧ time.Tells instant ∧ time.offset = 0

theorem tellsUniversal_loose (instant : Instant) : TellsUniversal IsLoose instant.text instant := by
  refine ⟨instant.told, ?_, instant.told_tells, rfl⟩
  rw [Instant.text, String.toList_ofList]
  exact instant.isLoose_written

theorem tellsUniversal_standard {instant : Instant} (notBefore : 0 ≤ instant.date.year)
    (notBehind : instant.date.year ≤ 9999) : TellsUniversal IsStandard instant.text instant := by
  refine ⟨instant.told, ?_, instant.told_tells, rfl⟩
  rw [Instant.text, String.toList_ofList]
  exact instant.isStandard_written notBefore notBehind

/-- What is shown of the time when a version was made is read as this time. -/
theorem ofText_of_retoldAs_created {body body' : String} {parsed : SecretBody}
    (reads : SecretBody.ofText body = .ok parsed) {instant : Instant}
    (retold : RetoldAs "created_time" 0 instant.text body body') :
    SecretBody.ofText body' = .ok { parsed with data.metadata.createdTime := instant } :=
  ofText_of_retoldAs VersionPayload.renewsAt_created reads retold fun limit => by
    rw [on_readCreatedTime_text, instant.readLenient_text]
    rfl

/-- What is shown of the time when a version was deleted is read as this time, if its year has four digits. -/
theorem ofText_of_retoldAs_deleted {body body' : String} {parsed : SecretBody}
    (reads : SecretBody.ofText body = .ok parsed) {instant : Instant} (notBefore : 0 ≤ instant.date.year)
    (notBehind : instant.date.year ≤ 9999) (retold : RetoldAs "deletion_time" 1 instant.text body body') :
    SecretBody.ofText body' = .ok { parsed with data.metadata.deletionTime := some instant } := by
  have isTime := instant.readStrict_text notBefore notBehind
  have notEmpty : instant.text ≠ "" := by
    intro empty
    rw [empty] at isTime
    cases isTime
  refine ofText_of_retoldAs VersionPayload.renewsAt_deleted reads retold fun limit => ?_
  rw [on_readDeletionTime_text, instant.trimBlank_text, if_neg notEmpty, isTime]
  rfl

/-- What the state shows for a time that the body of an answer tells, in either way. -/
inductive IsShown (time : ToldTime) (shown : String) : Prop where
  | created {body text path : String} {parsed : SecretBody} {instant : Instant}
      (reads : SecretBody.ofText body = .ok parsed) (tells : TellsBy "created_time" 0 text body)
      (isSpelled : IsLoose time text.toList) (isTold : time.Tells instant)
      (shows : (SecretMetadata.ofVersion (Secret.ofPayload path parsed.data).metadata).createdTime = .known shown)
  | deleted {body text path : String} {parsed : SecretBody} {instant : Instant}
      (reads : SecretBody.ofText body = .ok parsed) (tells : TellsBy "deletion_time" 1 text body)
      (isSpelled : IsStandard time (trimBlank text).toList) (isTold : time.Tells instant)
      (shows : (SecretMetadata.ofVersion (Secret.ofPayload path parsed.data).metadata).deletionTime = .known shown)

/-- It is the text of the instant that the time tells. -/
theorem IsShown.exists_instant {time : ToldTime} {shown : String} (isShown : IsShown time shown) :
    ∃ instant, time.Tells instant ∧ shown = instant.text := by
  cases isShown with
  | @created body text path parsed instant reads tells isSpelled isTold shows =>
    have isTime := readLenient_of_tellsBy reads tells
    rw [readLenient_eq_ok_iff.mpr ⟨time, isSpelled, isTold⟩] at isTime
    cases shows
    exact ⟨instant, isTold, congrArg Instant.text (Except.ok.inj isTime).symm⟩
  | @deleted body text path parsed instant reads tells isSpelled isTold shows =>
    have isTime := readStrict_eq_ok_iff.mpr ⟨time, isSpelled, isTold⟩
    rcases deletionTime_of_tellsBy reads tells with ⟨blank, -⟩ | ⟨instant', isTime', isDeleted⟩
    · rw [blank] at isTime
      cases isTime
    · rw [isTime] at isTime'
      cases isTime'
      have same : (Secret.ofPayload path parsed.data).metadata.deletionTime = some instant := isDeleted
      rw [SecretMetadata.ofVersion, same] at shows
      cases shows
      exact ⟨instant, isTold, rfl⟩

/-- **Times that tell the same are shown alike**, whatever their offsets. -/
theorem IsShown.eq_of_same {time time' : ToldTime} {shown shown' : String} (isShown : IsShown time shown)
    (isShown' : IsShown time' shown') (elapsed : time.elapsed = time'.elapsed) (nanos : time.nanos = time'.nanos) :
    shown = shown' := by
  obtain ⟨instant, tells, rfl⟩ := isShown.exists_instant
  obtain ⟨instant', tells', rfl⟩ := isShown'.exists_instant
  exact Instant.text_eq_of_tells tells tells' elapsed nanos

/-- **Times survive the way through the state.** What is shown of any instant when a version was made tells this
instant, and is read as it where it is put back; so is what is shown of an instant when it was deleted, if the year has
four digits. What is shown of such a time that was read tells the same instant as the text that it was read of, in
universal time, and putting it back changes nothing. And times that tell the same are shown alike. -/
theorem timestamps_kept :
    (∀ (told : VersionMetadata) (shown body body' : String) (parsed : SecretBody),
      (SecretMetadata.ofVersion told).createdTime = .known shown → SecretBody.ofText body = .ok parsed →
      RetoldAs "created_time" 0 shown body body' →
        TellsUniversal IsLoose shown told.createdTime ∧
          SecretBody.ofText body' = .ok { parsed with data.metadata.createdTime := told.createdTime }) ∧
    (∀ (told : VersionMetadata) (instant : Instant) (shown body body' : String) (parsed : SecretBody),
      told.deletionTime = some instant → 0 ≤ instant.date.year → instant.date.year ≤ 9999 →
      (SecretMetadata.ofVersion told).deletionTime = .known shown → SecretBody.ofText body = .ok parsed →
      RetoldAs "deletion_time" 1 shown body body' →
        TellsUniversal IsStandard shown instant ∧
          SecretBody.ofText body' = .ok { parsed with data.metadata.deletionTime := some instant }) ∧
    (∀ (body text path : String) (parsed : SecretBody) (instant : Instant),
      SecretBody.ofText body = .ok parsed → TellsBy "deletion_time" 1 text body →
      parsed.data.metadata.deletionTime = some instant → 0 ≤ instant.date.year → instant.date.year ≤ 9999 →
        ∃ time shown, IsStandard time (trimBlank text).toList ∧ time.Tells instant ∧
          (SecretMetadata.ofVersion (Secret.ofPayload path parsed.data).metadata).deletionTime = .known shown ∧
          TellsUniversal IsStandard shown instant ∧
          ∀ body', RetoldAs "deletion_time" 1 shown body body' → SecretBody.ofText body' = .ok parsed) ∧
    ∀ (time time' : ToldTime) (shown shown' : String), IsShown time shown → IsShown time' shown' →
      time.elapsed = time'.elapsed → time.nanos = time'.nanos → shown = shown' := by
  refine ⟨fun told shown body body' parsed shows reads retold => ?_,
    fun told instant shown body body' parsed isDeleted notBefore notBehind shows reads retold => ?_,
    fun body text path parsed instant reads tells isDeleted notBefore notBehind => ?_,
    fun _ _ _ _ isShown isShown' => isShown.eq_of_same isShown'⟩
  · cases shows
    exact ⟨tellsUniversal_loose _, ofText_of_retoldAs_created reads retold⟩
  · rw [SecretMetadata.ofVersion, isDeleted] at shows
    cases shows
    exact ⟨tellsUniversal_standard notBefore notBehind, ofText_of_retoldAs_deleted reads notBefore notBehind retold⟩
  · rcases deletionTime_of_tellsBy reads tells with ⟨-, nothing⟩ | ⟨instant', isTime, same⟩
    · cases nothing.symm.trans isDeleted
    · cases same.symm.trans isDeleted
      obtain ⟨time, isSpelled, isTold⟩ := readStrict_eq_ok_iff.mp isTime
      have kept : (Secret.ofPayload path parsed.data).metadata.deletionTime = some instant := isDeleted
      refine ⟨time, instant.text, isSpelled, isTold, ?_, tellsUniversal_standard notBefore notBehind,
        fun body' retold => ?_⟩
      · rw [SecretMetadata.ofVersion, kept]
        rfl
      · rw [ofText_of_retoldAs_deleted reads notBefore notBehind retold, ← isDeleted]

/-! ### A leap second at the turn of a year -/

/-- The leap second at the end of a year. -/
def leapSecond : Instant := ⟨⟨2023, 12, 31, by decide⟩, 86399, 1123456789, by decide⟩

/-- The leap second by a clock an hour ahead, where it is in the next year. -/
def leapSecondAhead : ToldTime := ⟨2024, 1, 1, 0, 59, 60, "12345678999".toList, 60⟩

/-- How that clock tells it. -/
def leapSecondText : String := "2024-01-01T00:59:60.12345678999+01:00"

/-- How it is shown. -/
def leapSecondShown : String := "2023-12-31T23:59:60.123456789Z"

theorem leapSecondAhead_tells : leapSecondAhead.Tells leapSecond :=
  ⟨by decide, by decide, by decide, by decide, by decide⟩

theorem isStandard_leapSecondAhead : IsStandard leapSecondAhead leapSecondText.toList := by
  have year : IsNumber 4 2024 "2024".toList := by decide
  have zone : IsOffset (· = [':']) (60 * (1 : Nat) + (0 : Nat)) ('+' :: ("01".toList ++ ([':'] ++ "00".toList))) :=
    .ahead (by decide) rfl (by decide) (by decide)
  have fraction : IsFraction leapSecondAhead.fraction ".12345678999".toList :=
    .some (by decide) (List.all_eq_true.mp (by decide))
  have spelled : IsStandard leapSecondAhead ("2024".toList ++ ('-' :: ("01".toList ++ ('-' :: ("01".toList ++ ('T' ::
      ("00".toList ++ (':' :: ("59".toList ++ (':' :: ("60".toList ++ (".12345678999".toList ++
        '+' :: ("01".toList ++ ([':'] ++ "00".toList)))))))))))))) :=
    .intro year rfl (by decide) (by decide) (by decide) (by decide) (by decide) (by decide) fraction zone
  exact spelled

/-- The body for a version of the year before the year zero that was deleted. -/
def endedAnswer (created deleted : String) : String :=
  "\x7b\"data\":\x7b\"metadata\":\x7b\"created_time\":\"" ++ created ++ "\",\"deletion_time\":\"" ++ deleted
    ++ "\",\"version\":3\x7d\x7d\x7d"

/-- What it spells. -/
def endedTree (created deleted : String) : Tree :=
  .object [(some "data", .object [(some "metadata", .object [(some "created_time", .text (some created)),
    (some "deletion_time", .text (some deleted)), (some "version", .number (some (.integer 3)))])])]

/-- How the year before the year zero ended half an hour behind. -/
def oldYearText : String := "-0001-12-31T23:59:59.5-00:30"

/-- How it is shown. -/
def oldYearShown : String := "0000-01-01T00:29:59.500Z"

theorem spells_endedAnswer :
    SpellsDocument (endedTree oldYearText leapSecondText) (endedAnswer oldYearText leapSecondText) :=
  .of_root (by decide +kernel) (by decide +kernel)

theorem tellsBy_endedAnswer : TellsBy "deletion_time" 1 leapSecondText (endedAnswer oldYearText leapSecondText) :=
  ⟨_, spells_endedAnswer, rfl⟩

theorem retoldAs_created_endedAnswer : RetoldAs "created_time" 0 oldYearShown (endedAnswer oldYearText leapSecondText)
    (endedAnswer oldYearShown leapSecondText) :=
  ⟨_, endedTree oldYearShown leapSecondText, spells_endedAnswer, .of_root (by decide +kernel) (by decide +kernel),
    .member [] [] (.member [] [] (.member [] _ rfl))⟩

theorem retoldAs_deleted_endedAnswer : RetoldAs "deletion_time" 1 leapSecondShown
    (endedAnswer oldYearText leapSecondText) (endedAnswer oldYearText leapSecondShown) :=
  ⟨_, endedTree oldYearText leapSecondShown, spells_endedAnswer, .of_root (by decide +kernel) (by decide +kernel),
    .member [] [] (.member [] [] (.member [(some "created_time", .text (some oldYearText))] _ rfl))⟩

/-- Both are shown as universal time, and put back they are the same; and whatever is shown of the leap second is shown
alike. -/
theorem timestamps_kept_leapSecond : ∃ parsed told,
    SecretBody.ofText (endedAnswer oldYearText leapSecondText) = .ok parsed ∧
    told = (Secret.ofPayload "kv/data/app" parsed.data).metadata ∧
    (SecretMetadata.ofVersion told).createdTime = .known oldYearShown ∧
    (SecretMetadata.ofVersion told).deletionTime = .known leapSecondShown ∧
    SecretBody.ofText (endedAnswer oldYearShown leapSecondText) = .ok parsed ∧
    SecretBody.ofText (endedAnswer oldYearText leapSecondShown) = .ok parsed ∧
    TellsUniversal IsStandard leapSecondShown leapSecond ∧ IsShown leapSecondAhead leapSecondShown ∧
    ∀ shown, IsShown leapSecond.told shown → shown = leapSecondShown := by
  have computed : (SecretBody.ofText (endedAnswer oldYearText leapSecondText)).toOption.map (fun parsed =>
      (parsed.data.metadata.createdTime.text, parsed.data.metadata.deletionTime)) =
        some (oldYearShown, some leapSecond) := by
    decide +kernel
  obtain ⟨parsed, reads, read⟩ := Option.map_eq_some_iff.mp computed
  obtain ⟨isCreated, isDeleted⟩ := Prod.mk.inj read
  rw [toOption_eq_some_iff] at reads
  obtain ⟨told, isTold⟩ : ∃ told, told = (Secret.ofPayload "kv/data/app" parsed.data).metadata := ⟨_, rfl⟩
  have deleted : told.deletionTime = some leapSecond := by
    rw [isTold]
    exact isDeleted
  have showsCreated : (SecretMetadata.ofVersion told).createdTime = .known oldYearShown := by
    rw [isTold]
    exact congrArg Attribute.known isCreated
  have showsDeleted : (SecretMetadata.ofVersion told).deletionTime = .known leapSecondShown := by
    have text : leapSecond.text = leapSecondShown := by decide +kernel
    rw [SecretMetadata.ofVersion, deleted, ← text]
    rfl
  obtain ⟨putCreated, putDeleted, keeps, alike⟩ := timestamps_kept
  have againCreated := (putCreated told _ _ _ _ showsCreated reads retoldAs_created_endedAnswer).2
  obtain ⟨universal, -⟩ := putDeleted told leapSecond _ _ _ _ deleted (by decide) (by decide) showsDeleted reads
    retoldAs_deleted_endedAnswer
  obtain ⟨_, shown, -, -, shows, -, again⟩ := keeps _ _ "kv/data/app" _ _ reads tellsBy_endedAnswer isDeleted
    (by decide) (by decide)
  rw [← isTold, showsDeleted] at shows
  cases shows
  have againDeleted := again _ retoldAs_deleted_endedAnswer
  have isShown : IsShown leapSecondAhead leapSecondShown :=
    .deleted reads tellsBy_endedAnswer isStandard_leapSecondAhead leapSecondAhead_tells (isTold ▸ showsDeleted)
  have alikeShown (shown : String) (isShown' : IsShown leapSecond.told shown) : shown = leapSecondShown :=
    alike _ _ _ _ isShown' isShown (leapSecond.told_tells.elapsed.symm.trans leapSecondAhead_tells.elapsed)
      (leapSecond.told_tells.nanos.symm.trans leapSecondAhead_tells.nanos)
  have created : told.createdTime = parsed.data.metadata.createdTime := congrArg VersionMetadata.createdTime isTold
  rw [created] at againCreated
  exact ⟨parsed, told, reads, isTold, showsCreated, showsDeleted, againCreated, againDeleted, universal, isShown,
    alikeShown⟩

end SecretSource.Provider
