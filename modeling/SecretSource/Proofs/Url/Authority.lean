/-
**What of the text of an address decides host, user and port.**

The text of an address up to the end of its host part decides user, password, host and port, and whether the
address is accepted; what follows is path, query and fragment. The last character of that text is neither a
slash nor a control or a space, so nothing of it is lost with slashes at the end.

* `readUser_append`, `splitHost_append`, `readPort_append`: no reader looks behind the end of the host part.
* `Host.exists_last_of_read`, `Host.written_ne_nil_of_read`: how a host that is accepted ends, and that it is
  not empty.
* `exists_decides_of_readWeb`, `exists_front_of_readCleaned`: with another text behind its host part, an accepted
  address is accepted, and differs in nothing but what is read of that text.
* `exists_read_trimEnd`: without slashes at its end, an accepted address is accepted, with the same host part.
-/

import Mathlib.Data.List.Basic
import Mathlib.Data.List.TakeWhile
import SecretSource.Proofs.Except
import SecretSource.Proofs.Idna.Refusing
import SecretSource.Url.Address

namespace SecretSource.Url

open SecretSource.Text

/-! ### The end of the host part -/

/-- A text that a host part may hold. -/
def InAuthority (text : List Char) : Prop :=
  ∀ letter ∈ text, endsAuthority true letter = false

/-- A text that does not go on with a host part: it is empty, or its first character ends one. -/
def EndsAuthority (text : List Char) : Prop :=
  ∀ letter ∈ text.head?, endsAuthority true letter = true

theorem inAuthority_takeWhile (text : List Char) :
    InAuthority (text.takeWhile (! endsAuthority true ·)) := by
  intro letter member
  have passes := List.all_eq_true.mp List.all_takeWhile letter member
  rwa [Bool.not_eq_true'] at passes

theorem endsAuthority_dropWhile (text : List Char) :
    EndsAuthority (text.dropWhile (! endsAuthority true ·)) := by
  intro letter first
  have stops := List.head?_dropWhile_not (! endsAuthority true ·) text
  rw [Option.mem_def] at first
  rw [first] at stops
  simpa using stops

theorem EndsAuthority.all_head? {tail : List Char} (ended : EndsAuthority tail) :
    tail.head?.all (endsAuthority true) = true := by
  cases tail with
  | nil => rfl
  | cons letter rest => exact ended letter rfl

theorem takeWhile_append_of_endsAuthority {text tail : List Char} (inside : InAuthority text)
    (ended : EndsAuthority tail) : (text ++ tail).takeWhile (! endsAuthority true ·) = text := by
  refine takeWhile_append_of_stops (fun letter member => ?_) fun letter first => ?_
  · rw [inside letter member, Bool.not_false]
  · rw [ended letter first, Bool.not_true]

/-! ### User and password -/

theorem behindUser_suffix (authority : List Char) : behindUser authority <:+ authority := by
  rw [← List.reverse_prefix, behindUser, List.reverse_reverse]
  exact List.takeWhile_prefix _

/-- User and password end where the host part does, and nothing is wrong with them unless nothing of the host
part is behind them. -/
theorem readUser_append {authority : List Char} (inside : InAuthority authority) :
    ∃ user password, ∀ tail, EndsAuthority tail →
      readUser true (authority ++ tail) = .ok ⟨user, password, behindUser authority ++ tail⟩ ∨
        behindUser authority = [] ∧ readUser true (authority ++ tail) = .error .noHost := by
  have isEnd := behindUser_suffix authority
  have taken : ∀ tail, EndsAuthority tail →
      (authority ++ tail).takeWhile (! endsAuthority true ·) = authority := fun tail ended =>
    takeWhile_append_of_endsAuthority inside ended
  by_cases nobody : (behindUser authority).length = authority.length
  · refine ⟨[], [], fun tail ended => Or.inl ?_⟩
    unfold readUser
    simp only [taken tail ended]
    rw [if_pos nobody, isEnd.eq_of_length nobody]
  · have shorter := isEnd.length_le
    obtain ⟨before, whole⟩ := isEnd
    have cut : (authority.take (authority.length - (behindUser authority).length - 1)).length + 1 =
        before.length := by
      have lengths := congrArg List.length whole
      rw [List.length_append] at lengths
      rw [List.length_take]
      omega
    have left : ∀ tail, (authority ++ tail).drop before.length = behindUser authority ++ tail := by
      intro tail
      conv => lhs; rw [← whole, List.append_assoc, List.drop_left]
    generalize shape : authority.take (authority.length - (behindUser authority).length - 1) = credentials at cut
    refine ⟨Percent.encode isUserRefused (credentials.takeWhile (· != ':')),
      Percent.encode isUserRefused ((credentials.dropWhile (· != ':')).drop 1), fun tail ended => ?_⟩
    unfold readUser
    simp only [taken tail ended]
    rw [if_neg nobody, shape, cut, left]
    split
    · rename_i letter others goesOn
      split
      · rename_i ends
        refine Or.inr ⟨?_, rfl⟩
        cases behind : behindUser authority with
        | nil => rfl
        | cons first rest =>
          rw [behind] at goesOn
          have inAuthority : first ∈ authority :=
            (behindUser_suffix authority).subset (behind ▸ List.mem_cons_self)
          rw [← (List.cons.inj goesOn).1, inside first inAuthority] at ends
          cases ends
      · exact Or.inl (goesOn ▸ rfl)
    · exact Or.inl rfl

/-! ### Host and port -/

/-- A host ends where the host part does. -/
theorem splitHost_append {text tail : List Char} (inside : InAuthority text) (ended : EndsAuthority tail)
    (inBrackets : Bool) :
    splitHost true inBrackets (text ++ tail) =
      ((splitHost true inBrackets text).1, (splitHost true inBrackets text).2 ++ tail) := by
  induction text generalizing inBrackets with
  | nil =>
    cases tail with
    | nil => rfl
    | cons letter rest => simp [splitHost, ended letter rfl]
  | cons letter rest ih =>
    have later := ih fun other member => inside other (List.mem_cons_of_mem _ member)
    rw [List.cons_append, splitHost, splitHost]
    split
    · rfl
    · simp only [later]

/-- A host part is cut into a host and what is left, which starts with a colon if it is not empty. -/
theorem splitHost_parts {text : List Char} (inside : InAuthority text) (inBrackets : Bool) :
    (splitHost true inBrackets text).1 ++ (splitHost true inBrackets text).2 = text ∧
      ∀ letter ∈ (splitHost true inBrackets text).2.head?, letter = ':' := by
  induction text generalizing inBrackets with
  | nil => exact ⟨rfl, nofun⟩
  | cons letter rest ih =>
    have later := ih fun other member => inside other (List.mem_cons_of_mem _ member)
    rw [splitHost]
    split
    · rename_i stops
      rw [inside letter List.mem_cons_self, Bool.false_or, Bool.and_eq_true, beq_iff_eq] at stops
      refine ⟨rfl, ?_⟩
      rintro other ⟨⟩
      exact stops.1
    · exact ⟨congrArg (letter :: ·) (later _).1, (later _).2⟩

/-- Without a colon there is no port. -/
theorem readPort_of_endsAuthority {tail : List Char} (ended : EndsAuthority tail) :
    readPort tail = .ok (none, tail) := by
  unfold readPort
  split
  · exact absurd (ended ':' rfl) (by decide)
  · rfl

theorem isDigit_of_endsAuthority {letter : Char} (ends : endsAuthority true letter = true) :
    letter.isDigit = false := by
  simp only [endsAuthority, Bool.or_eq_true, beq_iff_eq, Bool.and_eq_true] at ends
  rcases ends with ((rfl | rfl) | rfl) | ⟨-, rfl⟩ <;> rfl

/-- A port ends where the host part does, and is digits up to there. -/
theorem readPort_append {text tail rest : List Char} {port : Option Nat} (inside : InAuthority text)
    (colon : ∀ letter ∈ text.head?, letter = ':') (ended : EndsAuthority tail)
    (reads : readPort (text ++ tail) = .ok (port, rest)) :
    (∀ letter ∈ text, letter = ':' ∨ letter.isDigit = true) ∧
      ∀ tail', EndsAuthority tail' → readPort (text ++ tail') = .ok (port, tail') := by
  cases text with
  | nil =>
    rw [List.nil_append, readPort_of_endsAuthority ended] at reads
    cases reads
    exact ⟨nofun, fun tail' ended' => readPort_of_endsAuthority ended'⟩
  | cons first digits =>
    obtain rfl := colon first rfl
    rw [List.cons_append, readPort] at reads
    have all : ∀ letter ∈ digits, letter.isDigit = true := by
      rw [← List.dropWhile_eq_nil_iff]
      cases left : digits.dropWhile Char.isDigit with
      | nil => rfl
      | cons letter others =>
        -- A character that is no digit is in the host part, so it does not end the port.
        have member : letter ∈ digits.dropWhile Char.isDigit := left ▸ List.mem_cons_self
        have goesOn : endsAuthority true letter = false :=
          inside letter (List.mem_cons_of_mem _ ((List.dropWhile_sublist _).subset member))
        have behind : (digits ++ tail).dropWhile Char.isDigit = letter :: (others ++ tail) := by
          rw [List.dropWhile_append, left]
          rfl
        simp [behind, goesOn] at reads
    have parts : ∀ {tail : List Char}, EndsAuthority tail →
        (digits ++ tail).takeWhile Char.isDigit = digits ∧ (digits ++ tail).dropWhile Char.isDigit = tail ∧
          tail.head?.all (endsAuthority true) = true := by
      intro tail ended
      have stops : ∀ letter ∈ tail.head?, letter.isDigit = false := fun letter first =>
        isDigit_of_endsAuthority (ended letter first)
      exact ⟨takeWhile_append_of_stops all stops, dropWhile_append_of_stops all stops, ended.all_head?⟩
    refine ⟨fun letter member => (List.mem_cons.mp member).imp_right (all letter), fun tail' ended' => ?_⟩
    obtain ⟨taken, left, isEnded⟩ := parts ended
    obtain ⟨taken', left', isEnded'⟩ := parts ended'
    rw [List.cons_append, readPort]
    simp only [taken, left, isEnded] at reads
    simp only [taken', left', isEnded']
    split at reads
    · cases reads
    · rw [if_neg ‹_›]
      cases reads
      rfl

/-! ### How a host ends -/

namespace Host

/-- A text that is read as a host ends with a character that is no control and no space. -/
theorem exists_last_of_read {text : List Char} {host : Host} (reads : read text = .ok host)
    (someCharacter : text ≠ []) : 0x20 < (text.getLast someCharacter).toNat := by
  unfold read at reads
  split at reads
  · rename_i rest
    split at reads
    · rename_i inside shape
      have ends : '[' :: rest = ('[' :: inside.reverse) ++ [']'] := by
        rw [← List.reverse_reverse rest, shape, List.reverse_cons]
        rfl
      simp only [ends, List.getLast_concat]
      decide
    · cases reads
  · split at reads
    · cases reads
    · rename_i spoken decodes
      refine Nat.lt_of_not_le fun low => ?_
      have spokenToo := Percent.mem_of_decode? decodes low (List.getLast_mem someCharacter)
      cases accepted : Idna.toAscii spoken with
      | none =>
        rw [accepted] at reads
        cases reads
      | some labels => exact absurd (Idna.visible_of_toAscii accepted _ spokenToo) (Nat.not_lt.mpr low)

/-- A host that is read is not empty. -/
theorem written_ne_nil_of_read {text : List Char} {host : Host} (reads : read text = .ok host) :
    host.written ≠ [] := by
  unfold read at reads
  split at reads
  · split at reads
    · split at reads
      · cases reads
        exact List.cons_ne_nil _ _
      · cases reads
    · cases reads
  · split at reads
    · cases reads
    · split at reads
      · cases reads
      · cases reads
      · rename_i labels noLabels _
        split at reads
        · split at reads
          · cases reads
            simp [written, ipv4Text, joined]
          · cases reads
        · cases reads
          exact noLabels

end Host

/-! ### Addresses -/

/-- An address with another text read behind its host part. -/
def Address.withTail (address : Address) (tail : Tail) : Address :=
  { address with path := tail.path, query := tail.query, fragment := tail.fragment }

/-- A text whose last character is neither a slash nor a control or a space. -/
def EndsVisibly (text : List Char) : Prop :=
  ∃ last ∈ text.getLast?, 0x20 < last.toNat ∧ last ≠ '/'

/-- A text that a reader accepts as the same address whatever follows it, but for what is read of that, if the
host part has ended. -/
structure Decides (read : List Char → Except Fault Address) (front : List Char) (address : Address) :
    Prop where
  visible : EndsVisibly front
  accepts : ∀ tail, EndsAuthority tail → read (front ++ tail) = .ok (address.withTail (readTail tail))

theorem EndsVisibly.append {text : List Char} (visible : EndsVisibly text) (before : List Char) :
    EndsVisibly (before ++ text) := by
  obtain ⟨last, ends, visible⟩ := visible
  exact ⟨last, by rw [Option.mem_def, List.getLast?_append, Option.mem_def.mp ends, Option.some_or], visible⟩

/-- The host part of an accepted address ends visibly. -/
theorem endsVisibly_of_parts {host port : List Char} {target : Host} (inside : InAuthority (host ++ port))
    (someHost : host ≠ []) (reads : Host.read host = .ok target)
    (digits : ∀ letter ∈ port, letter = ':' ∨ letter.isDigit = true) : EndsVisibly (host ++ port) := by
  have visible : 0x20 < ((host ++ port).getLast (by simp [someHost])).toNat := by
    by_cases somePort : port = []
    · subst somePort
      simp only [List.append_nil]
      exact Host.exists_last_of_read reads someHost
    · rw [List.getLast_append_of_ne_nil _ somePort]
      rcases digits _ (List.getLast_mem somePort) with colon | digit
      · rw [colon]
        decide
      · simp only [Char.isDigit, ge_iff_le, Bool.and_eq_true, decide_eq_true_eq] at digit
        exact Nat.lt_of_lt_of_le (by decide) digit.1
  refine ⟨_, List.getLast?_eq_some_getLast _, visible, ?_⟩
  intro slash
  have inAuthority := inside _ (List.getLast_mem (by simp [someHost]))
  rw [slash] at inAuthority
  cases inAuthority

/-- **The text up to the end of the host part decides whether an address is accepted**, and what it is but for
what follows the host part. -/
theorem exists_decides_of_readBehindSlashes {isSecure : Bool} {text : List Char} {address : Address}
    (reads : readBehindSlashes isSecure text = .ok address) :
    ∃ front tail, text = front ++ tail ∧ EndsAuthority tail ∧
      Decides (readBehindSlashes isSecure) front address ∧ address.host.written ≠ [] := by
  obtain ⟨part, isPart, reads⟩ := exists_of_bind_eq_ok reads
  have inside := inAuthority_takeWhile text
  have ended := endsAuthority_dropWhile text
  have whole : text.takeWhile (! endsAuthority true ·) ++ text.dropWhile (! endsAuthority true ·) = text :=
    List.takeWhile_append_dropWhile
  generalize text.takeWhile (! endsAuthority true ·) = authority at inside whole
  generalize text.dropWhile (! endsAuthority true ·) = tail at ended whole
  subst whole
  -- The user.
  obtain ⟨user, password, readsUser⟩ := readUser_append inside
  obtain rfl : part = ⟨user, password, behindUser authority ++ tail⟩ := by
    rcases readsUser tail ended with accepted | ⟨-, refused⟩
    · exact (Except.ok.inj (accepted.symm.trans isPart)).symm
    · cases refused.symm.trans isPart
  -- Host and port.
  obtain ⟨before, isAuthority⟩ := behindUser_suffix authority
  have insideToo : InAuthority (behindUser authority) := fun letter member =>
    inside letter ((behindUser_suffix authority).subset member)
  have cuts : ∀ tail, EndsAuthority tail → splitHost true false (behindUser authority ++ tail) =
      ((splitHost true false (behindUser authority)).1, (splitHost true false (behindUser authority)).2 ++ tail) :=
    fun tail ended => splitHost_append insideToo ended false
  obtain ⟨isHostPart, colon⟩ := splitHost_parts insideToo false
  generalize (splitHost true false (behindUser authority)).1 = host at cuts isHostPart
  generalize (splitHost true false (behindUser authority)).2 = port at cuts isHostPart colon
  rw [← isHostPart] at insideToo
  simp only [cuts tail ended] at reads
  split at reads
  · cases reads
  rename_i someHost
  obtain ⟨target, isHost, reads⟩ := exists_of_bind_eq_ok reads
  obtain ⟨⟨number, behind⟩, isPort, reads⟩ := exists_of_bind_eq_ok reads
  obtain ⟨digits, readsPort⟩ :=
    readPort_append (fun letter member => insideToo letter (List.mem_append_right _ member)) colon ended isPort
  cases reads
  have notEmpty : host ≠ [] := fun empty => someHost (List.isEmpty_iff.mpr empty)
  refine ⟨authority, tail, rfl, ended, ⟨?_, fun tail' ended' => ?_⟩, Host.written_ne_nil_of_read isHost⟩
  · have visible := (endsVisibly_of_parts insideToo notEmpty isHost digits).append before
    rwa [isHostPart, isAuthority] at visible
  · rcases readsUser tail' ended' with accepted | ⟨nothing, -⟩
    · unfold readBehindSlashes
      rw [accepted]
      simp only [bind, Except.bind, cuts tail' ended', isHost, readsPort tail' ended', if_neg someHost]
      rfl
    · rw [nothing] at isHostPart
      exact absurd (List.append_eq_nil_iff.mp isHostPart).1 notEmpty

/-- What ends a host part may follow its slashes. -/
theorem exists_decides_of_readWeb {isSecure : Bool} {text : List Char} {address : Address}
    (reads : readWeb isSecure text = .ok address) :
    ∃ front tail, text = front ++ tail ∧ EndsAuthority tail ∧ Decides (readWeb isSecure) front address ∧
      address.host.written ≠ [] := by
  have whole : text.takeWhile isSlash ++ text.dropWhile isSlash = text := List.takeWhile_append_dropWhile
  have slashes : ∀ letter ∈ text.takeWhile isSlash, isSlash letter = true :=
    List.all_eq_true.mp List.all_takeWhile
  obtain ⟨front, tail, body, ended, decides, someHost⟩ := exists_decides_of_readBehindSlashes reads
  refine ⟨text.takeWhile isSlash ++ front, tail, ?_, ended, ⟨decides.visible.append _, fun tail' ended' => ?_⟩,
    someHost⟩
  · rw [List.append_assoc, ← body, whole]
  · -- The front starts with the first character that is no slash.
    have stops : ∀ letter ∈ (front ++ tail').head?, isSlash letter = false := by
      intro letter first
      have noSlash := List.head?_dropWhile_not isSlash text
      obtain ⟨last, ends, -⟩ := decides.visible
      cases front with
      | nil => cases ends
      | cons start rest =>
        cases first
        rw [body] at noSlash
        simpa using noSlash
    rw [readWeb, List.append_assoc, dropWhile_append_of_stops slashes stops, decides.accepts tail' ended']

/-! ### The scheme -/

/-- A scheme does not depend on what follows its colon. -/
theorem exists_before_of_readScheme {text scheme rest : List Char}
    (reads : readScheme text = some (scheme, rest)) :
    ∃ before, text = before ++ rest ∧ ∀ rest', readScheme (before ++ rest') = some (scheme, rest') := by
  have whole : text.takeWhile isSchemePart ++ text.dropWhile isSchemePart = text :=
    List.takeWhile_append_dropWhile
  have inScheme : ∀ letter ∈ text.takeWhile isSchemePart, isSchemePart letter = true :=
    List.all_eq_true.mp List.all_takeWhile
  unfold readScheme at reads
  split at reads
  · rename_i first others behind part colon
    rw [part] at inScheme
    split at reads
    · cases reads
      refine ⟨first :: others ++ [':'], ?_, fun rest' => ?_⟩
      · rw [List.append_assoc, List.singleton_append, ← part, ← colon, whole]
      · have stops : ∀ letter ∈ (':' :: rest').head?, isSchemePart letter = false := by
          rintro letter ⟨⟩
          rfl
        unfold readScheme
        rw [List.append_assoc, List.singleton_append, takeWhile_append_of_stops inScheme stops,
          dropWhile_append_of_stops inScheme stops]
        exact if_pos ‹_›
    · cases reads
  · cases reads

/-- An address of the web was read behind its scheme, which says whether it is secure. -/
theorem exists_scheme_of_readCleaned {text : List Char} {address : Address}
    (reads : Target.readCleaned text = .ok (.web address)) :
    ∃ scheme isSecure rest, readScheme text = some (scheme, rest) ∧ readWeb isSecure rest = .ok address ∧
      ∀ text' rest', readScheme text' = some (scheme, rest') →
        Target.readCleaned text' = (readWeb isSecure rest').map .web := by
  unfold Target.readCleaned at reads
  split at reads
  · cases reads
  · rename_i scheme rest isScheme
    split at reads
    · rename_i web
      obtain ⟨given, done, same⟩ := exists_of_map_eq_ok reads
      cases same
      refine ⟨scheme, false, rest, isScheme, done, fun text' rest' isScheme' => ?_⟩
      rw [Target.readCleaned, isScheme']
      simp only [web]
    · rename_i web
      obtain ⟨given, done, same⟩ := exists_of_map_eq_ok reads
      cases same
      refine ⟨scheme, true, rest, isScheme, done, fun text' rest' isScheme' => ?_⟩
      rw [Target.readCleaned, isScheme']
      simp only [web]
    all_goals
      obtain ⟨_, _, other⟩ := exists_of_map_eq_ok reads
      cases other

/-- **The text up to the end of the host part decides whether an address is accepted**, scheme included. -/
theorem exists_front_of_readCleaned {text : List Char} {address : Address}
    (reads : Target.readCleaned text = .ok (.web address)) :
    ∃ front tail, text = front ++ tail ∧ EndsAuthority tail ∧ EndsVisibly front ∧
      address.host.written ≠ [] ∧
      ∀ tail', EndsAuthority tail' →
        Target.readCleaned (front ++ tail') = .ok (.web (address.withTail (readTail tail'))) := by
  obtain ⟨scheme, isSecure, rest, isScheme, web, sameScheme⟩ := exists_scheme_of_readCleaned reads
  obtain ⟨before, rfl, goesOn⟩ := exists_before_of_readScheme isScheme
  obtain ⟨front, tail, rfl, ended, decides, someHost⟩ := exists_decides_of_readWeb web
  refine ⟨before ++ front, tail, (List.append_assoc _ _ _).symm, ended, decides.visible.append before, someHost,
    fun tail' ended' => ?_⟩
  rw [List.append_assoc, sameScheme _ _ (goesOn _), decides.accepts tail' ended']
  rfl

/-! ### Slashes at the end -/

/-- Two addresses have the same scheme, user, password, host and port. -/
structure Address.SameAuthority (first second : Address) : Prop where
  isSecure : first.isSecure = second.isSecure
  user : first.user = second.user
  password : first.password = second.password
  host : first.host = second.host
  port : first.port = second.port

/-- A text that ends visibly is not cut into where only slashes, controls and spaces are lost. -/
theorem exists_kept_of_endsVisibly {front tail kept lost : List Char} (visible : EndsVisibly front)
    (whole : kept ++ lost = front ++ tail) (isLost : ∀ letter ∈ lost, letter.toNat ≤ 0x20 ∨ letter = '/') :
    ∃ behind, kept = front ++ behind ∧ tail = behind ++ lost := by
  rcases List.append_eq_append_iff.mp whole with ⟨gone, frontIs, lostIs⟩ | ⟨behind, keptIs, tailIs⟩
  · by_cases nothing : gone = []
    · rw [nothing, List.append_nil] at frontIs
      rw [nothing, List.nil_append] at lostIs
      exact ⟨[], by rw [frontIs, List.append_nil], by rw [lostIs, List.nil_append]⟩
    · -- Otherwise the last character of the front would be lost.
      obtain ⟨last, ends, seen, noSlash⟩ := visible
      rw [frontIs, List.getLast?_append_of_ne_nil _ nothing] at ends
      rcases isLost last (lostIs ▸ List.mem_append_left _ (List.mem_of_getLast? ends)) with low | slash
      · omega
      · exact absurd slash noSlash
  · exact ⟨behind, keptIs, tailIs⟩

/-- **Without slashes at its end an accepted address is accepted**, with the same scheme, user, password, host and
port. -/
theorem exists_read_trimEnd {text : String} {address : Address} (reads : Target.read text = .ok (.web address)) :
    ∃ base : Address, Target.read (String.ofList (trimEnd (· == '/') text.toList)) = .ok (.web base) ∧
      base.SameAuthority address := by
  obtain ⟨front, tail, whole, ended, visible, -, accepts⟩ := exists_front_of_readCleaned reads
  obtain ⟨lost, cut, isLost⟩ := exists_trim_eq_append (·.toNat ≤ 0x20) (· == '/') text.toList
  have kept : cleaned (trimEnd (· == '/') text.toList) ++ lost.filter (! isDropped ·) = front ++ tail := by
    rw [← whole, cleaned, cleaned, cut, List.filter_append]
  obtain ⟨behind, isKept, isTail⟩ := exists_kept_of_endsVisibly visible kept fun letter member => by
    simpa using isLost letter (List.mem_filter.mp member).1
  have ended' : EndsAuthority behind := by
    intro letter first
    refine ended letter ?_
    rw [isTail, Option.mem_def, List.head?_append, Option.mem_def.mp first, Option.some_or]
  refine ⟨address.withTail (readTail behind), ?_, ⟨rfl, rfl, rfl, rfl, rfl⟩⟩
  rw [Target.read, String.toList_ofList, isKept]
  exact accepts behind ended'

end SecretSource.Url
