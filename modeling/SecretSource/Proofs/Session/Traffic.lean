/-
**Calls that go on at the same time agree on one client.**

Whatever the schedule, the first call that comes to its last stage of configuring puts its client into the slot,
and every later one is told that it was too late. A read gets no reader if it fetches before that moment, and
that client if it fetches behind it; and the client in the slot is one whose token was looked at with success.

* `Stage.uninterrupted_configure`, `Stage.uninterrupted_read`: a call whose stages are taken one right after the
  other does what it does alone.
* `Stage.Follows`: what a call has found out when it has come to a stage; `Traffic.follows_after`: all calls have.
* `arrivals`: the callers that came to the last stage of configuring, in order; `slot_after`: the first of
  them decides what is in the slot.
* `Agreement`: what it means that calls agree on one client; `traffic_agrees`: they do under every schedule.
-/

import Mathlib.Data.List.Induction
import SecretSource.Proofs.Session.Configuring
import SecretSource.Provider.Traffic

namespace SecretSource.Provider

open SecretSource.Http (Delivery)
open SecretSource.Vault (SecretRequest)

/-! ### One call alone -/

namespace Stage

/-- Takes the stages of a call one right after the other. -/
def uninterrupted (slot : Slot) (stage : Stage) : Slot × Stage :=
  let first := stage.advance slot
  let second := first.2.advance first.1
  second.2.advance second.1

/-- Configuring in stages is configuring. -/
theorem uninterrupted_configure (call : ConfigureCall) (version : String) (slot : Slot) :
    let outcome := configure { version, environment := call.environment, slot } call.config call.lookup
      call.diagnostics
    uninterrupted slot (.called (.configure call)) =
      (outcome.provider.slot, .configured outcome.returned outcome.diagnostics outcome.sent) := by
  intro outcome
  simp only [uninterrupted, advance, outcome, configure, connect]
  cases prepare call.environment call.config with
  | error failure => rfl
  | ok client =>
    simp only
    cases (verify client call.lookup).result with
    | error failure => rfl
    | ok token =>
      cases slot with
      | none => rfl
      | some present => rfl

/-- What a read ends with that fetched a reader is what it gives with this reader in the slot. -/
theorem ended_eq {call : ReadCall} {request : SecretRequest} (built : buildRequest call.state = .ok request)
    (reader : SecretReader) :
    call.ended request reader = .answered (readState (some reader) call.state call.delivery call.diagnostics) := by
  simp only [readState, built, Slot.reader, ReadCall.ended]
  cases (reader.read request call.delivery).result <;> rfl

/-- Reading in stages is reading. -/
theorem uninterrupted_read (call : ReadCall) (slot : Slot) :
    uninterrupted slot (.called (.read call)) =
      (slot, .answered (readState slot call.state call.delivery call.diagnostics)) := by
  simp only [uninterrupted, advance]
  cases built : buildRequest call.state with
  | error errors => simp only [readState, built]
  | ok request =>
    simp only
    cases slot with
    | none => simp only [Slot.reader, readState, built]
    | some reader => simp only [Slot.reader, ended_eq built]

/-! ### One stage -/

/-- A call that has ended stays as it is. -/
theorem advance_of_ended {stage : Stage} (ended : stage.stagesLeft = 0) (slot : Slot) :
    stage.advance slot = (slot, stage) := by
  cases stage with
  | configured returned diagnostics sent => rfl
  | answered outcome => rfl
  | _ => cases ended

/-- With every stage that is taken, one stage less is left. -/
theorem stagesLeft_advance (stage : Stage) (slot : Slot) :
    (stage.advance slot).2.stagesLeft ≤ stage.stagesLeft - 1 := by
  cases stage with
  | called call =>
    cases call with
    | configure call =>
      simp only [advance]
      cases prepare call.environment call.config <;> simp [stagesLeft, ConfigureCall.failed]
    | read call =>
      simp only [advance]
      cases buildRequest call.state <;> simp [stagesLeft]
  | prepared call client =>
    simp only [advance]
    cases (verify client call.lookup).result <;> simp [stagesLeft, ConfigureCall.failed]
  | verified call client sent =>
    simp only [advance]
    cases slot.install (.client client) <;> simp [stagesLeft, ConfigureCall.failed]
  | requested call request =>
    simp only [advance]
    cases slot.reader <;> simp [stagesLeft]
  | fetched call request reader =>
    simp only [advance, ReadCall.ended]
    cases (reader.read request call.delivery).result <;> simp [stagesLeft]
  | configured returned diagnostics sent => exact Nat.le_refl 0
  | answered outcome => exact Nat.le_refl 0

end Stage

/-- A client is accepted for a block if it is the one that is built for it and its look at its token succeeds. -/
structure ConfigureCall.Accepts (call : ConfigureCall) (client : Vault.Client) : Prop where
  prepares : prepare call.environment call.config = .ok client
  looks : ∃ token, (client.lookupSelf call.lookup).result = .ok token

/-- No more than one client is accepted for a block. -/
theorem ConfigureCall.Accepts.unique {call : ConfigureCall} {client client' : Vault.Client}
    (accepts : call.Accepts client) (accepts' : call.Accepts client') : client = client' :=
  Except.ok.inj (accepts.prepares.symm.trans accepts'.prepares)

/-- What a call has found out when it has come to a stage. -/
def Stage.Follows (call : Call) : Stage → Prop
  | .called begun => call = begun
  | .prepared begun client =>
    call = .configure begun ∧ prepare begun.environment begun.config = .ok client
  | .verified begun client sent =>
    call = .configure begun ∧ begun.Accepts client ∧ sent = (client.lookupSelf begun.lookup).sent
  | .configured _ _ _ => ∃ begun, call = .configure begun
  | .requested begun request | .fetched begun request _ =>
    call = .read begun ∧ buildRequest begun.state = .ok request
  | .answered _ => ∃ begun, call = .read begun

/-- What a call has found out is true in its next stage, too. -/
theorem Stage.Follows.advance {call : Call} {stage : Stage} (follows : stage.Follows call) (slot : Slot) :
    (stage.advance slot).2.Follows call := by
  cases stage with
  | called begun =>
    cases follows
    cases call with
    | configure begun =>
      simp only [Stage.advance]
      cases prepared : prepare begun.environment begun.config with
      | error failure => exact ⟨begun, rfl⟩
      | ok client => exact ⟨rfl, prepared⟩
    | read begun =>
      simp only [Stage.advance]
      cases built : buildRequest begun.state with
      | error errors => exact ⟨begun, rfl⟩
      | ok request => exact ⟨rfl, built⟩
  | prepared begun client =>
    obtain ⟨same, prepares⟩ := follows
    simp only [Stage.advance]
    cases looked : (verify client begun.lookup).result with
    | error failure => exact ⟨begun, same⟩
    | ok token => exact ⟨same, ⟨prepares, token, mapError_eq_ok_iff.mp looked⟩, rfl⟩
  | verified begun client sent =>
    simp only [Stage.advance]
    cases slot.install (.client client) <;> exact ⟨begun, follows.1⟩
  | requested begun request =>
    simp only [Stage.advance]
    cases slot.reader with
    | error failure => exact ⟨begun, follows.1⟩
    | ok reader => exact follows
  | fetched begun request reader =>
    simp only [Stage.advance, ReadCall.ended]
    cases (reader.read request begun.delivery).result <;> exact ⟨begun, follows.1⟩
  | configured returned diagnostics sent => exact follows
  | answered outcome => exact follows

/-! ### One turn of many calls -/

namespace Traffic

variable {ι : Type} [DecidableEq ι] {calls : ι → Call}

theorem advance_stages_self (traffic : Traffic ι) (caller : ι) :
    (traffic.advance caller).stages caller = ((traffic.stages caller).advance traffic.slot).2 :=
  if_pos rfl

/-- What the turn of a caller makes of the slot and of its call. -/
theorem stage_advance (traffic : Traffic ι) (caller : ι) :
    (traffic.stages caller).advance traffic.slot =
      ((traffic.advance caller).slot, (traffic.advance caller).stages caller) := by
  rw [advance_stages_self]
  rfl

theorem advance_stages_of_ne (traffic : Traffic ι) {caller other : ι} (differs : other ≠ caller) :
    (traffic.advance caller).stages other = traffic.stages other :=
  if_neg differs

theorem after_concat (schedule : List ι) (caller : ι) :
    after calls (schedule ++ [caller]) = (after calls schedule).advance caller := by
  rw [after, List.foldl_append]
  rfl

/-- The stage of the caller whose turn it is, behind its turn. -/
theorem after_concat_self (schedule : List ι) (caller : ι) :
    (after calls (schedule ++ [caller])).stages caller =
      (((after calls schedule).stages caller).advance (after calls schedule).slot).2 := by
  rw [after_concat, advance_stages_self]

/-- **A call knows at every stage what it has found out**, whatever the others do. -/
theorem follows_after (calls : ι → Call) (schedule : List ι) (caller : ι) :
    ((after calls schedule).stages caller).Follows (calls caller) := by
  induction schedule using List.reverseRecOn with
  | nil => rfl
  | append_singleton schedule next ih =>
    by_cases same : caller = next
    · subst same
      rw [after_concat_self]
      exact ih.advance _
    · rw [after_concat, advance_stages_of_ne _ same]
      exact ih

/-- With every turn of its caller, one stage less of a call is left. -/
theorem stagesLeft_after (calls : ι → Call) (schedule : List ι) (caller : ι) :
    ((after calls schedule).stages caller).stagesLeft ≤ 3 - schedule.count caller := by
  induction schedule using List.reverseRecOn with
  | nil => exact Nat.le_refl 3
  | append_singleton schedule next ih =>
    by_cases same : caller = next
    · subst same
      have fewer := ((after calls schedule).stages caller).stagesLeft_advance (after calls schedule).slot
      rw [after_concat_self, List.count_append, List.count_singleton_self]
      omega
    · have others : next ≠ caller := fun equal => same equal.symm
      rw [after_concat, advance_stages_of_ne _ same, List.count_append, List.count_singleton,
        if_neg (mt beq_iff_eq.mp others), Nat.add_zero]
      exact ih

/-- While it is not its caller's turn, a call stays as it is. -/
theorem stages_after_append_of_not_mem (earlier : List ι) {later : List ι} {caller : ι}
    (absent : caller ∉ later) :
    (after calls (earlier ++ later)).stages caller = (after calls earlier).stages caller := by
  induction later using List.reverseRecOn with
  | nil => rw [List.append_nil]
  | append_singleton later next ih =>
    rw [List.mem_append, List.mem_singleton, not_or] at absent
    rw [← List.append_assoc, after_concat, advance_stages_of_ne _ absent.2]
    exact ih absent.1

/-- A call that has ended stays as it is. -/
theorem stages_after_append_of_ended {earlier : List ι} {caller : ι}
    (ended : ((after calls earlier).stages caller).stagesLeft = 0) (later : List ι) :
    (after calls (earlier ++ later)).stages caller = (after calls earlier).stages caller := by
  induction later using List.reverseRecOn with
  | nil => rw [List.append_nil]
  | append_singleton later next ih =>
    rw [← List.append_assoc]
    by_cases same : caller = next
    · subst same
      rw [after_concat_self, ih, Stage.advance_of_ended ended]
    · rw [after_concat, advance_stages_of_ne _ same, ih]

/-- A call stays as it ends in its last turn. -/
theorem stages_of_lastTurn {earlier : List ι} {caller : ι}
    (ended : (((after calls earlier).stages caller).advance (after calls earlier).slot).2.stagesLeft = 0)
    (later : List ι) :
    (after calls (earlier ++ caller :: later)).stages caller =
      (((after calls earlier).stages caller).advance (after calls earlier).slot).2 := by
  rw [← after_concat_self] at ended ⊢
  rw [← List.singleton_append, ← List.append_assoc, stages_after_append_of_ended ended]

/-- A call that takes its three turns one right after the other is not interrupted. -/
theorem after_undisturbed {earlier : List ι} {caller : ι} (absent : caller ∉ earlier) :
    Stage.uninterrupted (after calls earlier).slot (.called (calls caller)) =
      ((after calls (earlier ++ [caller, caller, caller])).slot,
        (after calls (earlier ++ [caller, caller, caller])).stages caller) := by
  have begun : (after calls earlier).stages caller = .called (calls caller) :=
    stages_after_append_of_not_mem [] absent
  have oneByOne : earlier ++ [caller, caller, caller] = ((earlier ++ [caller]) ++ [caller]) ++ [caller] := by
    simp only [List.append_assoc, List.cons_append, List.nil_append]
  rw [oneByOne, after_concat, after_concat, after_concat, ← begun, Stage.uninterrupted,
    stage_advance, stage_advance, stage_advance]

/-- What such a call does to the slot and how it ends, whatever comes later. -/
theorem ends_undisturbed {earlier : List ι} {caller : ι} {slot : Slot} {stage : Stage} (absent : caller ∉ earlier)
    (alone : Stage.uninterrupted (after calls earlier).slot (.called (calls caller)) = (slot, stage))
    (ended : stage.stagesLeft = 0) (later : List ι) :
    (after calls (earlier ++ [caller, caller, caller])).slot = slot ∧
      (after calls (earlier ++ [caller, caller, caller] ++ later)).stages caller = stage := by
  obtain ⟨sameSlot, sameStage⟩ := Prod.mk.inj ((after_undisturbed absent).symm.trans alone)
  refine ⟨sameSlot, ?_⟩
  rw [stages_after_append_of_ended (by rw [sameStage, ended]), sameStage]

end Traffic

/-! ### Who comes to the last stage of configuring -/

/-- Whether the next stage of a call writes the slot, if the slot is empty. -/
def Stage.isArriving : Stage → Bool
  | .verified _ _ _ => true
  | _ => false

theorem Stage.exists_of_isArriving {stage : Stage} (arriving : stage.isArriving = true) :
    ∃ call client sent, stage = .verified call client sent := by
  cases stage with
  | verified call client sent => exact ⟨call, client, sent, rfl⟩
  | _ => cases arriving

/-- Only configuring in its last stage writes the slot. -/
theorem Stage.advance_slot {stage : Stage} (other : stage.isArriving = false) (slot : Slot) :
    (stage.advance slot).1 = slot := by
  cases stage with
  | verified call client sent => cases other
  | called call =>
    cases call with
    | configure call =>
      simp only [advance]
      cases prepare call.environment call.config <;> rfl
    | read call =>
      simp only [advance]
      cases buildRequest call.state <;> rfl
  | prepared call client =>
    simp only [advance]
    cases (verify client call.lookup).result <;> rfl
  | requested call request =>
    simp only [advance]
    cases slot.reader <;> rfl
  | fetched call request reader => rfl
  | configured returned diagnostics sent => rfl
  | answered outcome => rfl

/-- Configuring ends in its last stage, or before it because there is no client that is accepted. -/
theorem Stage.configured_of_advance {call : Call} {stage : Stage} {slot : Slot} {returned : Bool}
    {diagnostics : Diagnostics} {sent : List Http.Request} (follows : stage.Follows call)
    (ends : (stage.advance slot).2 = .configured returned diagnostics sent) :
    stage = .configured returned diagnostics sent ∨ stage.isArriving = true ∨
      (returned = false ∧ ∃ begun, call = .configure begun ∧ ∀ client, ¬ begun.Accepts client) := by
  cases stage with
  | configured returned' diagnostics' sent' => exact Or.inl ends
  | verified begun client sent' => exact Or.inr (Or.inl rfl)
  | called begun =>
    cases follows
    cases call with
    | configure begun =>
      simp only [advance] at ends
      cases prepared : prepare begun.environment begun.config with
      | error failure =>
        rw [prepared] at ends
        cases ends
        refine Or.inr (Or.inr ⟨rfl, begun, rfl, fun client accepts => ?_⟩)
        cases prepared.symm.trans accepts.prepares
      | ok client =>
        rw [prepared] at ends
        cases ends
    | read begun =>
      simp only [advance] at ends
      cases built : buildRequest begun.state <;> rw [built] at ends <;> cases ends
  | prepared begun client =>
    obtain ⟨same, prepares⟩ := follows
    simp only [advance] at ends
    cases looked : (verify client begun.lookup).result with
    | error failure =>
      rw [looked] at ends
      cases ends
      refine Or.inr (Or.inr ⟨rfl, begun, same, fun client' accepts => ?_⟩)
      cases prepares.symm.trans accepts.prepares
      obtain ⟨token, looks⟩ := accepts.looks
      cases looked.symm.trans (mapError_eq_ok_iff.mpr looks)
    | ok token =>
      rw [looked] at ends
      cases ends
  | requested begun request =>
    simp only [advance] at ends
    cases read : slot.reader <;> rw [read] at ends <;> cases ends
  | fetched begun request reader =>
    simp only [advance, ReadCall.ended] at ends
    cases read : (reader.read request begun.delivery).result <;> rw [read] at ends <;> cases ends
  | answered outcome => cases ends

/-- A read that has a request comes to its last stage through the stage in which it fetches. -/
theorem Stage.requested_of_advance {call : ReadCall} {request : SecretRequest} {stage : Stage} {slot : Slot}
    (follows : stage.Follows (.read call)) (built : buildRequest call.state = .ok request)
    (behind : (stage.advance slot).2.stagesLeft ≤ 1) :
    stage = .requested call request ∨ stage.stagesLeft ≤ 1 := by
  cases stage with
  | called begun =>
    cases follows
    simp only [advance, built, stagesLeft] at behind
    omega
  | requested begun request' =>
    obtain ⟨same, built'⟩ := follows
    cases same
    cases built.symm.trans built'
    exact Or.inl rfl
  | prepared begun client => cases follows.1
  | verified begun client sent => cases follows.1
  | configured returned diagnostics sent =>
    obtain ⟨begun, same⟩ := follows
    cases same
  | fetched begun request' reader => exact Or.inr (Nat.le_refl 1)
  | answered outcome => exact Or.inr (Nat.zero_le 1)

section Schedules

open Traffic

variable {ι : Type} [DecidableEq ι] {calls : ι → Call}

/-- The callers that come to the last stage of configuring, in the order in which they do. -/
def arrivalsFrom (traffic : Traffic ι) : List ι → List ι
  | [] => []
  | next :: rest =>
    (if (traffic.stages next).isArriving then [next] else []) ++ arrivalsFrom (traffic.advance next) rest

/-- The callers that come to the last stage of configuring, of calls that have just begun. -/
def arrivals (calls : ι → Call) (schedule : List ι) : List ι := arrivalsFrom (Traffic.start calls) schedule

theorem arrivalsFrom_append (traffic : Traffic ι) (earlier later : List ι) :
    arrivalsFrom traffic (earlier ++ later) =
      arrivalsFrom traffic earlier ++ arrivalsFrom (earlier.foldl Traffic.advance traffic) later := by
  induction earlier generalizing traffic with
  | nil => rfl
  | cons next rest ih => rw [List.cons_append, arrivalsFrom, ih, arrivalsFrom, List.append_assoc, List.foldl_cons]

theorem arrivals_append (earlier later : List ι) :
    arrivals calls (earlier ++ later) = arrivals calls earlier ++ arrivalsFrom (after calls earlier) later :=
  arrivalsFrom_append _ _ _

theorem arrivals_concat (schedule : List ι) (caller : ι) :
    arrivals calls (schedule ++ [caller]) =
      arrivals calls schedule ++ if ((after calls schedule).stages caller).isArriving then [caller] else [] := by
  rw [arrivals_append, arrivalsFrom, arrivalsFrom, List.append_nil]

/-- Whoever comes to the last stage has a turn in which it does. -/
theorem exists_of_mem_arrivalsFrom {traffic : Traffic ι} {schedule : List ι} {caller : ι}
    (member : caller ∈ arrivalsFrom traffic schedule) :
    ∃ earlier later, schedule = earlier ++ caller :: later ∧
      ((earlier.foldl Traffic.advance traffic).stages caller).isArriving = true := by
  induction schedule generalizing traffic with
  | nil => cases member
  | cons next rest ih =>
    rcases List.mem_append.mp member with now | behind
    · by_cases arriving : (traffic.stages next).isArriving = true
      · rw [if_pos arriving, List.mem_singleton] at now
        subst now
        exact ⟨[], rest, rfl, arriving⟩
      · rw [if_neg arriving] at now
        cases now
    · obtain ⟨earlier, later, rfl, arriving⟩ := ih behind
      exact ⟨next :: earlier, later, rfl, arriving⟩

/-- Whoever comes to the last stage comes behind those that came before. -/
theorem arrivals_of_isArriving {earlier : List ι} {caller : ι}
    (arriving : ((after calls earlier).stages caller).isArriving = true) (later : List ι) :
    arrivals calls (earlier ++ caller :: later) =
      arrivals calls earlier ++ caller :: arrivalsFrom (after calls (earlier ++ [caller])) later := by
  rw [arrivals_append, arrivalsFrom, if_pos arriving, after_concat]
  rfl

/-- Whoever comes to the last stage has a turn in which it does, with a client that is accepted. -/
theorem exists_arrival {schedule : List ι} {caller : ι} (member : caller ∈ arrivals calls schedule) :
    ∃ earlier later call client, schedule = earlier ++ caller :: later ∧
      calls caller = .configure call ∧ call.Accepts client ∧
      (after calls earlier).stages caller = .verified call client (client.lookupSelf call.lookup).sent ∧
      ∃ others, arrivals calls schedule = arrivals calls earlier ++ caller :: others := by
  obtain ⟨earlier, later, rfl, arriving⟩ := exists_of_mem_arrivalsFrom member
  obtain ⟨call, client, sent, stage⟩ := Stage.exists_of_isArriving arriving
  have stage' : (after calls earlier).stages caller = .verified call client sent := stage
  have follows := follows_after calls earlier caller
  rw [stage'] at follows
  obtain ⟨configures, accepts, rfl⟩ := follows
  exact ⟨earlier, later, call, client, rfl, configures, accepts, stage, _, arrivals_of_isArriving arriving later⟩

/-- Whoever came to the last stage has ended. -/
theorem ended_of_mem_arrivals {schedule : List ι} {caller : ι} (member : caller ∈ arrivals calls schedule) :
    ((after calls schedule).stages caller).stagesLeft = 0 := by
  obtain ⟨earlier, later, rfl, arriving⟩ := exists_of_mem_arrivalsFrom member
  have fewer := ((after calls earlier).stages caller).stagesLeft_advance (after calls earlier).slot
  obtain ⟨call, client, sent, stage⟩ := Stage.exists_of_isArriving arriving
  have one : ((after calls earlier).stages caller).stagesLeft = 1 := congrArg Stage.stagesLeft stage
  rw [stages_of_lastTurn (by omega)]
  omega

/-- Nobody comes to the last stage twice. -/
theorem nodup_arrivals (calls : ι → Call) (schedule : List ι) : (arrivals calls schedule).Nodup := by
  induction schedule using List.reverseRecOn with
  | nil => exact List.nodup_nil
  | append_singleton schedule next ih =>
    rw [arrivals_concat]
    by_cases arriving : ((after calls schedule).stages next).isArriving = true
    · rw [if_pos arriving, List.nodup_append]
      refine ⟨ih, List.pairwise_singleton _ next, fun caller member other isNext same => ?_⟩
      rw [← same, List.mem_singleton] at isNext
      subst isNext
      have ended := ended_of_mem_arrivals member
      obtain ⟨call, client, sent, stage⟩ := Stage.exists_of_isArriving arriving
      rw [stage] at ended
      cases ended
    · rw [if_neg arriving, List.append_nil]
      exact ih

/-- Whoever has ended configuring came to the last stage, or fails because there is no client that is accepted. -/
theorem configured_cases {schedule : List ι} {caller : ι} {returned : Bool} {diagnostics : Diagnostics}
    {sent : List Http.Request}
    (ends : (after calls schedule).stages caller = .configured returned diagnostics sent) :
    caller ∈ arrivals calls schedule ∨
      (returned = false ∧ ∃ call, calls caller = .configure call ∧ ∀ client, ¬ call.Accepts client) := by
  induction schedule using List.reverseRecOn with
  | nil => cases ends
  | append_singleton schedule next ih =>
    rw [arrivals_concat]
    by_cases same : caller = next
    · subst same
      rw [after_concat_self] at ends
      rcases Stage.configured_of_advance (follows_after calls schedule caller) ends with before | arriving | refused
      · exact (ih before).imp_left (List.mem_append_left _)
      · rw [if_pos arriving]
        exact Or.inl (List.mem_append_right _ (List.mem_singleton.mpr rfl))
      · exact Or.inr refused
    · rw [after_concat, advance_stages_of_ne _ same] at ends
      exact (ih ends).imp_left (List.mem_append_left _)

/-- A read that has a request and came to its last stage had a turn in which it fetched. -/
theorem exists_fetch {schedule : List ι} {caller : ι} {call : ReadCall} {request : SecretRequest}
    (reads : calls caller = .read call) (built : buildRequest call.state = .ok request)
    (behind : ((after calls schedule).stages caller).stagesLeft ≤ 1) :
    ∃ earlier later, schedule = earlier ++ caller :: later ∧
      (after calls earlier).stages caller = .requested call request := by
  induction schedule using List.reverseRecOn with
  | nil => exact absurd (show 3 ≤ 1 from behind) (by decide)
  | append_singleton schedule next ih =>
    have earlier : ((after calls schedule).stages caller).stagesLeft ≤ 1 →
        ∃ earlier later, schedule ++ [next] = earlier ++ caller :: later ∧
          (after calls earlier).stages caller = .requested call request := by
      intro before
      obtain ⟨earlier, later, same, fetches⟩ := ih before
      exact ⟨earlier, later ++ [next], by rw [same, List.append_assoc, List.cons_append], fetches⟩
    by_cases same : caller = next
    · subst same
      rw [after_concat_self] at behind
      have follows : ((after calls schedule).stages caller).Follows (.read call) :=
        reads ▸ follows_after calls schedule caller
      rcases Stage.requested_of_advance follows built behind with now | before
      · exact ⟨schedule, [], rfl, now⟩
      · exact earlier before
    · rw [after_concat, advance_stages_of_ne _ same] at behind
      exact earlier behind

/-! ### What is in the slot -/

/-- A client wins if it is the one of the first caller that came to the last stage of configuring. -/
def Wins (calls : ι → Call) (schedule : List ι) (client : Vault.Client) : Prop :=
  ∃ first call, (arrivals calls schedule).head? = some first ∧ calls first = .configure call ∧
    call.Accepts client

/-- Who has won stays the winner. -/
theorem Wins.append {earlier : List ι} {client : Vault.Client} (wins : Wins calls earlier client)
    (later : List ι) : Wins calls (earlier ++ later) client := by
  obtain ⟨first, call, isFirst, configures, accepts⟩ := wins
  refine ⟨first, call, ?_, configures, accepts⟩
  rw [arrivals_append, List.head?_append, isFirst]
  rfl

/-- **The first caller that comes to the last stage of configuring decides what is in the slot.** -/
theorem slot_after (calls : ι → Call) (schedule : List ι) :
    (arrivals calls schedule = [] ∧ (after calls schedule).slot = none) ∨
      ∃ client, Wins calls schedule client ∧ (after calls schedule).slot = some (.client client) := by
  -- A turn changes the slot only if its caller arrives, and then only if the slot is empty.
  induction schedule using List.reverseRecOn with
  | nil => exact Or.inl ⟨rfl, rfl⟩
  | append_singleton schedule next ih =>
    have slot : (after calls (schedule ++ [next])).slot =
        (((after calls schedule).stages next).advance (after calls schedule).slot).1 := by
      rw [after_concat]
      rfl
    rcases ih with ⟨nobody, empty⟩ | ⟨client, wins, filled⟩
    · rw [slot, arrivals_concat, nobody, empty]
      cases arriving : ((after calls schedule).stages next).isArriving with
      | false => exact Or.inl ⟨rfl, Stage.advance_slot arriving none⟩
      | true =>
        have follows := follows_after calls schedule next
        obtain ⟨call, client, sent, stage⟩ := Stage.exists_of_isArriving arriving
        rw [stage] at follows ⊢
        refine Or.inr ⟨client, ⟨next, call, ?_, follows.1, follows.2.1⟩, rfl⟩
        rw [arrivals_concat, nobody, arriving]
        rfl
    · refine Or.inr ⟨client, wins.append [next], ?_⟩
      rw [slot, filled]
      cases arriving : ((after calls schedule).stages next).isArriving with
      | false => exact Stage.advance_slot arriving _
      | true =>
        obtain ⟨call, client', sent, stage⟩ := Stage.exists_of_isArriving arriving
        rw [stage]
        rfl

/-- Before somebody has come to that stage, the slot is empty. -/
theorem slot_of_nobody {schedule : List ι} (nobody : arrivals calls schedule = []) :
    (after calls schedule).slot = none := by
  rcases slot_after calls schedule with ⟨-, empty⟩ | ⟨client, ⟨first, _, isFirst, -⟩, -⟩
  · exact empty
  · rw [nobody] at isFirst
    cases isFirst

/-- As soon as somebody has, the slot holds the client of the first one. -/
theorem exists_wins_of_somebody {schedule : List ι} (somebody : arrivals calls schedule ≠ []) :
    ∃ client, Wins calls schedule client ∧ (after calls schedule).slot = some (.client client) := by
  rcases slot_after calls schedule with ⟨nobody, -⟩ | filled
  · exact absurd nobody somebody
  · exact filled

/-- Nobody has come before the first one. -/
theorem nobody_before_first {earlier later others : List ι} {caller : ι}
    (all : arrivals calls (earlier ++ caller :: later) = arrivals calls earlier ++ caller :: others)
    (isFirst : (arrivals calls (earlier ++ caller :: later)).head? = some caller) :
    arrivals calls earlier = [] := by
  cases before : arrivals calls earlier with
  | nil => rfl
  | cons first rest =>
    -- The first one would be the caller, who would come a second time.
    have once := nodup_arrivals calls (earlier ++ caller :: later)
    rw [all, before, List.cons_append] at isFirst once
    cases isFirst
    exact absurd (List.mem_append_right rest List.mem_cons_self) (List.nodup_cons.mp once).1

/-! ### How a turn ends a call -/

/-- Whoever comes to the last stage of configuring as the first succeeds. -/
theorem stages_of_first {earlier : List ι} {caller : ι} {call : ConfigureCall} {client : Vault.Client}
    {sent : List Http.Request} (stage : (after calls earlier).stages caller = .verified call client sent)
    (nobody : arrivals calls earlier = []) (later : List ι) :
    (after calls (earlier ++ caller :: later)).stages caller = .configured true call.diagnostics sent := by
  have turn : ((after calls earlier).stages caller).advance (after calls earlier).slot =
      (some (.client client), .configured true call.diagnostics sent) := by
    rw [stage, slot_of_nobody nobody]
    rfl
  rw [stages_of_lastTurn (by rw [turn]; rfl), turn]

/-- Whoever comes to it behind somebody else is too late. -/
theorem stages_of_late {earlier : List ι} {caller : ι} {call : ConfigureCall} {client : Vault.Client}
    {sent : List Http.Request} (stage : (after calls earlier).stages caller = .verified call client sent)
    (somebody : arrivals calls earlier ≠ []) (later : List ι) :
    (after calls (earlier ++ caller :: later)).stages caller = call.failed .alreadyConfigured sent := by
  have turn : (((after calls earlier).stages caller).advance (after calls earlier).slot).2 =
      call.failed .alreadyConfigured sent := by
    obtain ⟨first, -, filled⟩ := exists_wins_of_somebody somebody
    rw [stage, filled]
    rfl
  rw [stages_of_lastTurn (by rw [turn]; rfl), turn]

/-- Whoever fetches before somebody has come to that stage is told that nothing was configured. -/
theorem stages_of_earlyFetch {earlier : List ι} {caller : ι} {call : ReadCall} {request : SecretRequest}
    (stage : (after calls earlier).stages caller = .requested call request)
    (nobody : arrivals calls earlier = []) (later : List ι) :
    (after calls (earlier ++ caller :: later)).stages caller =
      .answered { state := none, diagnostics := call.diagnostics.add Failure.notConfigured.report } := by
  have turn : (((after calls earlier).stages caller).advance (after calls earlier).slot).2 =
      .answered { state := none, diagnostics := call.diagnostics.add Failure.notConfigured.report } := by
    rw [stage, slot_of_nobody nobody]
    rfl
  rw [stages_of_lastTurn (by rw [turn]; rfl), turn]

/-- Whoever fetches a reader holds it until its next turn, and then reads through it. -/
theorem stages_of_fetch {earlier : List ι} {caller : ι} {call : ReadCall} {request : SecretRequest}
    {reader : SecretReader} (stage : (after calls earlier).stages caller = .requested call request)
    (built : buildRequest call.state = .ok request) (filled : (after calls earlier).slot = some reader)
    (later : List ι) :
    (caller ∉ later →
      (after calls (earlier ++ caller :: later)).stages caller = .fetched call request reader) ∧
    (caller ∈ later → (after calls (earlier ++ caller :: later)).stages caller =
      .answered (readState (some reader) call.state call.delivery call.diagnostics)) := by
  have fetched : (after calls (earlier ++ [caller])).stages caller = .fetched call request reader := by
    rw [after_concat_self, stage, filled]
    rfl
  rw [← List.singleton_append, ← List.append_assoc]
  refine ⟨fun absent => ?_, fun member => ?_⟩
  · rw [stages_after_append_of_not_mem _ absent]
    exact fetched
  · obtain ⟨before, behind, rfl, absent⟩ := List.eq_append_cons_of_mem member
    have holds : (after calls (earlier ++ [caller] ++ before)).stages caller = .fetched call request reader := by
      rw [stages_after_append_of_not_mem _ absent]
      exact fetched
    have turn : (((after calls (earlier ++ [caller] ++ before)).stages caller).advance
        (after calls (earlier ++ [caller] ++ before)).slot).2 =
          .answered (readState (some reader) call.state call.delivery call.diagnostics) := by
      rw [holds, ← Stage.ended_eq built]
      rfl
    rw [← List.append_assoc, stages_of_lastTurn (by rw [turn]; rfl), turn]

/-! ### How schedules end -/

/-- Whoever has a client that is accepted comes to the last stage of configuring in its third turn at the latest. -/
theorem mem_arrivals_of_turns {schedule : List ι} {caller : ι} {call : ConfigureCall} {client : Vault.Client}
    (configures : calls caller = .configure call) (accepts : call.Accepts client)
    (turns : 3 ≤ schedule.count caller) : caller ∈ arrivals calls schedule := by
  have left := stagesLeft_after calls schedule caller
  have follows := follows_after calls schedule caller
  rw [configures] at follows
  cases stage : (after calls schedule).stages caller with
  | configured returned diagnostics sent =>
    rcases configured_cases stage with member | ⟨-, call', configures', refused⟩
    · exact member
    · cases configures.symm.trans configures'
      exact absurd accepts (refused client)
  | answered outcome =>
    rw [stage] at follows
    obtain ⟨call', same⟩ := follows
    cases same
  | _ =>
    -- In every other stage something is left of the call, and three turns leave nothing of it.
    rw [stage] at left
    simp only [Stage.stagesLeft] at left
    omega

/-- The first one succeeds. -/
theorem stages_of_head? {schedule : List ι} {caller : ι} {call : ConfigureCall} {client : Vault.Client}
    (isFirst : (arrivals calls schedule).head? = some caller) (configures : calls caller = .configure call)
    (accepts : call.Accepts client) :
    (after calls schedule).stages caller =
      .configured true call.diagnostics (client.lookupSelf call.lookup).sent := by
  obtain ⟨earlier, later, call', client', rfl, configures', accepts', stage, others, all⟩ :=
    exists_arrival (List.mem_of_mem_head? isFirst)
  cases configures.symm.trans configures'
  cases accepts.unique accepts'
  exact stages_of_first stage (nobody_before_first all isFirst) later

/-- The client of the first one is in the slot. -/
theorem slot_of_head? {schedule : List ι} {caller : ι} {call : ConfigureCall} {client : Vault.Client}
    (isFirst : (arrivals calls schedule).head? = some caller) (configures : calls caller = .configure call)
    (accepts : call.Accepts client) : (after calls schedule).slot = some (.client client) := by
  have somebody : arrivals calls schedule ≠ [] := by
    intro nobody
    rw [nobody] at isFirst
    cases isFirst
  obtain ⟨winner, ⟨first, call', isFirst', configures', accepts'⟩, filled⟩ := exists_wins_of_somebody somebody
  cases isFirst.symm.trans isFirst'
  cases configures.symm.trans configures'
  rw [filled, accepts.unique accepts']

/-- All others are told that they are too late. -/
theorem stages_of_mem_tail {schedule : List ι} {caller : ι} {call : ConfigureCall} {client : Vault.Client}
    (member : caller ∈ (arrivals calls schedule).tail) (configures : calls caller = .configure call)
    (accepts : call.Accepts client) :
    (after calls schedule).stages caller = call.failed .alreadyConfigured (client.lookupSelf call.lookup).sent := by
  obtain ⟨earlier, later, call', client', rfl, configures', accepts', stage, others, all⟩ :=
    exists_arrival (List.mem_of_mem_tail member)
  cases configures.symm.trans configures'
  cases accepts.unique accepts'
  refine stages_of_late stage (fun nobody => ?_) later
  have once := nodup_arrivals calls (earlier ++ caller :: later)
  rw [all, nobody, List.nil_append] at member once
  exact (List.nodup_cons.mp once).1 member

/-- Only the first one succeeds. -/
theorem head?_of_succeeds {schedule : List ι} {caller : ι} {diagnostics : Diagnostics} {sent : List Http.Request}
    (succeeds : (after calls schedule).stages caller = .configured true diagnostics sent) :
    (arrivals calls schedule).head? = some caller := by
  rcases configured_cases succeeds with member | ⟨refused, -⟩
  · obtain ⟨earlier, later, call, client, rfl, -, -, stage, others, all⟩ := exists_arrival member
    cases before : arrivals calls earlier with
    | nil => rw [all, before, List.nil_append, List.head?_cons]
    | cons first rest =>
      have late := stages_of_late stage (by rw [before]; exact List.cons_ne_nil first rest) later
      cases succeeds.symm.trans late
  · cases refused

/-- Whatever a read has fetched is the client of the first one. -/
theorem exists_wins_of_fetched {schedule : List ι} {caller : ι} {call : ReadCall} {request : SecretRequest}
    {reader : SecretReader} (stage : (after calls schedule).stages caller = .fetched call request reader) :
    ∃ client, reader = .client client ∧ Wins calls schedule client := by
  have follows := follows_after calls schedule caller
  rw [stage] at follows
  obtain ⟨earlier, later, rfl, fetches⟩ := exists_fetch follows.1 follows.2 (by rw [stage]; exact Nat.le_refl 1)
  rcases slot_after calls earlier with ⟨nobody, -⟩ | ⟨client, wins, filled⟩
  · cases stage.symm.trans (stages_of_earlyFetch fetches nobody later)
  · refine ⟨client, ?_, wins.append _⟩
    have holds := stages_of_fetch fetches follows.2 filled later
    by_cases member : caller ∈ later
    · cases stage.symm.trans (holds.2 member)
    · cases stage.symm.trans (holds.1 member)
      rfl

/-- **Calls agree on one client.** -/
structure Agreement (calls : ι → Call) (schedule : List ι) : Prop where
  /-- Nobody comes to the last stage of configuring twice. -/
  once : (arrivals calls schedule).Nodup
  /-- Whoever comes to it has a client that is accepted. -/
  accepted : ∀ caller ∈ arrivals calls schedule,
    ∃ call client, calls caller = .configure call ∧ call.Accepts client
  /-- Whoever has one comes to it, if it has its turns. -/
  comes : ∀ caller call client, calls caller = .configure call → call.Accepts client →
    3 ≤ schedule.count caller → caller ∈ arrivals calls schedule
  /-- The first succeeds, and its client is in the slot. -/
  first : ∀ caller call client, (arrivals calls schedule).head? = some caller →
    calls caller = .configure call → call.Accepts client →
    (after calls schedule).stages caller =
        .configured true call.diagnostics (client.lookupSelf call.lookup).sent ∧
      (after calls schedule).slot = some (.client client)
  /-- All others that come to it are told that they are too late. -/
  late : ∀ caller ∈ (arrivals calls schedule).tail, ∀ call client,
    calls caller = .configure call → call.Accepts client →
    (after calls schedule).stages caller =
      .configured false (call.diagnostics.add Failure.alreadyConfigured.report)
        (client.lookupSelf call.lookup).sent
  /-- Nobody but the first succeeds. -/
  alone : ∀ caller diagnostics sent,
    (after calls schedule).stages caller = .configured true diagnostics sent →
    (arrivals calls schedule).head? = some caller
  /-- Without a first one the slot is empty. -/
  empty : arrivals calls schedule = [] → (after calls schedule).slot = none
  /-- A read that has a request fetches, if it has its turns. -/
  fetches : ∀ caller call request, calls caller = .read call → buildRequest call.state = .ok request →
    2 ≤ schedule.count caller → ∃ earlier later, schedule = earlier ++ caller :: later ∧
      (after calls earlier).stages caller = .requested call request
  /-- If it fetches before the first one comes, it is told that nothing was configured. -/
  before : ∀ earlier caller later call request, schedule = earlier ++ caller :: later →
    (after calls earlier).stages caller = .requested call request → arrivals calls earlier = [] →
    (after calls schedule).stages caller =
      .answered { state := none, diagnostics := call.diagnostics.add Failure.notConfigured.report }
  /-- If it fetches behind it, it reads through the client of the first one, as soon as it has its turn. -/
  behind : ∀ earlier caller later call request, schedule = earlier ++ caller :: later →
    (after calls earlier).stages caller = .requested call request → arrivals calls earlier ≠ [] →
    ∃ client, Wins calls schedule client ∧
      (caller ∉ later →
        (after calls schedule).stages caller = .fetched call request (.client client)) ∧
      (caller ∈ later → (after calls schedule).stages caller =
        .answered (readState (some (.client client)) call.state call.delivery call.diagnostics))
  /-- A call whose turns come one right after the other does what it does alone, with the slot that it finds. -/
  undisturbed : ∀ earlier caller later, schedule = earlier ++ [caller, caller, caller] ++ later → caller ∉ earlier →
    (∀ call version, calls caller = .configure call →
      let outcome := configure { version, environment := call.environment, slot := (after calls earlier).slot }
        call.config call.lookup call.diagnostics
      (after calls (earlier ++ [caller, caller, caller])).slot = outcome.provider.slot ∧
        (after calls schedule).stages caller =
          .configured outcome.returned outcome.diagnostics outcome.sent) ∧
    ∀ call, calls caller = .read call →
      (after calls (earlier ++ [caller, caller, caller])).slot = (after calls earlier).slot ∧
        (after calls schedule).stages caller =
          .answered (readState (after calls earlier).slot call.state call.delivery call.diagnostics)
  /-- Whatever a read has fetched is the client of the first one, which is accepted. -/
  sees : ∀ caller call request reader, (after calls schedule).stages caller = .fetched call request reader →
    ∃ client, reader = .client client ∧ Wins calls schedule client

/-- **Calls that go on at the same time agree on one client**, under every schedule. -/
theorem traffic_agrees (calls : ι → Call) (schedule : List ι) : Agreement calls schedule where
  once := nodup_arrivals calls schedule
  accepted caller member := by
    obtain ⟨-, -, call, client, -, configures, accepts, -⟩ := exists_arrival member
    exact ⟨call, client, configures, accepts⟩
  comes _ _ _ configures accepts turns := mem_arrivals_of_turns configures accepts turns
  first _ _ _ isFirst configures accepts :=
    ⟨stages_of_head? isFirst configures accepts, slot_of_head? isFirst configures accepts⟩
  late _ member _ _ configures accepts := stages_of_mem_tail member configures accepts
  alone _ _ _ succeeds := head?_of_succeeds succeeds
  empty := slot_of_nobody
  fetches caller call request reads built turns := by
    have left := stagesLeft_after calls schedule caller
    exact exists_fetch reads built (by omega)
  before earlier caller later call request same stage nobody := by
    subst same
    exact stages_of_earlyFetch stage nobody later
  behind earlier caller later call request same stage somebody := by
    subst same
    have follows := follows_after calls earlier caller
    rw [stage] at follows
    obtain ⟨client, wins, filled⟩ := exists_wins_of_somebody somebody
    exact ⟨client, wins.append _, stages_of_fetch stage follows.2 filled later⟩
  undisturbed earlier caller later same absent := by
    subst same
    refine ⟨fun call version configures => ?_, fun call reads => ?_⟩
    · refine ends_undisturbed absent ?_ rfl later
      rw [configures]
      exact Stage.uninterrupted_configure call version _
    · refine ends_undisturbed absent ?_ rfl later
      rw [reads]
      exact Stage.uninterrupted_read call _
  sees _ _ _ _ stage := exists_wins_of_fetched stage

/-- Who starts first may come too late: the first caller is overtaken between its look and its last stage. -/
example :
    let configures (address : String) : Call := .configure {
      environment := fun _ => none, config := .ofTexts address "t" none, lookup := acceptance }
    let calls : Fin 3 → Call
      | 0 => configures "https://[::1]:8200"
      | 1 => configures "https://[::2]:8200"
      | 2 => .read { state := .ofNames "kv" "n", delivery := .dropped }
    arrivals calls [0, 2, 0, 1, 1, 1, 2, 0, 2] = [1, 0] := by
  decide +kernel

end Schedules

end SecretSource.Provider
