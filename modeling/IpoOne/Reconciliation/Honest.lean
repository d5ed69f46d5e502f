import IpoOne.Reconciliation.Accounting
import Mathlib

/-!
# Honest observations of one order

`VenueHistory` is what the venue did with an order, and `HonestCall` a call that delivers one of its
normalized observations: with the true cursors of the state it is about, and fresh only if no later
state was observed before, or if it is one that was taken in already and is delivered once more.

An honest observation may still make the record an incident: `derivedState` compares the cursors
before it looks at the freshness, and it takes a fill whose notional is rounded away for a
contradiction.  And an observation that is not fresh moves the cursors too.

* `honest_observations` says when neither happens: of the observations that are looked at
  (`Considered`), every trusted one moves both cursors or none, and every other one repeats them.
* `honest_observation_incident` is an honest run that ends in an incident.
-/

set_option autoImplicit false

namespace IpoOne
namespace Reconciliation

open Fallible Run

/-! ## Histories -/

/-- The states of an order at the venue: its filled size, the notional of the fills in minor units
before rounding, and its status. -/
structure VenueHistory where
  size : ℕ → ℕ
  notional : ℕ → ℚ
  status : ℕ → HyperliquidVenueOrderStatus

/-- The history of an order as it was requested. -/
structure VenueHistory.Of {H : Type} (history : VenueHistory) (request : KernelBinding H) :
    Prop where
  size_mono : Monotone history.size
  notional_mono : Monotone history.notional
  notional_nonneg : 0 ≤ history.notional 0
  size_requested : ∀ i, history.size i ≤ request.requestedSize.atoms
  notional_requested : ∀ i, history.notional i ≤ request.requestedNotionalMinor.val
  cancel : request.actionKind.isCancel = true → ∀ i, history.size i = 0 ∧ history.notional i = 0
  partiallyFilled : ∀ i, history.status i = .partiallyFilled →
    0 < history.size i ∧ history.size i < request.requestedSize.atoms
  filled : ∀ i, history.status i = .filled →
    0 < history.size i ∧ history.size i = request.requestedSize.atoms
  rejected : ∀ i, history.status i = .rejected → history.size i = 0

/-- The notional cursor of a state: rounded down to minor units. -/
def VenueHistory.minorUnits (history : VenueHistory) (i : ℕ) : ℕ := ⌊history.notional i⌋₊

section History

variable {H : Type}

/-- The observation tells the truth about a state of the order. -/
structure Truthful (history : VenueHistory) (command : CommandBinding H)
    (observation : Observation H) (state : ℕ) : Prop where
  kind : observation.kind = .normalizedState
  bound : observation.toCommandBinding = command
  size : observation.cumulativeFilledSize.atoms = history.size state
  notional : observation.cumulativeFillNotionalMinor.val = history.minorUnits state
  status : observation.venueStatus = history.status state ∨ observation.venueStatus = .notFound ∨
    observation.venueStatus = .unknown

/-- A trusted observation moves both cursors or none, and every other one repeats them. -/
structure CursorsAgree (record : Record H) (observation : Observation H) : Prop where
  together : observation.Trusted →
    (observation.cumulativeFilledSize.atoms = record.cumulativeFilledSize.atoms ↔
      observation.cumulativeFillNotionalMinor.val = record.cumulativeFillNotionalMinor.val)
  repeated : ¬ observation.Trusted →
    observation.cumulativeFilledSize.atoms = record.cumulativeFilledSize.atoms ∧
      observation.cumulativeFillNotionalMinor.val = record.cumulativeFillNotionalMinor.val

instance (record : Record H) (observation : Observation H) :
    Decidable (CursorsAgree record observation) :=
  decidable_of_iff (_ ∧ _) ⟨fun h ↦ ⟨h.1, h.2⟩, fun h ↦ ⟨h.together, h.repeated⟩⟩

/-! ## One observation -/

/-- The cursors of the record are those of a state that was observed, or nothing was filled. -/
structure OnHistory (history : VenueHistory) (request : KernelBinding H) (latest : ℕ)
    (record : Record H) : Prop where
  request : record.toKernelBinding = request
  status : record.status ≠ .incident
  empty : record.cumulativeFilledSize.atoms = 0 ↔ record.cumulativeFillNotionalMinor.val = 0
  observed : (record.cumulativeFilledSize.atoms = 0 ∧
      record.cumulativeFillNotionalMinor.val = 0) ∨
    ∃ i ≤ latest, record.cumulativeFilledSize.atoms = history.size i ∧
      record.cumulativeFillNotionalMinor.val = history.minorUnits i

variable {history : VenueHistory} {request : KernelBinding H} {latest state : ℕ}
  {record : Record H} {observation : Observation H}

theorem VenueHistory.Of.minorUnits_mono (h : history.Of request) : Monotone history.minorUnits :=
  fun _ _ hle ↦ Nat.floor_mono (h.notional_mono hle)

theorem VenueHistory.Of.minorUnits_requested (h : history.Of request) (i : ℕ) :
    history.minorUnits i ≤ request.requestedNotionalMinor.val :=
  Nat.floor_le_of_le (h.notional_requested i)

/-- A state that is not earlier than any that was observed is not behind the cursors. -/
theorem OnHistory.le_of_latest (h : OnHistory history request latest record)
    (hof : history.Of request) (hlatest : latest ≤ state) :
    record.cumulativeFilledSize.atoms ≤ history.size state ∧
      record.cumulativeFillNotionalMinor.val ≤ history.minorUnits state := by
  rcases h.observed with ⟨hsize, hnotional⟩ | ⟨i, hi, hsize, hnotional⟩
  · rw [hsize, hnotional]
    exact ⟨Nat.zero_le _, Nat.zero_le _⟩
  · rw [hsize, hnotional]
    exact ⟨hof.size_mono (hi.trans hlatest), hof.minorUnits_mono (hi.trans hlatest)⟩

theorem OnHistory.mono (h : OnHistory history request latest record) {latest' : ℕ}
    (hle : latest ≤ latest') : OnHistory history request latest' record :=
  ⟨h.request, h.status, h.empty, h.observed.imp_right fun ⟨i, hi, hi'⟩ ↦ ⟨i, hi.trans hle, hi'⟩⟩

/-- What the cursors of a record come to, as far as the request goes. -/
theorem OnHistory.within (h : OnHistory history request latest record)
    (hof : history.Of request) : WithinRequest record ∧
      (record.actionKind.isCancel = true → record.cumulativeFilledSize.atoms = 0 ∧
        record.cumulativeFillNotionalMinor.val = 0) := by
  have hrequest := h.request
  rcases h.observed with ⟨hsize, hnotional⟩ | ⟨i, -, hsize, hnotional⟩
  · exact ⟨⟨hsize ▸ Nat.zero_le _, hnotional ▸ Nat.zero_le _⟩, fun _ ↦ ⟨hsize, hnotional⟩⟩
  · refine ⟨⟨?_, ?_⟩, fun hcancel ↦ ?_⟩
    · rw [hsize, hrequest]
      exact hof.size_requested i
    · rw [hnotional, hrequest]
      exact hof.minorUnits_requested i
    · rw [hrequest] at hcancel
      obtain ⟨hzero, hzero'⟩ := hof.cancel hcancel i
      rw [hsize, hnotional, VenueHistory.minorUnits, hzero']
      exact ⟨hzero, Nat.floor_zero⟩

/-- An observation that repeats the cursors of the record fits it. -/
theorem OnHistory.fit_of_repeated (h : OnHistory history request latest record)
    (hof : history.Of request) (hbound : observation.toCommandBinding = request.command)
    (hsize : observation.cumulativeFilledSize.atoms = record.cumulativeFilledSize.atoms)
    (hnotional : observation.cumulativeFillNotionalMinor.val =
      record.cumulativeFillNotionalMinor.val) : CursorsFit record observation where
  bound := by rw [hbound, h.request]
  size_le := hsize.ge
  notional_le := hnotional.ge
  size_requested := hsize ▸ (h.within hof).1.size
  notional_requested := hnotional ▸ (h.within hof).1.notional
  cancel hcancel := by rw [hsize, hnotional]; exact (h.within hof).2 hcancel
  together := iff_of_true hsize hnotional

/-- A true observation of the latest state fits, if both cursors move or none. -/
theorem OnHistory.fit_of_truthful (h : OnHistory history request latest record)
    (hof : history.Of request) (htrue : Truthful history request.command observation state)
    (hlatest : latest ≤ state)
    (htogether : observation.cumulativeFilledSize.atoms = record.cumulativeFilledSize.atoms ↔
      observation.cumulativeFillNotionalMinor.val = record.cumulativeFillNotionalMinor.val) :
    CursorsFit record observation := by
  obtain ⟨hsize, hnotional⟩ := h.le_of_latest hof hlatest
  have hrequest := h.request
  refine ⟨by rw [htrue.bound, hrequest], htrue.size ▸ hsize, htrue.notional ▸ hnotional, ?_, ?_,
    fun hcancel ↦ ?_, htogether⟩
  · rw [htrue.size, hrequest]
    exact hof.size_requested state
  · rw [htrue.notional, hrequest]
    exact hof.minorUnits_requested state
  · rw [hrequest] at hcancel
    obtain ⟨hzero, hzero'⟩ := hof.cancel hcancel state
    rw [htrue.size, htrue.notional, VenueHistory.minorUnits, hzero']
    exact ⟨hzero, Nat.floor_zero⟩

/-- With cursors that fit, nothing is filled in one dimension only. -/
theorem CursorsFit.empty_iff (hfit : CursorsFit record observation)
    (hempty : record.cumulativeFilledSize.atoms = 0 ↔
      record.cumulativeFillNotionalMinor.val = 0) :
    observation.cumulativeFilledSize.atoms = 0 ↔
      observation.cumulativeFillNotionalMinor.val = 0 := by
  constructor
  · intro hzero
    have hrecord : record.cumulativeFilledSize.atoms = 0 :=
      Nat.eq_zero_of_le_zero (hzero ▸ hfit.size_le)
    rw [hfit.together.1 (hzero.trans hrecord.symm)]
    exact hempty.1 hrecord
  · intro hzero
    have hrecord : record.cumulativeFillNotionalMinor.val = 0 :=
      Nat.eq_zero_of_le_zero (hzero ▸ hfit.notional_le)
    rw [hfit.together.2 (hzero.trans hrecord.symm)]
    exact hempty.2 hrecord

/-- A true status is no incident. -/
theorem classifyVenueStatus_of_truthful (h : OnHistory history request latest record)
    (hof : history.Of request) (htrue : Truthful history request.command observation state)
    (hfit : CursorsFit record observation) :
    (classifyVenueStatus record observation).status ≠ .incident ∧
      (classifyVenueStatus record observation).incidentReason = none := by
  have hempty := hfit.empty_iff h.empty
  have hrequest := h.request
  have hsize := htrue.size
  have hhistory : observation.venueStatus ≠ .notFound → observation.venueStatus ≠ .unknown →
      history.status state = observation.venueStatus := fun h h' ↦
    (htrue.status.resolve_right fun h'' ↦ h''.elim h h').symm
  unfold classifyVenueStatus
  dsimp only
  cases hstatus : observation.venueStatus with
  | opened => exact ⟨nofun, rfl⟩
  | notFound => exact ⟨nofun, rfl⟩
  | unknown => exact ⟨nofun, rfl⟩
  | canceled => exact ⟨nofun, rfl⟩
  | partiallyFilled =>
    rw [hstatus] at hhistory
    obtain ⟨hpos, hlt⟩ := hof.partiallyFilled state (hhistory nofun nofun)
    rw [← hsize, ← hrequest] at hlt
    rw [← hsize] at hpos
    dsimp only
    rw [if_neg]
    · exact ⟨nofun, rfl⟩
    · rintro (hzero | hle | hzero)
      · exact hpos.ne' hzero
      · exact absurd hlt (Nat.not_lt.2 hle)
      · exact hpos.ne' (hempty.2 hzero)
  | filled =>
    rw [hstatus] at hhistory
    obtain ⟨hpos, heq⟩ := hof.filled state (hhistory nofun nofun)
    dsimp only
    rw [if_neg]
    · exact ⟨nofun, rfl⟩
    · rw [← hsize] at hpos
      rintro (hcancel | hne | hzero)
      · rw [hrequest] at hcancel
        exact hpos.ne' (hsize.trans (hof.cancel hcancel state).1)
      · rw [hsize, hrequest] at hne
        exact hne heq
      · exact hpos.ne' (hempty.2 hzero)
  | rejected =>
    rw [hstatus] at hhistory
    have hzero := hof.rejected state (hhistory nofun nofun)
    rw [← hsize] at hzero
    dsimp only
    rw [if_neg]
    · exact ⟨nofun, rfl⟩
    · rintro (hne | hne)
      · exact hne hzero
      · exact hne (hempty.1 hzero)

end History

section Honest

variable {H : Type} [DecidableEq H] {prims : Primitives H}
  {history : VenueHistory} {request : KernelBinding H} {latest state : ℕ}
  {record : Record H} {observation : Observation H}

/-- **An observation that agrees with the cursors is no incident.** -/
theorem classify_of_agrees (h : OnHistory history request latest record)
    (hof : history.Of request) (hagrees : CursorsAgree record observation)
    (hbound : observation.toCommandBinding = request.command)
    (htrue : observation.Trusted →
      Truthful history request.command observation state ∧ latest ≤ state) :
    (classify record observation).status ≠ .incident ∧
      (classify record observation).incidentReason = none := by
  by_cases htrusted : observation.Trusted
  · obtain ⟨htruthful, hlatest⟩ := htrue htrusted
    have hfit := h.fit_of_truthful hof htruthful hlatest (hagrees.together htrusted)
    unfold classify
    rw [cursorIncident_eq_none.2 hfit]
    dsimp only
    rw [if_neg (not_not.2 htrusted)]
    exact classifyVenueStatus_of_truthful h hof htruthful hfit
  · obtain ⟨hsize, hnotional⟩ := hagrees.repeated htrusted
    have hfit := h.fit_of_repeated hof hbound hsize hnotional
    unfold classify
    rw [cursorIncident_eq_none.2 hfit]
    dsimp only
    rw [if_pos htrusted]
    exact ⟨nofun, rfl⟩

/-! ## The calls -/

/-- The repository, and the latest state of the order that was observed. -/
structure Delivery (H : Type) where
  repo : ReconciliationRepository H
  latest : ℕ

/-- A call on the repository.  An observation of the order comes with the state that it is about. -/
inductive Call (H : Type) where
  | observe (input : ConsumeInput H) (state : ℕ)
  | other (input : ReconciliationInput H)

/-- The call without the state. -/
def Call.input : Call H → ReconciliationInput H
  | .observe input _ => .consumeObservation input
  | .other input => input

/-- The latest state that was observed, after the call. -/
def Call.latestAfter (latest : ℕ) : Call H → ℕ
  | .observe _ state => max latest state
  | .other _ => latest

/-- A call is made. -/
def deliver (prims : Primitives H) (s : Delivery H) (call : Call H) : Delivery H where
  repo := reconciliationStep prims s.repo call.input
  latest := call.latestAfter s.latest

/-- The observation is looked at: it is not in the inbox, and the order of the record is not
over. -/
structure Considered (s : Delivery H) (input : ConsumeInput H) (record : Record H) : Prop where
  fresh : s.repo.inbox.get input.observation.observationId = none
  stored : s.repo.records.get input.reconciliationId = some record
  live : record.status ∉ terminalStatuses

/-- The snapshot that comes with an observation does not contradict the record. -/
def KernelConsistent (s : Delivery H) (input : ConsumeInput H) : Prop :=
  ∀ record, Considered s input record → kernelContradiction record input.kernelSnapshot = none

/-- The observation was taken in before. -/
def Redelivered (prims : Primitives H) (s : Delivery H) (observation : Observation H) : Prop :=
  s.repo.inbox.get observation.observationId = some (prims.hashId (.inboxPayload observation))

instance (prims : Primitives H) (s : Delivery H) (observation : Observation H) :
    Decidable (Redelivered prims s observation) :=
  inferInstanceAs (Decidable (_ = _))

/-- An honest observation of the order is delivered, or a failure of the adapter or of the polling
is recorded, or the call is not about an observation of the order. -/
def HonestCall (prims : Primitives H) (history : VenueHistory) (command : CommandBinding H) (id : H)
    (s : Delivery H) : Call H → Prop
  | .observe input state => input.reconciliationId = id ∧ KernelConsistent s input ∧
      Truthful history command input.observation state ∧
      (input.observation.freshness = .fresh →
        s.latest ≤ state ∨ Redelivered prims s input.observation)
  | .other (.consumeObservation input) => input.reconciliationId = id →
      KernelConsistent s input ∧ input.observation.toCommandBinding = command ∧
        input.observation.kind ≠ .normalizedState
  | .other _ => True

/-- The cursors that the call brings agree with those of the record, if it is looked at. -/
def CallAgrees (id : H) (s : Delivery H) (call : Call H) : Prop :=
  ∀ input record, call.input = .consumeObservation input → input.reconciliationId = id →
    Considered s input record → CursorsAgree record input.observation

/-- What the claim promises of one call: the record does not become an incident, and only a trusted
observation moves its cursors. -/
structure Harmless (id : H) (before after : Delivery H) (call : Call H) : Prop where
  incident : ∀ record, after.repo.records.get id = some record → record.status ≠ .incident
  advanced : ∀ record next, before.repo.records.get id = some record →
    after.repo.records.get id = some next →
    (next.cumulativeFilledSize.atoms ≠ record.cumulativeFilledSize.atoms ∨
      next.cumulativeFillNotionalMinor.val ≠ record.cumulativeFillNotionalMinor.val) →
    ∃ input, call.input = .consumeObservation input ∧ input.observation.Trusted

/-! ## One call -/

omit [DecidableEq H] in
theorem Call.le_latestAfter (call : Call H) (latest : ℕ) : latest ≤ call.latestAfter latest := by
  cases call with
  | observe input state => exact le_max_left ..
  | other input => exact le_rfl

/-- What an observation that agrees with the cursors leaves. -/
theorem OnHistory.observedRecord (prims : Primitives H)
    (h : OnHistory history request latest record)
    (hof : history.Of request) {input : TransitionInput H}
    (hagrees : CursorsAgree record input.observation)
    (hkernel : kernelContradiction record input.kernelSnapshot = none)
    (hbound : input.observation.toCommandBinding = request.command)
    (htrue : input.observation.Trusted →
      Truthful history request.command input.observation state ∧ latest ≤ state) (updatedAt : ℕ) :
    let next := observedRecord prims record input updatedAt
    OnHistory history request (max latest state) next ∧
      (¬ input.observation.Trusted →
        next.cumulativeFilledSize.atoms = record.cumulativeFilledSize.atoms ∧
          next.cumulativeFillNotionalMinor.val = record.cumulativeFillNotionalMinor.val) := by
  intro next
  obtain ⟨hstatus, hincident⟩ := classify_of_agrees h hof hagrees hbound htrue
  have hreason := incidentReason_eq_none.2 ⟨hkernel, hincident⟩
  obtain ⟨hnext, hsize, hnotional, -⟩ := observedRecord_of_none prims updatedAt hreason
  have hfit := cursorsFit_of_classify hincident
  refine ⟨⟨h.request, hnext ▸ hstatus, ?_, ?_⟩, fun htrusted ↦ ?_⟩
  · show next.cumulativeFilledSize.atoms = 0 ↔ next.cumulativeFillNotionalMinor.val = 0
    rw [hsize, hnotional]
    exact hfit.empty_iff h.empty
  · by_cases htrusted : input.observation.Trusted
    · have htrue' := (htrue htrusted).1
      exact .inr ⟨state, le_max_right .., hsize ▸ htrue'.size, hnotional ▸ htrue'.notional⟩
    · obtain ⟨hsize', hnotional'⟩ := hagrees.repeated htrusted
      rw [hsize, hnotional, hsize', hnotional']
      exact (h.mono (le_max_left ..)).observed
  · show next.cumulativeFilledSize.atoms = _ ∧ next.cumulativeFillNotionalMinor.val = _
    rw [hsize, hnotional]
    exact hagrees.repeated htrusted

/-- What an honest consumption of a new observation says of it. -/
theorem HonestCall.consumed {command : CommandBinding H} {id : H} {s : Delivery H} {call : Call H}
    (h : HonestCall prims history command id s call) {input : ConsumeInput H}
    (hcall : call.input = .consumeObservation input) (hid : input.reconciliationId = id)
    (hfresh : s.repo.inbox.get input.observation.observationId = none) :
    ∃ state ≤ call.latestAfter s.latest, KernelConsistent s input ∧
      input.observation.toCommandBinding = command ∧
      (input.observation.Trusted →
        Truthful history command input.observation state ∧ s.latest ≤ state) := by
  cases call with
  | observe input' state =>
    obtain rfl := ReconciliationInput.consumeObservation.inj hcall
    obtain ⟨-, hkernel, htrue, hlate⟩ := h
    refine ⟨state, le_max_right .., hkernel, htrue.bound, fun htrusted ↦ ⟨htrue, ?_⟩⟩
    refine (hlate htrusted.2.1).resolve_right fun hagain ↦ ?_
    cases hfresh.symm.trans hagain
  | other input' =>
    obtain rfl : input' = .consumeObservation input := hcall
    obtain ⟨hkernel, hbound, hkind⟩ := h hid
    exact ⟨s.latest, le_rfl, hkernel, hbound, fun htrusted ↦ absurd htrusted.1 hkind⟩

/-- The record is on the history. -/
structure Tracked (prims : Primitives H) (history : VenueHistory) (request : KernelBinding H)
    (id : H) (s : Delivery H) : Prop where
  kept : Kept prims s.repo
  tracked : ∃ record, s.repo.records.get id = some record ∧
    OnHistory history request s.latest record

theorem RecordMove.onHistory (hof : history.Of request) {id : H} {s : Delivery H} {call : Call H}
    (hhonest : HonestCall prims history request.command id s call) (hagrees : CallAgrees id s call)
    (hfresh : ∀ input, call.input = .consumeObservation input →
      s.repo.inbox.get input.observation.observationId = none)
    (hget : s.repo.records.get id = some record)
    (h : OnHistory history request s.latest record) {moved : Record H}
    {events events' : List (ReconciliationEvent H)} {input : ReconciliationInput H}
    (hinput : call.input = input)
    (hmove : RecordMove prims id record events input moved events') :
    OnHistory history request (call.latestAfter s.latest) moved ∧
      ((moved.cumulativeFilledSize.atoms ≠ record.cumulativeFilledSize.atoms ∨
        moved.cumulativeFillNotionalMinor.val ≠ record.cumulativeFillNotionalMinor.val) →
        ∃ input, call.input = .consumeObservation input ∧ input.observation.Trusted) := by
  have hlatest := call.le_latestAfter s.latest
  cases hmove with
  | kept => exact ⟨h.mono hlatest, fun hne ↦ hne.elim (absurd rfl) (absurd rfl)⟩
  | observed input hid hlive _ _ =>
    have hnew := hfresh input hinput
    have hconsidered : Considered s input record := ⟨hnew, hid ▸ hget, hlive⟩
    obtain ⟨state, hstate, hkernel, hbound, htrue⟩ := hhonest.consumed hinput hid hnew
    obtain ⟨hnext, hrepeated⟩ := h.observedRecord prims hof
      (hagrees input record hinput hid hconsidered) (hkernel record hconsidered) hbound htrue
      input.nowMs
    refine ⟨hnext.mono (max_le hlatest hstate), fun hne ↦ ⟨input, hinput, ?_⟩⟩
    by_contra htrusted
    obtain ⟨hsize, hnotional⟩ := hrepeated htrusted
    exact hne.elim (fun h ↦ h hsize) fun h ↦ h hnotional
  | stopped =>
    exact ⟨⟨h.request, nofun, h.empty, (h.mono hlatest).observed⟩,
      fun hne ↦ hne.elim (absurd rfl) (absurd rfl)⟩

/-- An observation that is in the inbox changes nothing. -/
theorem deliver_of_inbox {s : Delivery H} {call : Call H} {input : ConsumeInput H} {payloadHash : H}
    (hcall : call.input = .consumeObservation input)
    (h : s.repo.inbox.get input.observation.observationId = some payloadHash) :
    (deliver prims s call).repo = s.repo := by
  show reconciliationStep prims s.repo call.input = s.repo
  rw [hcall]
  exact consume_of_inbox h

theorem Tracked.ignored {id : H} {s : Delivery H} (h : Tracked prims history request id s)
    {call : Call H} (hsame : (deliver prims s call).repo = s.repo) :
    Tracked prims history request id (deliver prims s call) ∧
      Harmless id s (deliver prims s call) call := by
  obtain ⟨record, hget, hrecord⟩ := h.tracked
  have hafter : (deliver prims s call).repo.records.get id = some record := by
    rw [hsame]
    exact hget
  refine ⟨⟨hsame ▸ h.kept, record, hafter, hrecord.mono (call.le_latestAfter s.latest)⟩,
    fun later hlater ↦ ?_, fun before later hbefore hlater hne ↦ ?_⟩
  · rw [hafter] at hlater
    obtain rfl := Option.some.inj hlater
    exact hrecord.status
  · rw [hafter] at hlater
    rw [hget] at hbefore
    obtain rfl := Option.some.inj hlater
    obtain rfl := Option.some.inj hbefore
    exact hne.elim (absurd rfl) (absurd rfl)

theorem Tracked.step (hfree : CollisionFree prims) (hof : history.Of request) {id : H}
    {s : Delivery H} (h : Tracked prims history request id s) {call : Call H}
    (hhonest : HonestCall prims history request.command id s call)
    (hagrees : CallAgrees id s call) :
    Tracked prims history request id (deliver prims s call) ∧
      Harmless id s (deliver prims s call) call := by
  by_cases hfresh : ∀ input, call.input = .consumeObservation input →
      s.repo.inbox.get input.observation.observationId = none
  swap
  · push Not at hfresh
    obtain ⟨input, hcall, hinbox⟩ := hfresh
    obtain ⟨payloadHash, hinbox⟩ := Option.ne_none_iff_exists'.1 hinbox
    exact h.ignored (deliver_of_inbox hcall hinbox)
  obtain ⟨record, hget, hrecord⟩ := h.tracked
  obtain ⟨moved, hmoved, hmove⟩ := step_move hfree h.kept hget call.input
  obtain ⟨honhistory, hadvanced⟩ := hmove.onHistory hof hhonest hagrees hfresh hget hrecord rfl
  have hafter : (deliver prims s call).repo.records.get id = some moved := hmoved
  refine ⟨⟨h.kept.step hfree _, moved, hmoved, honhistory⟩, fun later hlater ↦ ?_,
    fun before later hbefore hlater hne ↦ ?_⟩
  · rw [hafter] at hlater
    obtain rfl := Option.some.inj hlater
    exact honhistory.status
  · rw [hafter] at hlater
    rw [hget] at hbefore
    obtain rfl := Option.some.inj hlater
    obtain rfl := Option.some.inj hbefore
    exact hadvanced hne

/-! ## Every run -/

/-- **Honest observations.**  As long as every trusted observation that is looked at moves both
cursors or none, and every other one repeats them, no honest observation makes the record an
incident, and only trusted ones move its cursors. -/
theorem honest_observations (hfree : CollisionFree prims)
    (prior : List (ReconciliationInput H)) {id : H} {draft : Draft H} {nowMs : ℕ}
    (hget : (run (reconciliationStep prims) .new prior).records.get id =
      some (pendingRecord prims draft nowMs))
    (hof : history.Of draft.snapshot.toKernelBinding) (calls : List (Call H)) :
    let start : Delivery H := ⟨run (reconciliationStep prims) .new prior, 0⟩
    Steps (deliver prims)
      (HonestCall prims history draft.snapshot.toKernelBinding.command id) start calls →
    Steps (deliver prims) (CallAgrees id) start calls →
    Steps (deliver prims) (fun s call ↦ Harmless id s (deliver prims s call) call) start calls := by
  intro start hhonest hagrees
  have htracked : Tracked prims history draft.snapshot.toKernelBinding id start := by
    refine ⟨(sound_run hfree prior).kept, _, hget, ⟨rfl, nofun, ?_, .inl ⟨?_, rfl⟩⟩⟩
    · exact iff_of_true Decimal.atoms_zero rfl
    · exact Decimal.atoms_zero
  refine steps_of_steps
    (C := fun s call ↦ HonestCall prims history draft.snapshot.toKernelBinding.command id s call ∧
      CallAgrees id s call)
    (fun s call h hcall ↦ (h.step hfree hof hcall.1 hcall.2).1)
    (fun s call h hcall ↦ (h.step hfree hof hcall.1 hcall.2).2) calls htracked ?_
  exact hhonest.and hagrees

end Honest

namespace Sample

/-- An order of which 4 are filled, and then 6. -/
def history : VenueHistory where
  size i := if i = 0 then (size 4).atoms else (size 6).atoms
  notional i := if i = 0 then 400 else 600
  status _ := .partiallyFilled

theorem history_of : history.Of snapshot.toKernelBinding where
  size_mono := by
    intro i j hij
    show (if i = 0 then _ else _) ≤ if j = 0 then _ else _
    have hle : (size 4).atoms ≤ (size 6).atoms := by decide +kernel
    split_ifs with hi hj hj
    · exact le_rfl
    · exact hle
    · omega
    · exact le_rfl
  notional_mono := by
    intro i j hij
    show (if i = 0 then (400 : ℚ) else 600) ≤ if j = 0 then 400 else 600
    split_ifs with hi hj hj
    · exact le_rfl
    · norm_num
    · omega
    · exact le_rfl
  notional_nonneg := by
    show (0 : ℚ) ≤ 400
    norm_num
  size_requested i := by
    show (if i = 0 then (size 4).atoms else (size 6).atoms) ≤ (size 10).atoms
    split_ifs <;> decide +kernel
  notional_requested i := by
    show (if i = 0 then (400 : ℚ) else 600) ≤ ((1000 : ℕ) : ℚ)
    split_ifs <;> norm_num
  cancel h := by cases h
  partiallyFilled i _ := by
    show 0 < (if i = 0 then (size 4).atoms else (size 6).atoms) ∧
      (if i = 0 then (size 4).atoms else (size 6).atoms) < (size 10).atoms
    split_ifs <;> decide +kernel
  filled _ h := by cases h
  rejected _ h := by cases h

/-- The observation of a state of the order. -/
def observe (freshness : Freshness) (state observedAt : ℕ) : Call (List ℕ) :=
  .observe (consumed (if state = 0 then observation .partiallyFilled 4 400 freshness observedAt
    else observation .partiallyFilled 6 600 freshness observedAt)) state

/-- The reconciliation is started, and nothing was consumed. -/
def startedDelivery : Delivery (List ℕ) := ⟨run (reconciliationStep prims) .new [started], 0⟩

/-- The record of a delivery is consistent with the kernel of the samples. -/
theorem kernelConsistent {s : Delivery (List ℕ)} {o : Observation (List ℕ)}
    (h : (s.repo.records.get reconciliationId).all
      (fun record ↦ kernelContradiction record snapshot = none) = true) :
    KernelConsistent s (consumed o) := by
  intro record hconsidered
  rw [show s.repo.records.get reconciliationId = some record from hconsidered.stored,
    Option.all_some, decide_eq_true_iff] at h
  exact h

theorem truthful (freshness : Freshness) (state observedAt : ℕ) :
    Truthful history snapshot.toKernelBinding.command
      (if state = 0 then observation .partiallyFilled 4 400 freshness observedAt
        else observation .partiallyFilled 6 600 freshness observedAt) state := by
  have hfloor : ⌊(400 : ℚ)⌋₊ = 400 ∧ ⌊(600 : ℚ)⌋₊ = 600 := by norm_num
  by_cases hstate : state = 0
  · rw [if_pos hstate]
    refine ⟨rfl, rfl, (if_pos hstate).symm, ?_, .inl rfl⟩
    show 400 = ⌊history.notional state⌋₊
    rw [show history.notional state = 400 from if_pos hstate, hfloor.1]
  · rw [if_neg hstate]
    refine ⟨rfl, rfl, (if_neg hstate).symm, ?_, .inl rfl⟩
    show 600 = ⌊history.notional state⌋₊
    rw [show history.notional state = 600 from if_neg hstate, hfloor.2]

/-- The observation is in the inbox, or the order of the record is over, or the cursors agree. -/
theorem callAgrees {s : Delivery (List ℕ)} {o : Observation (List ℕ)} {state : ℕ}
    (h : (s.repo.inbox.get o.observationId).isSome = true ∨
      (s.repo.records.get reconciliationId).all (fun record ↦
        record.status ∈ terminalStatuses ∨ CursorsAgree record o) = true) :
    CallAgrees reconciliationId s (.observe (consumed o) state) := by
  intro input record hcall _ hconsidered
  obtain rfl := ReconciliationInput.consumeObservation.inj hcall
  rw [show s.repo.inbox.get o.observationId = none from hconsidered.fresh,
    show s.repo.records.get reconciliationId = some record from hconsidered.stored,
    Option.all_some, decide_eq_true_iff] at h
  rcases h with h | h | h
  · cases h
  · exact absurd h hconsidered.live
  · exact h

end Sample

/-- An honest run that ends in an incident: the earlier state arrives late, and says so. -/
theorem honest_observation_incident : ¬ ∀ calls : List (Call (List ℕ)),
    Steps (deliver Sample.prims) (HonestCall Sample.prims Sample.history
      Sample.snapshot.toKernelBinding.command Sample.reconciliationId)
        Sample.startedDelivery calls →
    Steps (deliver Sample.prims)
      (fun s call ↦ Harmless Sample.reconciliationId s (deliver Sample.prims s call) call)
      Sample.startedDelivery calls := by
  intro h
  have hsteps := h [Sample.observe .fresh 1 110, Sample.observe .stale 0 120]
    ⟨⟨rfl, Sample.kernelConsistent (by decide +kernel), Sample.truthful .fresh 1 110,
        fun _ ↦ .inl (Nat.zero_le 1)⟩,
      ⟨rfl, Sample.kernelConsistent (by decide +kernel), Sample.truthful .stale 0 120,
        fun h ↦ by cases h⟩,
      trivial⟩
  have hstatus : (Sample.recordAfter [Sample.started,
      (Sample.observe .fresh 1 110).input, (Sample.observe .stale 0 120).input]).map
        Record.status = some .incident := by decide +kernel
  obtain ⟨record, hget, hincident⟩ := Option.map_eq_some_iff.1 hstatus
  exact hsteps.2.1.incident record hget hincident

/-- The same states in their order, with a stale one that repeats the cursors and the first one
delivered once more; after the stop the first state arrives late, and says so. -/
theorem honest_observations_inOrder :
    Steps (deliver Sample.prims)
      (fun s call ↦ Harmless Sample.reconciliationId s (deliver Sample.prims s call) call)
      Sample.startedDelivery
      [Sample.observe .fresh 0 110, Sample.observe .stale 0 120, Sample.observe .fresh 1 130,
        Sample.observe .fresh 0 110, .other Sample.stopped, Sample.observe .stale 0 140] := by
  have hget : (run (reconciliationStep Sample.prims) .new [Sample.started]).records.get
      Sample.reconciliationId = some (pendingRecord Sample.prims
        (createDraft Sample.prims Sample.request Sample.snapshot Sample.guard) 100) := by
    decide +kernel
  refine honest_observations Sample.collisionFree [Sample.started] hget Sample.history_of _
    ⟨⟨rfl, ?_, Sample.truthful .fresh 0 110, fun _ ↦ .inl (Nat.zero_le _)⟩,
      ⟨rfl, ?_, Sample.truthful .stale 0 120, fun h ↦ by cases h⟩,
      ⟨rfl, ?_, Sample.truthful .fresh 1 130, fun _ ↦ .inl (by decide)⟩,
      ⟨rfl, ?_, Sample.truthful .fresh 0 110, fun _ ↦ .inr (by decide +kernel)⟩, trivial,
      ⟨rfl, ?_, Sample.truthful .stale 0 140, fun h ↦ by cases h⟩, trivial⟩
    ⟨?_, ?_, ?_, ?_, (fun _ _ h ↦ by cases h), ?_, trivial⟩
  · exact Sample.kernelConsistent (by decide +kernel)
  · exact Sample.kernelConsistent (by decide +kernel)
  · exact Sample.kernelConsistent (by decide +kernel)
  · exact Sample.kernelConsistent (by decide +kernel)
  · exact Sample.kernelConsistent (by decide +kernel)
  · exact Sample.callAgrees (.inr (by decide +kernel))
  · exact Sample.callAgrees (.inr (by decide +kernel))
  · exact Sample.callAgrees (.inr (by decide +kernel))
  · exact Sample.callAgrees (.inl (by decide +kernel))
  · exact Sample.callAgrees (.inr (by decide +kernel))

end Reconciliation
end IpoOne
