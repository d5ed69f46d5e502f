import IpoOne.Hyperliquid.Funding
import IpoOne.Lib.InsertionMap
import IpoOne.Lib.Run

/-!
# The repository of funding records

`InMemoryHyperliquidFacilityFundingRepository`.  Its methods wait for each other, so each of them is
one step; what a method has written when it throws stays written, and a step returns the outcome and
the repository it leaves.  A receipt is taken in once: the inbox remembers its identifier.

Then what one step does to one record (`FundingMove`): nothing, or a receipt, an incident or the
activation is written, and `fundingStep_move` says that there is nothing else.
-/

set_option autoImplicit false

namespace IpoOne
namespace Hyperliquid
namespace Funding

open Fallible

/-! ## The repository -/

/-- An entry of `#activations`. -/
structure ActivationEntry (H : Type) where
  fundingId : H
  activationCommandHash : H
  deriving DecidableEq

/-- The inbox has the hash of the payload for each identifier of a receipt.  Events, evidence and
outbox are only ever appended to, and are left out. -/
structure FundingRepository (H : Type) where
  records : InsertionMap H (FundingRecord H)
  idempotency : InsertionMap H H
  activations : InsertionMap H (ActivationEntry H)
  facilities : InsertionMap H (Trading.TradingFacility H)
  inbox : InsertionMap H H

/-- A new repository. -/
def FundingRepository.new {H : Type} : FundingRepository H where
  records := .empty
  idempotency := .empty
  activations := .empty
  facilities := .empty
  inbox := .empty

/-- What the methods answer. -/
structure FundingResult (H : Type) where
  record : Option (FundingRecord H)
  facility : Option (Trading.TradingFacility H) := none
  replayed : Bool
  deriving DecidableEq

/-- The argument of `consumeReceipt`. -/
structure ConsumeInput (H : Type) where
  fundingId : H
  receipt : Receipt H
  kernelSnapshot : KernelSnapshot H
  actorId : String
  nowMs : ℕ

/-- The argument of `activate`. -/
structure ActivateInput (H : Type) extends ActivationInput H where
  fundingId : H
  actorId : String

/-- A key was used for something else. -/
def fundingConflict (message : String) : DomainError where
  code := "hyperliquid_facility_funding_idempotency_conflict"
  message

/-- There is no record of this name. -/
def fundingUnavailable : DomainError where
  code := "hyperliquid_facility_funding_unavailable"
  message := "funding record is unavailable"

section Repository

variable {H : Type} [DecidableEq H] (prims : Primitives H)

/-- `#append`: of what goes into the evidence, only the actor comes from outside. -/
def append (actorId : String) : Domain Unit := assertNonEmptyString "actorRef" actorId

/-- Stores a new record; the same request again gives the stored one. -/
def create (repo : FundingRepository H) (draft : Draft H) (nowMs : ℕ) :
    Domain (FundingResult H) × FundingRepository H :=
  match repo.idempotency.get draft.idempotencyKeyHash with
  | some existingId =>
    match repo.records.get existingId with
    | none =>
      (.error { code := "TypeError", message := "Cannot read properties of undefined" }, repo)
    | some existing =>
      if existing.core.requestHash ≠ draft.requestHash then
        (.error (fundingConflict "idempotency key is bound to another funding request"), repo)
      else (.ok { record := some existing, replayed := true }, repo)
  | none =>
    match createPendingTestnetFacilityFundingRecord prims draft nowMs with
    | .error e => (.error e, repo)
    | .ok record =>
      ((append draft.guard.actorId).map fun _ ↦ { record := some record, replayed := false },
        { repo with
          records := repo.records.set record.core.fundingId record
          idempotency := repo.idempotency.set record.idempotencyKeyHash record.core.fundingId })

/-- `consumeReceipt`, up to where it writes: `none` is a replay. -/
def nextRecord (repo : FundingRepository H) (input : ConsumeInput H) :
    Domain (Option (FundingRecord H)) := do
  assertReceipt prims input.receipt
  match repo.inbox.get input.receipt.receiptId with
  | some payloadHash => do
    throwIf (payloadHash ≠ prims.hashId (.inboxPayload input.receipt))
      "hyperliquid_facility_funding_inbox_conflict"
      "receipt identity was reused with another payload"
    pure none
  | none =>
    match repo.records.get input.fundingId with
    | none => .error fundingUnavailable
    | some current => do
      let next ← transitionTestnetFacilityFundingRecord prims current input.receipt
        input.kernelSnapshot input.nowMs
      pure (some next)

/-- Takes a receipt; one that was taken before is a replay. -/
def consumeReceipt (repo : FundingRepository H) (input : ConsumeInput H) :
    Domain (FundingResult H) × FundingRepository H :=
  match nextRecord prims repo input with
  | .error e => (.error e, repo)
  | .ok none => (.ok { record := repo.records.get input.fundingId, replayed := true }, repo)
  | .ok (some next) =>
    let written := { repo with records := repo.records.set input.fundingId next }
    match append input.actorId with
    | .error e => (.error e, written)
    | .ok () =>
      (.ok { record := some next, replayed := false },
        { written with
          inbox := repo.inbox.set input.receipt.receiptId
            (prims.hashId (.inboxPayload input.receipt)) })

/-- Activates a record; the same command again gives what it gave. -/
def activate (repo : FundingRepository H) (input : ActivateInput H) :
    Domain (FundingResult H) × FundingRepository H :=
  match repo.activations.get input.activationIdempotencyKeyHash with
  | some prior =>
    if prior.activationCommandHash ≠ input.activationCommandHash then
      (.error (fundingConflict "activation idempotency key is bound to another command"), repo)
    else
      (.ok
        { record := repo.records.get prior.fundingId
          facility := repo.facilities.get prior.fundingId
          replayed := true }, repo)
  | none =>
    match repo.records.get input.fundingId with
    | none => (.error fundingUnavailable, repo)
    | some current =>
      match activateTestnetFacilityFundingRecord prims current input.toActivationInput with
      | .error e => (.error e, repo)
      | .ok next =>
        let written := { repo with records := repo.records.set input.fundingId next }
        if next.status = .incident then
          ((append input.actorId).map fun _ ↦ { record := some next, replayed := false }, written)
        else
          ((append input.actorId).map fun _ ↦
            { record := some next, facility := some input.activatedFacility, replayed := false },
            { written with
              facilities := repo.facilities.set input.fundingId input.activatedFacility
              activations := repo.activations.set input.activationIdempotencyKeyHash
                { fundingId := input.fundingId
                  activationCommandHash := input.activationCommandHash } })

/-- A call on the repository; a draft is made by `createDraft`. -/
inductive FundingInput (H : Type) where
  | create (idempotencyKey : String) (snapshot : KernelSnapshot H) (guard : FundingGuard H)
      (nowMs : ℕ)
  | consumeReceipt (input : ConsumeInput H)
  | activate (input : ActivateInput H)

/-- One call on the repository. -/
def fundingStep (repo : FundingRepository H) : FundingInput H → FundingRepository H
  | .create idempotencyKey snapshot guard nowMs =>
    (create prims repo (createDraft prims idempotencyKey snapshot guard) nowMs).2
  | .consumeReceipt input => (consumeReceipt prims repo input).2
  | .activate input => (activate prims repo input).2

/-! ## What a record goes through -/

/-- Why a receipt makes a record an incident. -/
def incidentReason (record : FundingRecord H) (receipt : Receipt H) (snapshot : KernelSnapshot H)
    (nowMs : ℕ) : Option String :=
  let existing := record.receiptHashOf receipt.contributorRole
  (kernelContradiction record snapshot).or
    ((receiptContradiction record receipt nowMs).or
      (if receipt.kind = .finalizedContribution ∧ existing ≠ none then
        some "duplicate_economic_contribution"
      else if receipt.kind = .reorgInvalidation ∧
          (existing = none ∨ receipt.relatedReceiptHash ≠ existing) then
        some "reorg_receipt_mismatch"
      else none))

/-- What a receipt leaves recorded for its role. -/
def Receipt.recorded (receipt : Receipt H) : Option H :=
  match receipt.kind with
  | .finalizedContribution => some receipt.receiptHash
  | .reorgInvalidation => none

/-- The amount that a record waits for. -/
def FundingCore.required (core : FundingCore H) : HyperliquidTestnetContributionRole → ℤ
  | .subjectFirstLoss => core.requiredSubjectContributionMinor
  | .providerPrincipal => core.requiredProviderContributionMinor

/-- `next` passed the check, and is about the same funding. -/
structure Follows (record next : FundingRecord H) : Prop where
  asserted : assertRecord prims next = .ok ()
  core_eq : next.core = record.core

/-- A receipt is taken in. -/
structure Received (record : FundingRecord H) (receipt : Receipt H) (next : FundingRecord H) :
    Prop extends Follows prims record next where
  asserted_receipt : assertReceipt prims receipt = .ok ()
  amount_eq : receipt.amountMinor = record.core.required receipt.contributorRole
  open_before : record.status ∉ terminalStatuses
  open_after : next.status ∉ terminalStatuses
  recorded_eq : next.receiptHashOf =
    Function.update record.receiptHashOf receipt.contributorRole receipt.recorded

/-- An incident is raised. -/
structure Raised (record next : FundingRecord H) : Prop extends Follows prims record next where
  open_before : record.status ∉ terminalStatuses
  status_eq : next.status = .incident
  recorded_eq : next.receiptHashOf = record.receiptHashOf

/-- The facility is activated. -/
structure Activated (record next : FundingRecord H) : Prop extends Follows prims record next where
  ready : record.status = .ready
  status_eq : next.status = .active
  recorded_eq : next.receiptHashOf = record.receiptHashOf

variable {prims}

theorem finishRecord_ok {record next : FundingRecord H} (h : finishRecord prims record = .ok next) :
    assertRecord prims next = .ok () ∧ ∃ stateHash, next = { record with stateHash } := by
  simp only [finishRecord, bind_eq_ok, pure_eq_ok] at h
  obtain ⟨_, hassert, rfl⟩ := h
  exact ⟨hassert, _, rfl⟩

theorem raiseIncident_ok {record next : FundingRecord H} {reasonCode : String}
    {receipt : Option (Receipt H)} {snapshot : KernelSnapshot H} {nowMs : ℕ}
    (hopen : record.status ∉ terminalStatuses)
    (h : raiseIncident prims record reasonCode receipt snapshot nowMs = .ok next) :
    Raised prims record next := by
  simp only [raiseIncident, bind_eq_ok] at h
  obtain ⟨_, -, h⟩ := h
  obtain ⟨hassert, stateHash, rfl⟩ := finishRecord_ok h
  exact ⟨⟨hassert, rfl⟩, hopen, rfl, funext fun role ↦ by cases role <;> rfl⟩

theorem ite_some_eq_none {α : Type} {c : Prop} [Decidable c] {x : α} {y : Option α} :
    (if c then some x else y) = none ↔ ¬ c ∧ y = none := by
  by_cases hc : c <;> simp [hc]

theorem receiptContradiction_eq_none {record : FundingRecord H} {receipt : Receipt H} {nowMs : ℕ}
    (h : receiptContradiction record receipt nowMs = none) :
    receipt.amountMinor = record.core.required receipt.contributorRole := by
  simp only [receiptContradiction, ite_some_eq_none] at h
  obtain ⟨-, -, -, -, hamount, -⟩ := h
  rw [FundingCore.required.eq_def]
  exact not_not.1 hamount

theorem stateFromContributions_not_mem (subjectFinalized providerFinalized : Bool) :
    stateFromContributions subjectFinalized providerFinalized ∉ terminalStatuses := by
  cases subjectFinalized <;> cases providerFinalized <;> decide

omit [DecidableEq H] in
theorem receiptHashOf_withReceipt (record : FundingRecord H)
    (role : HyperliquidTestnetContributionRole) (receiptHash : Option H) :
    (record.withReceipt role receiptHash).receiptHashOf
      = Function.update record.receiptHashOf role receiptHash := by
  funext role'
  cases role <;> cases role' <;> rfl

/-- What a receipt does to a record. -/
theorem transition_cases {record next : FundingRecord H} {receipt : Receipt H}
    {snapshot : KernelSnapshot H} {nowMs : ℕ}
    (h : transitionTestnetFacilityFundingRecord prims record receipt snapshot nowMs = .ok next) :
    record.status ∈ terminalStatuses ∧ next = record ∨
      record.status ∉ terminalStatuses ∧
        incidentReason record receipt snapshot nowMs ≠ none ∧ Raised prims record next ∨
      incidentReason record receipt snapshot nowMs = none ∧
        Received prims record receipt next := by
  simp only [transitionTestnetFacilityFundingRecord, bind_eq_ok] at h
  obtain ⟨_, -, _, hreceipt, _, -, _, -, h⟩ := h
  by_cases hopen : record.status ∈ terminalStatuses
  · rw [if_pos hopen, pure_eq_ok] at h
    exact .inl ⟨hopen, h.symm⟩
  · rw [if_neg hopen] at h
    refine .inr ?_
    rw [incidentReason]
    cases hkernel : kernelContradiction record snapshot with
    | some contradiction =>
      rw [hkernel] at h
      exact .inl ⟨hopen, (fun h ↦ by cases h), raiseIncident_ok hopen h⟩
    | none =>
      cases hcontradiction : receiptContradiction record receipt nowMs with
      | some reasonCode =>
        rw [hkernel, hcontradiction] at h
        exact .inl ⟨hopen, (fun h ↦ by cases h), raiseIncident_ok hopen h⟩
      | none =>
        rw [hkernel, hcontradiction] at h
        rw [Option.none_or, Option.none_or]
        dsimp only at h ⊢
        split_ifs at h ⊢ with hduplicate hmismatch
        · exact .inl ⟨hopen, (fun h ↦ by cases h), raiseIncident_ok hopen h⟩
        · exact .inl ⟨hopen, (fun h ↦ by cases h), raiseIncident_ok hopen h⟩
        · obtain ⟨hassert, stateHash, rfl⟩ := finishRecord_ok h
          refine .inr ⟨rfl, ⟨⟨hassert, rfl⟩, hreceipt, receiptContradiction_eq_none hcontradiction,
            hopen, stateFromContributions_not_mem _ _, ?_⟩⟩
          exact receiptHashOf_withReceipt record receipt.contributorRole receipt.recorded

/-- What an activation does to a record. -/
theorem activate_cases {record next : FundingRecord H} {input : ActivationInput H}
    (h : activateTestnetFacilityFundingRecord prims record input = .ok next) :
    record.status = .active ∧ next = record ∨
      record.status = .ready ∧ kernelContradiction record input.kernelSnapshot ≠ none ∧
        Raised prims record next ∨
      kernelContradiction record input.kernelSnapshot = none ∧ Activated prims record next := by
  simp only [activateTestnetFacilityFundingRecord, bind_eq_ok] at h
  obtain ⟨_, -, _, -, _, -, h⟩ := h
  by_cases hactive : record.status = .active
  · rw [if_pos hactive] at h
    simp only [bind_eq_ok, pure_eq_ok] at h
    obtain ⟨_, -, rfl⟩ := h
    exact .inl ⟨hactive, rfl⟩
  · rw [if_neg hactive] at h
    simp only [bind_eq_ok, throwIf_eq_ok, exists_const, not_not] at h
    obtain ⟨hready, h⟩ := h
    refine .inr ?_
    cases hkernel : kernelContradiction record input.kernelSnapshot with
    | some contradiction =>
      rw [hkernel] at h
      have hopen : record.status ∉ terminalStatuses := by
        rw [hready]
        decide
      exact .inl ⟨hready, (fun h ↦ by cases h), raiseIncident_ok hopen h⟩
    | none =>
      rw [hkernel] at h
      simp only [bind_eq_ok] at h
      obtain ⟨_, -, _, -, h⟩ := h
      obtain ⟨hassert, stateHash, rfl⟩ := finishRecord_ok h
      exact .inr ⟨rfl, ⟨⟨hassert, rfl⟩, hready, rfl, funext fun role ↦ by cases role <;> rfl⟩⟩

end Repository

end Funding
end Hyperliquid
end IpoOne
