import IpoOne.Hyperliquid.FundingRepository
import IpoOne.Lib.PrefixCode
import IpoOne.Trading.Invariant
import Mathlib

/-!
# Funding receipts commute

A draft funding record takes in the receipts of two roles in any order.  Along every run the
record says which receipts are final, and nothing but these receipts decides its totals and, as long
as the record is open, its status.  The repository is not indifferent to the order in one respect: a
receipt that does not fit the record as it stands (a second contribution of a role, a reorganization
of a receipt that is not there) makes the record an incident, which is final.
-/

set_option autoImplicit false

namespace IpoOne
namespace Hyperliquid
namespace Funding

open Fallible

section Runs

variable {H : Type} [DecidableEq H] (prims : Primitives H)

/-! ## One step -/

/-- The receipts that a step hands on to the record of a funding. -/
def taken (fundingId : H) (repo : FundingRepository H) : FundingInput H → List (Receipt H)
  | .consumeReceipt input =>
    match nextRecord prims repo input with
    | .ok (some _) => if input.fundingId = fundingId then [input.receipt] else []
    | _ => []
  | .create .. => []
  | .activate _ => []

/-- A step brings what contradicts the record of a funding as it stands. -/
def Contradicts (fundingId : H) (repo : FundingRepository H) (input : FundingInput H) : Prop :=
  ∃ record, repo.records.get fundingId = some record ∧
    match input with
    | .create .. => False
    | .consumeReceipt input =>
      input.fundingId = fundingId ∧ (∃ next, nextRecord prims repo input = .ok (some next)) ∧
        record.status ∉ terminalStatuses ∧
        incidentReason record input.receipt input.kernelSnapshot input.nowMs ≠ none
    | .activate input =>
      input.fundingId = fundingId ∧
        repo.activations.get input.activationIdempotencyKeyHash = none ∧
        (∃ next, activateTestnetFacilityFundingRecord prims record input.toActivationInput
          = .ok next) ∧
        record.status = .ready ∧ kernelContradiction record input.kernelSnapshot ≠ none

/-- What a step does to the record of a funding. -/
inductive FundingMove (fundingId : H) (repo : FundingRepository H) (input : FundingInput H)
    (record : FundingRecord H) : FundingRecord H → Prop
  | stay (fits : ¬ Contradicts prims fundingId repo input) :
    FundingMove fundingId repo input record record
  | receive {next : FundingRecord H} {receipt : Receipt H}
      (fits : ¬ Contradicts prims fundingId repo input)
      (taken_eq : taken prims fundingId repo input = [receipt])
      (received : Received prims record receipt next) : FundingMove fundingId repo input record next
  | incident {next : FundingRecord H} (contradicts : Contradicts prims fundingId repo input)
      (raised : Raised prims record next) : FundingMove fundingId repo input record next
  | activate {next : FundingRecord H} (fits : ¬ Contradicts prims fundingId repo input)
      (activated : Activated prims record next) : FundingMove fundingId repo input record next

variable {prims} {repo : FundingRepository H} {fundingId : H} {record : FundingRecord H}

theorem nextRecord_ok {input : ConsumeInput H} {next : FundingRecord H}
    (h : nextRecord prims repo input = .ok (some next)) :
    ∃ current, repo.records.get input.fundingId = some current ∧
      transitionTestnetFacilityFundingRecord prims current input.receipt input.kernelSnapshot
        input.nowMs = .ok next := by
  simp only [nextRecord, bind_eq_ok] at h
  obtain ⟨_, -, h⟩ := h
  split at h
  · simp only [bind_eq_ok, pure_eq_ok] at h
    obtain ⟨_, -, h⟩ := h
    cases h
  · split at h
    · cases h
    · rename_i current hcurrent
      simp only [bind_eq_ok, pure_eq_ok, Option.some.injEq] at h
      obtain ⟨_, h, rfl⟩ := h
      exact ⟨current, hcurrent, h⟩

theorem consumeReceipt_records {input : ConsumeInput H} {next : FundingRecord H}
    (h : nextRecord prims repo input = .ok (some next)) :
    (consumeReceipt prims repo input).2.records = repo.records.set input.fundingId next := by
  simp only [consumeReceipt, h]
  split <;> rfl

theorem consumeReceipt_idempotency (input : ConsumeInput H) :
    (consumeReceipt prims repo input).2.idempotency = repo.idempotency := by
  rw [consumeReceipt]
  split
  · rfl
  · rfl
  · dsimp only
    split <;> rfl

theorem consumeReceipt_move (hget : repo.records.get fundingId = some record)
    (input : ConsumeInput H) :
    ∃ next, (consumeReceipt prims repo input).2.records.get fundingId = some next ∧
      FundingMove prims fundingId repo (.consumeReceipt input) record next := by
  have hstay : (∀ next, nextRecord prims repo input ≠ .ok (some next)) ∨
      input.fundingId ≠ fundingId → FundingMove prims fundingId repo (.consumeReceipt input)
        record record := by
    refine fun hno ↦ .stay ?_
    rintro ⟨_, -, hid, ⟨next, hnext⟩, -⟩
    rcases hno with hno | hne
    · exact hno next hnext
    · exact hne hid
  rcases hnext : nextRecord prims repo input with e | _ | next
  · refine ⟨record, ?_, hstay (.inl fun next h ↦ by rw [hnext] at h; cases h)⟩
    rw [consumeReceipt, hnext]
    exact hget
  · refine ⟨record, ?_, hstay (.inl fun next h ↦ by rw [hnext] at h; cases h)⟩
    rw [consumeReceipt, hnext]
    exact hget
  · rw [consumeReceipt_records hnext]
    by_cases hid : input.fundingId = fundingId
    · obtain ⟨current, hcurrent, htransition⟩ := nextRecord_ok hnext
      rw [hid, hget, Option.some.injEq] at hcurrent
      subst hcurrent
      refine ⟨next, by rw [hid, InsertionMap.get_set_self], ?_⟩
      rcases transition_cases htransition with
        ⟨hterminal, rfl⟩ | ⟨hopen, hreason, hraised⟩ | ⟨hreason, hreceived⟩
      · refine .stay ?_
        rintro ⟨_, hget', -, -, hopen, -⟩
        rw [hget, Option.some.injEq] at hget'
        exact hopen (hget' ▸ hterminal)
      · exact .incident ⟨record, hget, hid, ⟨next, hnext⟩, hopen, hreason⟩ hraised
      · refine .receive ?_ ?_ hreceived
        · rintro ⟨_, hget', -, -, -, hreason'⟩
          rw [hget, Option.some.injEq] at hget'
          exact hreason' (hget' ▸ hreason)
        · simp only [taken, hnext, if_pos hid]
    · exact ⟨record, by rw [InsertionMap.get_set_of_ne _ _ (Ne.symm hid), hget],
        hstay (.inr hid)⟩

theorem activate_records {input : ActivateInput H} {current next : FundingRecord H}
    (hnew : repo.activations.get input.activationIdempotencyKeyHash = none)
    (hcurrent : repo.records.get input.fundingId = some current)
    (h : activateTestnetFacilityFundingRecord prims current input.toActivationInput = .ok next) :
    (activate prims repo input).2.records = repo.records.set input.fundingId next := by
  simp only [activate, hnew, hcurrent, h]
  split <;> rfl

theorem activate_idempotency (input : ActivateInput H) :
    (activate prims repo input).2.idempotency = repo.idempotency := by
  rw [activate]
  split
  · split <;> rfl
  · split
    · rfl
    · split
      · rfl
      · dsimp only
        split <;> rfl

/-- An activation goes through, or it leaves the records as they are. -/
theorem activate_records_cases (prims : Primitives H) (repo : FundingRepository H)
    (input : ActivateInput H) :
    (∃ current next, repo.activations.get input.activationIdempotencyKeyHash = none ∧
      repo.records.get input.fundingId = some current ∧
      activateTestnetFacilityFundingRecord prims current input.toActivationInput = .ok next) ∨
    (activate prims repo input).2.records = repo.records ∧
      ∀ fundingId, ¬ Contradicts prims fundingId repo (.activate input) := by
  rcases hprior : repo.activations.get input.activationIdempotencyKeyHash with _ | prior
  · rcases hcurrent : repo.records.get input.fundingId with _ | current
    · refine .inr ⟨by simp only [activate, hprior, hcurrent], ?_⟩
      rintro _ ⟨_, hget, rfl, -⟩
      rw [hcurrent] at hget
      cases hget
    · rcases hnext : activateTestnetFacilityFundingRecord prims current input.toActivationInput
        with e | next
      · refine .inr ⟨by simp only [activate, hprior, hcurrent, hnext], ?_⟩
        rintro _ ⟨_, hget, rfl, -, ⟨next, hok⟩, -⟩
        rw [hcurrent, Option.some.injEq] at hget
        rw [← hget, hnext] at hok
        cases hok
      · exact .inl ⟨current, next, rfl, rfl, hnext⟩
  · refine .inr ⟨?_, ?_⟩
    · simp only [activate, hprior]
      split <;> rfl
    · rintro _ ⟨_, -, -, hnew, -⟩
      rw [hprior] at hnew
      cases hnew

theorem activate_move (hget : repo.records.get fundingId = some record)
    (input : ActivateInput H) :
    ∃ next, (activate prims repo input).2.records.get fundingId = some next ∧
      FundingMove prims fundingId repo (.activate input) record next := by
  rcases activate_records_cases prims repo input with ⟨current, next, hnew, hcurrent, hnext⟩ |
    ⟨hsame, hfits⟩
  · rw [activate_records hnew hcurrent hnext]
    by_cases hid : input.fundingId = fundingId
    · rw [hid, hget, Option.some.injEq] at hcurrent
      subst hcurrent
      refine ⟨next, by rw [hid, InsertionMap.get_set_self], ?_⟩
      rcases activate_cases hnext with
        ⟨hactive, rfl⟩ | ⟨hready, hkernel, hraised⟩ | ⟨hkernel, hactivated⟩
      · refine .stay ?_
        rintro ⟨_, hget', -, -, -, hready, -⟩
        rw [hget, Option.some.injEq] at hget'
        rw [← hget', hactive] at hready
        cases hready
      · exact .incident ⟨record, hget, hid, hnew, ⟨next, hnext⟩, hready, hkernel⟩ hraised
      · refine .activate ?_ hactivated
        rintro ⟨_, hget', -, -, -, -, hkernel'⟩
        rw [hget, Option.some.injEq] at hget'
        exact hkernel' (hget' ▸ hkernel)
    · refine ⟨record, by rw [InsertionMap.get_set_of_ne _ _ (Ne.symm hid), hget], .stay ?_⟩
      rintro ⟨_, -, hid', -⟩
      exact hid hid'
  · exact ⟨record, by rw [hsame, hget], .stay (hfits fundingId)⟩

/-! ## The repository is kept in order -/

variable (prims) in
/-- What the module may expect of its hashes: requests under different keys have different
identifiers, and two receipts have different hashes. -/
structure CollisionFree : Prop where
  key_eq (request request' : FundingRequest H) :
    prims.slice (prims.hashId (.request request)) = prims.slice (prims.hashId (.request request')) →
      request.idempotencyKeyHash = request'.idempotencyKeyHash
  receiptCore_eq (core core' : ReceiptCore H) (evidence evidence' : H) :
    prims.hashId (.receipt core evidence) = prims.hashId (.receipt core' evidence') → core = core'

variable (prims) in
/-- A record that was checked, and is kept under the identifier of a request whose key is used
up. -/
structure Stored (repo : FundingRepository H) (fundingId : H) (record : FundingRecord H) :
    Prop where
  asserted : assertRecord prims record = .ok ()
  requested : ∃ request : FundingRequest H,
    fundingId = prims.slice (prims.hashId (.request request)) ∧
      repo.idempotency.get request.idempotencyKeyHash = some fundingId

variable (prims) in
/-- Every record is stored as it should be. -/
def Kept (repo : FundingRepository H) : Prop :=
  ∀ fundingId record, repo.records.get fundingId = some record → Stored prims repo fundingId record

theorem createPending_ok {draft : Draft H} {nowMs : ℕ}
    (h : createPendingTestnetFacilityFundingRecord prims draft nowMs = .ok record) :
    assertRecord prims record = .ok () ∧ record.core.fundingId = draft.fundingId ∧
      record.idempotencyKeyHash = draft.idempotencyKeyHash ∧
      record.status = .awaitingContributions ∧ record.receiptHashOf = fun _ ↦ none := by
  simp only [createPendingTestnetFacilityFundingRecord, bind_eq_ok] at h
  obtain ⟨_, -, _, -, h⟩ := h
  obtain ⟨hassert, stateHash, rfl⟩ := finishRecord_ok h
  exact ⟨hassert, rfl, rfl, rfl, funext fun role ↦ by cases role <;> rfl⟩

/-- A request makes a new record, or it leaves the repository as it is. -/
theorem create_cases (prims : Primitives H) (repo : FundingRepository H) (draft : Draft H)
    (nowMs : ℕ) :
    (create prims repo draft nowMs).2 = repo ∨
      ∃ record, repo.idempotency.get draft.idempotencyKeyHash = none ∧
        createPendingTestnetFacilityFundingRecord prims draft nowMs = .ok record ∧
        (create prims repo draft nowMs).2 =
          { repo with
            records := repo.records.set record.core.fundingId record
            idempotency :=
              repo.idempotency.set record.idempotencyKeyHash record.core.fundingId } := by
  rw [create]
  split
  · refine .inl ?_
    split
    · rfl
    · split <;> rfl
  · split
    · exact .inl rfl
    · exact .inr ⟨_, by assumption, by assumption, rfl⟩

/-- No request has the identifier of a record that is there. -/
theorem Kept.get_eq_none (hfree : CollisionFree prims) (hkept : Kept prims repo)
    {idempotencyKey : String} {snapshot : KernelSnapshot H} {guard : FundingGuard H}
    (hnew : repo.idempotency.get
      (createDraft prims idempotencyKey snapshot guard).idempotencyKeyHash = none) :
    repo.records.get (createDraft prims idempotencyKey snapshot guard).fundingId = none := by
  rcases hget : repo.records.get (createDraft prims idempotencyKey snapshot guard).fundingId
    with _ | record
  · rfl
  · obtain ⟨request, hid, hkey⟩ := (hkept _ _ hget).requested
    rw [hfree.key_eq request (fundingRequest prims idempotencyKey snapshot guard) hid.symm] at hkey
    cases hnew.symm.trans hkey

theorem FundingMove.asserted {input : FundingInput H} {next : FundingRecord H}
    (h : FundingMove prims fundingId repo input record next)
    (hassert : assertRecord prims record = .ok ()) : assertRecord prims next = .ok () := by
  cases h with
  | stay => exact hassert
  | receive _ _ received => exact received.asserted
  | incident _ raised => exact raised.asserted
  | activate _ activated => exact activated.asserted

/-- **What a step does to a record that is there.** -/
theorem fundingStep_move (hfree : CollisionFree prims) (hkept : Kept prims repo)
    (hget : repo.records.get fundingId = some record) (input : FundingInput H) :
    ∃ next, (fundingStep prims repo input).records.get fundingId = some next ∧
      FundingMove prims fundingId repo input record next := by
  cases input with
  | create idempotencyKey snapshot guard nowMs =>
    refine ⟨record, ?_, .stay fun ⟨_, _, hfalse⟩ ↦ hfalse⟩
    rw [fundingStep]
    rcases create_cases prims repo (createDraft prims idempotencyKey snapshot guard) nowMs with
      hsame | ⟨fresh, hnew, hfresh, hrepo⟩
    · rw [hsame, hget]
    · rw [hrepo]
      refine (InsertionMap.get_set_of_ne _ _ fun hid ↦ ?_).trans hget
      have hnone := hkept.get_eq_none hfree hnew
      rw [← (createPending_ok hfresh).2.1, ← hid, hget] at hnone
      cases hnone
  | consumeReceipt input => exact consumeReceipt_move hget input
  | activate input => exact activate_move hget input

theorem fundingStep_idempotency {key : H} (h : repo.idempotency.get key = some fundingId)
    (input : FundingInput H) : (fundingStep prims repo input).idempotency.get key
      = some fundingId := by
  cases input with
  | create idempotencyKey snapshot guard nowMs =>
    rw [fundingStep]
    rcases create_cases prims repo (createDraft prims idempotencyKey snapshot guard) nowMs with
      hsame | ⟨fresh, hnew, hfresh, hrepo⟩
    · rw [hsame, h]
    · rw [hrepo]
      refine (InsertionMap.get_set_of_ne _ _ fun hkey ↦ ?_).trans h
      rw [(createPending_ok hfresh).2.2.1] at hkey
      rw [← hkey, h] at hnew
      cases hnew
  | consumeReceipt input =>
    rw [fundingStep, consumeReceipt_idempotency]
    exact h
  | activate input =>
    rw [fundingStep, activate_idempotency]
    exact h

/-- Only a request makes a record that was not there. -/
theorem fundingStep_new (hget : repo.records.get fundingId = none) {input : FundingInput H}
    (hnext : (fundingStep prims repo input).records.get fundingId = some record) :
    Stored prims (fundingStep prims repo input) fundingId record := by
  cases input with
  | create idempotencyKey snapshot guard nowMs =>
    rw [fundingStep] at hnext ⊢
    rcases create_cases prims repo (createDraft prims idempotencyKey snapshot guard) nowMs with
      hsame | ⟨fresh, hnew, hfresh, hrepo⟩
    · rw [hsame, hget] at hnext
      cases hnext
    · rw [hrepo] at hnext ⊢
      rw [InsertionMap.get_set] at hnext
      obtain ⟨hassert, hid, hkey, -⟩ := createPending_ok hfresh
      split at hnext
      · rename_i heq
        cases hnext
        refine ⟨hassert, fundingRequest prims idempotencyKey snapshot guard, ?_, ?_⟩
        · rw [heq, hid]
          rfl
        · rw [heq, hkey]
          exact InsertionMap.get_set_self ..
      · rw [hget] at hnext
        cases hnext
  | consumeReceipt input =>
    rw [fundingStep] at hnext
    rcases h : nextRecord prims repo input with e | _ | next
    · rw [consumeReceipt, h, hget] at hnext
      cases hnext
    · rw [consumeReceipt, h, hget] at hnext
      cases hnext
    · obtain ⟨current, hcurrent, -⟩ := nextRecord_ok h
      rw [consumeReceipt_records h, InsertionMap.get_set_of_ne, hget] at hnext
      · cases hnext
      · rintro rfl
        cases hget.symm.trans hcurrent
  | activate input =>
    rw [fundingStep] at hnext
    rcases activate_records_cases prims repo input with ⟨current, next, hnew, hcurrent, h⟩ |
      ⟨hsame, -⟩
    · rw [activate_records hnew hcurrent h, InsertionMap.get_set_of_ne, hget] at hnext
      · cases hnext
      · rintro rfl
        cases hget.symm.trans hcurrent
    · rw [hsame, hget] at hnext
      cases hnext

theorem Kept.fundingStep (hfree : CollisionFree prims) (hkept : Kept prims repo)
    (input : FundingInput H) : Kept prims (fundingStep prims repo input) := by
  intro id next hnext
  rcases hget : repo.records.get id with _ | record
  · exact fundingStep_new hget hnext
  · obtain ⟨next', hnext', hmove⟩ := fundingStep_move hfree hkept hget input
    rw [hnext, Option.some.injEq] at hnext'
    subst hnext'
    have hstored := hkept id record hget
    refine ⟨hmove.asserted hstored.asserted, ?_⟩
    obtain ⟨request, hid, hkey⟩ := hstored.requested
    exact ⟨request, hid, fundingStep_idempotency hkey input⟩

theorem Kept.of_reachable (hfree : CollisionFree prims)
    (h : Run.Reachable (Funding.fundingStep prims) .new repo) : Kept prims repo :=
  Run.reachable_induct (fun _ input hkept ↦ hkept.fundingStep hfree input)
    (fun _ _ hget ↦ by cases hget) h

/-! ## What a record says -/

/-- What is recorded for a role. -/
def FundingRecord.contribution (record : FundingRecord H)
    (role : HyperliquidTestnetContributionRole) :
    ℤ :=
  if (record.receiptHashOf role).isSome then record.core.required role else 0

/-- The core and the receipts of a record decide its amounts and, while it is open, its status. -/
structure Consistent (record : FundingRecord H) : Prop where
  subject_eq : record.subjectContributionMinor = record.contribution .subjectFirstLoss
  provider_eq : record.providerContributionMinor = record.contribution .providerPrincipal
  total_eq : record.reconciledTotalMinor
    = record.contribution .subjectFirstLoss + record.contribution .providerPrincipal
  total_le : record.reconciledTotalMinor ≤ record.core.maximumFacilityCapMinor
  finalized_eq : record.subjectContributionFinalized
      = (record.receiptHashOf .subjectFirstLoss).isSome ∧
    record.providerContributionFinalized = (record.receiptHashOf .providerPrincipal).isSome
  status_eq : record.status ∉ terminalStatuses →
    record.status = stateFromContributions record.subjectContributionFinalized
      record.providerContributionFinalized

theorem assertRecord_ok (h : assertRecord prims record = .ok ()) : Consistent record := by
  simp only [assertRecord, identifier, positiveInteger, nonNegativeInteger, positiveMinor,
    nonNegativeMinor, invalidInput, invalidRecord, bind_eq_ok, throwIf_eq_ok, exists_and_left,
    exists_const, not_not] at h
  obtain ⟨-, -, -, -, -, -, -, -, -, hsubject, hprovider, -, -, -, -, -, hcontributions, hlife⟩ := h
  obtain ⟨hcap, htotal, hfs, hfp, hs, hp, hs0, hp0⟩ := hcontributions
  obtain ⟨-, -, hopen⟩ := hlife
  have hsubject_eq : record.subjectContributionMinor = record.contribution .subjectFirstLoss := by
    rw [FundingRecord.contribution, FundingRecord.receiptHashOf, FundingCore.required, ← hfs]
    cases hfinal : record.subjectContributionFinalized with
    | true => exact hs hfinal
    | false => exact hs0 hfinal
  have hprovider_eq : record.providerContributionMinor
      = record.contribution .providerPrincipal := by
    rw [FundingRecord.contribution, FundingRecord.receiptHashOf, FundingCore.required, ← hfp]
    cases hfinal : record.providerContributionFinalized with
    | true => exact hp hfinal
    | false => exact hp0 hfinal
  have hcap_subject : record.contribution .subjectFirstLoss
      ≤ record.core.requiredSubjectContributionMinor := by
    rw [FundingRecord.contribution, FundingCore.required]
    split <;> omega
  have hcap_provider : record.contribution .providerPrincipal
      ≤ record.core.requiredProviderContributionMinor := by
    rw [FundingRecord.contribution, FundingCore.required]
    split <;> omega
  refine ⟨hsubject_eq, hprovider_eq, ?_, ?_, ⟨hfs, hfp⟩, fun hstatus ↦ (hopen hstatus).1⟩
  · rw [← htotal, hsubject_eq, hprovider_eq]
  · rw [← htotal, hsubject_eq, hprovider_eq]
    omega

/-! ## Runs -/

variable (prims) in
/-- The receipts that a run hands on to the record of a funding. -/
def takenAlong (fundingId : H) : FundingRepository H → List (FundingInput H) → List (Receipt H)
  | _, [] => []
  | repo, input :: rest =>
    taken prims fundingId repo input ++ takenAlong fundingId (fundingStep prims repo input) rest

/-- The receipts among these that a record has as final. -/
def finalizedReceipts (record : FundingRecord H) (receipts : List (Receipt H)) :
    Finset (Receipt H) :=
  (receipts.filter fun receipt ↦ receipt.kind = .finalizedContribution ∧
    record.receiptHashOf receipt.contributorRole = some receipt.receiptHash).toFinset

theorem takenAlong_append (past : List (FundingInput H)) (input : FundingInput H) :
    takenAlong prims fundingId repo (past ++ [input]) =
      takenAlong prims fundingId repo past ++
        taken prims fundingId (Run.run (fundingStep prims) repo past) input := by
  induction past generalizing repo with
  | nil => simp [takenAlong, Run.run]
  | cons head rest ih => rw [List.cons_append, takenAlong, ih, takenAlong, List.append_assoc]; rfl

theorem assertReceipt_of_mem_taken {input : FundingInput H} {receipt : Receipt H}
    (h : receipt ∈ taken prims fundingId repo input) : assertReceipt prims receipt = .ok () := by
  cases input with
  | create => cases h
  | activate => cases h
  | consumeReceipt input =>
    rw [taken] at h
    split at h
    · rename_i next hnext
      split at h
      · rw [List.mem_singleton] at h
        subst h
        simp only [nextRecord, bind_eq_ok] at hnext
        exact hnext.choose_spec.1
      · cases h
    · cases h

variable (prims) in
/-- What is known of a record, given the receipts that were handed on to it. -/
structure Traced (draft : FundingRecord H) (receipts : List (Receipt H))
    (record : FundingRecord H) :
    Prop where
  asserted : assertRecord prims record = .ok ()
  core_eq : record.core = draft.core
  receipts_asserted : ∀ receipt ∈ receipts, assertReceipt prims receipt = .ok ()
  backed : ∀ role receiptHash, record.receiptHashOf role = some receiptHash →
    ∃ receipt ∈ receipts, receipt.kind = .finalizedContribution ∧ receipt.contributorRole = role ∧
      receipt.receiptHash = receiptHash ∧ receipt.amountMinor = draft.core.required role

theorem Traced.step {draft next : FundingRecord H} {receipts : List (Receipt H)}
    {input : FundingInput H} (h : Traced prims draft receipts record)
    (hmove : FundingMove prims fundingId repo input record next) :
    Traced prims draft (receipts ++ taken prims fundingId repo input) next := by
  have hreceipts : ∀ receipt ∈ receipts ++ taken prims fundingId repo input,
      assertReceipt prims receipt = .ok () := by
    intro receipt hmem
    rcases List.mem_append.1 hmem with hold | hnew
    · exact h.receipts_asserted receipt hold
    · exact assertReceipt_of_mem_taken hnew
  have hbacked : ∀ role receiptHash, record.receiptHashOf role = some receiptHash →
      ∃ receipt ∈ receipts ++ taken prims fundingId repo input,
        receipt.kind = .finalizedContribution ∧ receipt.contributorRole = role ∧
          receipt.receiptHash = receiptHash ∧ receipt.amountMinor = draft.core.required role := by
    intro role receiptHash hrole
    obtain ⟨receipt, hmem, hreceipt⟩ := h.backed role receiptHash hrole
    exact ⟨receipt, List.mem_append_left _ hmem, hreceipt⟩
  refine ⟨hmove.asserted h.asserted, ?_, hreceipts, ?_⟩
  · cases hmove with
    | stay => exact h.core_eq
    | receive _ _ received => rw [received.core_eq, h.core_eq]
    | incident _ raised => rw [raised.core_eq, h.core_eq]
    | activate _ activated => rw [activated.core_eq, h.core_eq]
  · cases hmove with
    | stay => exact hbacked
    | incident _ raised =>
      rw [raised.recorded_eq]
      exact hbacked
    | activate _ activated =>
      rw [activated.recorded_eq]
      exact hbacked
    | @receive _ receipt _ htaken received =>
      intro role receiptHash hrole
      rw [received.recorded_eq, Function.update_apply] at hrole
      split at hrole
      · rename_i heq
        subst heq
        rw [Receipt.recorded] at hrole
        split at hrole
        · rename_i hkind
          cases hrole
          refine ⟨receipt, List.mem_append_right _ ?_, hkind, rfl, rfl, ?_⟩
          · rw [htaken]
            exact List.mem_singleton_self receipt
          · rw [received.amount_eq, h.core_eq]
        · cases hrole
      · exact hbacked role receiptHash hrole

theorem assertReceipt_ok {receipt : Receipt H} (h : assertReceipt prims receipt = .ok ()) :
    createSimulatedTestnetContributionReceipt prims receipt.toReceiptInput receipt.observedAt
        = .ok receipt ∧
      receipt.receiptHash =
        prims.hashId (.receipt receipt.toReceiptCore receipt.sourceEvidenceHash) := by
  simp only [assertReceipt, invalidReceipt, bind_eq_ok, throwIf_eq_ok, not_not] at h
  obtain ⟨_, hcreate, rfl⟩ := h
  refine ⟨hcreate, ?_⟩
  simp only [createSimulatedTestnetContributionReceipt, bind_eq_ok, pure_eq_ok] at hcreate
  obtain ⟨_, -, _, -, _, -, _, -, hreceipt⟩ := hcreate
  rw [← hreceipt]

/-- Receipts that pass their check and have the same hash are the same. -/
theorem CollisionFree.receipt_eq (hfree : CollisionFree prims) {receipt receipt' : Receipt H}
    (h : assertReceipt prims receipt = .ok ()) (h' : assertReceipt prims receipt' = .ok ())
    (heq : receipt.receiptHash = receipt'.receiptHash) : receipt = receipt' := by
  obtain ⟨hcreate, hhash⟩ := assertReceipt_ok h
  obtain ⟨hcreate', hhash'⟩ := assertReceipt_ok h'
  rw [hhash, hhash'] at heq
  have hcore := hfree.receiptCore_eq _ _ _ _ heq
  rw [hcore, hcreate'] at hcreate
  exact (Except.ok.inj hcreate).symm

theorem mem_finalizedReceipts {receipts : List (Receipt H)} {receipt : Receipt H} :
    receipt ∈ finalizedReceipts record receipts ↔
      receipt ∈ receipts ∧ receipt.kind = .finalizedContribution ∧
        record.receiptHashOf receipt.contributorRole = some receipt.receiptHash := by
  rw [finalizedReceipts, List.mem_toFinset, List.mem_filter, decide_eq_true_eq]

theorem Traced.sum_role_eq (hfree : CollisionFree prims) {draft : FundingRecord H}
    {receipts : List (Receipt H)} (h : Traced prims draft receipts record)
    (role : HyperliquidTestnetContributionRole) :
    ∑ receipt ∈ (finalizedReceipts record receipts).filter (·.contributorRole = role),
      receipt.amountMinor = record.contribution role := by
  rw [FundingRecord.contribution]
  rcases hrole : record.receiptHashOf role with _ | receiptHash
  · have hempty : (finalizedReceipts record receipts).filter (·.contributorRole = role) = ∅ := by
      refine Finset.filter_eq_empty_iff.2 fun receipt hmem heq ↦ ?_
      have hsome := (mem_finalizedReceipts.1 hmem).2.2
      rw [heq, hrole] at hsome
      cases hsome
    rw [hempty]
    rfl
  · obtain ⟨receipt, hmem, hkind, hreceiptRole, hhash, hamount⟩ := h.backed role receiptHash hrole
    have hsingle : (finalizedReceipts record receipts).filter (·.contributorRole = role)
        = {receipt} := by
      refine Finset.eq_singleton_iff_unique_mem.2 ⟨?_, fun other hother ↦ ?_⟩
      · rw [Finset.mem_filter, mem_finalizedReceipts, hreceiptRole, hrole, hhash]
        exact ⟨⟨hmem, hkind, rfl⟩, rfl⟩
      · rw [Finset.mem_filter, mem_finalizedReceipts] at hother
        obtain ⟨⟨hother_mem, -, hother_hash⟩, hother_role⟩ := hother
        rw [hother_role, hrole, Option.some.injEq] at hother_hash
        exact hfree.receipt_eq (h.receipts_asserted other hother_mem)
          (h.receipts_asserted receipt hmem) (hother_hash.symm.trans hhash.symm)
    rw [hsingle, Finset.sum_singleton, hamount, h.core_eq]
    rfl

/-- The total of a record is that of its final receipts. -/
theorem Traced.total_eq (hfree : CollisionFree prims) {draft : FundingRecord H}
    {receipts : List (Receipt H)} (h : Traced prims draft receipts record) :
    record.reconciledTotalMinor
      = ∑ receipt ∈ finalizedReceipts record receipts, receipt.amountMinor := by
  rw [(assertRecord_ok h.asserted).total_eq, ← h.sum_role_eq hfree, ← h.sum_role_eq hfree,
    ← Finset.sum_filter_add_sum_filter_not (finalizedReceipts record receipts)
      (·.contributorRole = .subjectFirstLoss)]
  congr 2
  refine Finset.filter_congr fun receipt _ ↦ ?_
  cases receipt.contributorRole <;> simp

/-- Records with the same final receipts have the same receipt for each role. -/
theorem Traced.receiptHashOf_eq {draft other : FundingRecord H}
    {receipts receipts' : List (Receipt H)}
    (h : Traced prims draft receipts record) (h' : Traced prims draft receipts' other)
    (hsame : finalizedReceipts record receipts = finalizedReceipts other receipts') :
    record.receiptHashOf = other.receiptHashOf := by
  have hsub : ∀ {a b : FundingRecord H} {xs ys : List (Receipt H)}, Traced prims draft xs a →
      finalizedReceipts a xs = finalizedReceipts b ys → ∀ role receiptHash,
      a.receiptHashOf role = some receiptHash → b.receiptHashOf role = some receiptHash := by
    intro a b xs ys ha heq role receiptHash hrole
    obtain ⟨receipt, hmem, hkind, rfl, rfl, -⟩ := ha.backed role receiptHash hrole
    have hfinal := mem_finalizedReceipts.2 ⟨hmem, hkind, hrole⟩
    rw [heq] at hfinal
    exact (mem_finalizedReceipts.1 hfinal).2.2
  funext role
  rcases hrole : record.receiptHashOf role with _ | receiptHash
  · rcases hrole' : other.receiptHashOf role with _ | receiptHash'
    · rfl
    · rw [hsub h' hsame.symm role receiptHash' hrole'] at hrole
      cases hrole
  · exact (hsub h hsame role receiptHash hrole).symm

/-- A step that leaves an incident, or makes one. -/
theorem FundingMove.incident_iff {input : FundingInput H} {next : FundingRecord H}
    (h : FundingMove prims fundingId repo input record next) :
    next.status = .incident ↔
      record.status = .incident ∨ Contradicts prims fundingId repo input := by
  have hterminal : ∀ {r : FundingRecord H}, r.status ∉ terminalStatuses → r.status ≠ .incident := by
    intro r hr heq
    rw [heq] at hr
    exact hr (by decide)
  cases h with
  | stay fits => exact (or_iff_left fits).symm
  | receive fits _ received =>
    refine iff_of_false (hterminal received.open_after) (not_or.2 ⟨?_, fits⟩)
    exact hterminal received.open_before
  | incident contradicts raised => exact iff_of_true raised.status_eq (.inr contradicts)
  | activate fits activated =>
    refine iff_of_false ?_ (not_or.2 ⟨?_, fits⟩)
    · rw [activated.status_eq]
      decide
    · rw [activated.ready]
      decide

/-- A record that is final stays as it is. -/
theorem FundingMove.eq_of_terminal {input : FundingInput H} {next : FundingRecord H}
    (h : FundingMove prims fundingId repo input record next)
    (hterminal : record.status ∈ terminalStatuses) : next = record := by
  cases h with
  | stay => rfl
  | receive _ _ received => exact absurd hterminal received.open_before
  | incident _ raised => exact absurd hterminal raised.open_before
  | activate _ activated =>
    rw [activated.ready] at hterminal
    exact absurd hterminal (by decide)

/-- A record becomes active only when it is ready. -/
theorem FundingMove.ready_of_active {input : FundingInput H} {next : FundingRecord H}
    (h : FundingMove prims fundingId repo input record next) (hactive : next.status = .active)
    (hbefore : record.status ≠ .active) : record.status = .ready := by
  cases h with
  | stay => exact absurd hactive hbefore
  | receive _ _ received =>
    have hopen := received.open_after
    rw [hactive] at hopen
    exact absurd (by decide) hopen
  | incident _ raised =>
    rw [raised.status_eq] at hactive
    cases hactive
  | activate _ activated => exact activated.ready

/-- Nothing in a run contradicts the record of a funding. -/
def Undisturbed (prims : Primitives H) (fundingId : H) (start : FundingRepository H)
    (inputs : List (FundingInput H)) : Prop :=
  Run.Steps (fundingStep prims) (fun repo input ↦ ¬ Contradicts prims fundingId repo input) start
    inputs

theorem Kept.run (hfree : CollisionFree prims) (hkept : Kept prims repo)
    (inputs : List (FundingInput H)) :
    Kept prims (Run.run (Funding.fundingStep prims) repo inputs) :=
  Run.run_induct (fun _ input h ↦ h.fundingStep hfree input) hkept inputs

/-- A record is an incident exactly if something has contradicted it. -/
theorem incident_iff_not_undisturbed (hfree : CollisionFree prims)
    (inputs : List (FundingInput H)) :
    ∀ {repo : FundingRepository H} {record last : FundingRecord H}, Kept prims repo →
      repo.records.get fundingId = some record →
      (Run.run (fundingStep prims) repo inputs).records.get fundingId = some last →
      (last.status = .incident ↔
        record.status = .incident ∨ ¬ Undisturbed prims fundingId repo inputs) := by
  induction inputs with
  | nil =>
    intro repo record last _ hget hlast
    have heq : record = last := Option.some.inj (hget.symm.trans hlast)
    rw [heq]
    exact (or_iff_left fun h ↦ h trivial).symm
  | cons input rest ih =>
    intro repo record last hkept hget hlast
    obtain ⟨next, hnext, hmove⟩ := fundingStep_move hfree hkept hget input
    rw [ih (hkept.fundingStep hfree input) hnext hlast, hmove.incident_iff, or_assoc]
    refine or_congr_right ?_
    show _ ↔ ¬ (_ ∧ _)
    rw [not_and_or, not_not]
    rfl

theorem run_eq_of_terminal (hfree : CollisionFree prims) (inputs : List (FundingInput H)) :
    ∀ {repo : FundingRepository H}, Kept prims repo → repo.records.get fundingId = some record →
      record.status ∈ terminalStatuses →
      (Run.run (fundingStep prims) repo inputs).records.get fundingId = some record := by
  induction inputs with
  | nil => exact fun _ hget _ ↦ hget
  | cons input rest ih =>
    intro repo hkept hget hterminal
    obtain ⟨next, hnext, hmove⟩ := fundingStep_move hfree hkept hget input
    rw [hmove.eq_of_terminal hterminal] at hnext
    exact ih (hkept.fundingStep hfree input) hnext hterminal

theorem run_traced (hfree : CollisionFree prims) {draft : FundingRecord H} (hkept : Kept prims repo)
    (hget : repo.records.get fundingId = some draft)
    (hnothing : draft.receiptHashOf = fun _ ↦ none) (inputs : List (FundingInput H)) :
    ∃ record, (Run.run (fundingStep prims) repo inputs).records.get fundingId = some record ∧
      Traced prims draft (takenAlong prims fundingId repo inputs) record := by
  -- by induction on the history, whose last step is the move
  induction inputs using List.reverseRecOn with
  | nil =>
    refine ⟨draft, hget, (hkept _ _ hget).asserted, rfl, ?_, ?_⟩
    · rintro _ ⟨⟩
    · intro role receiptHash hrole
      rw [hnothing] at hrole
      cases hrole
  | append_singleton past input ih =>
    obtain ⟨record, hrecord, htraced⟩ := ih
    obtain ⟨next, hnext, hmove⟩ := fundingStep_move hfree (hkept.run hfree past) hrecord input
    refine ⟨next, ?_, ?_⟩
    · rw [Run.run_append]
      exact hnext
    · rw [takenAlong_append]
      exact htraced.step hmove

/-- What is known of the record of a funding after a run from its draft. -/
structure FundingRun (prims : Primitives H) (start : FundingRepository H) (draft : FundingRecord H)
    (inputs : List (FundingInput H)) (record : FundingRecord H) : Prop where
  get_eq :
    (Run.run (fundingStep prims) start inputs).records.get draft.core.fundingId = some record
  total_eq : record.reconciledTotalMinor =
    ∑ receipt ∈ finalizedReceipts record (takenAlong prims draft.core.fundingId start inputs),
      receipt.amountMinor
  total_le : record.reconciledTotalMinor ≤ draft.core.maximumFacilityCapMinor
  incident_iff : record.status = .incident ↔
    ¬ Undisturbed prims draft.core.fundingId start inputs
  /-- The record becomes active only from ready, with both contributions final. -/
  ready_of_active : ∀ past input future, inputs = past ++ input :: future → ∀ before after,
    (Run.run (fundingStep prims) start past).records.get draft.core.fundingId = some before →
    (Run.run (fundingStep prims) start (past ++ [input])).records.get draft.core.fundingId
      = some after →
    after.status = .active → before.status ≠ .active →
    before.status = .ready ∧ before.subjectContributionFinalized = true ∧
      before.providerContributionFinalized = true
  /-- Once the record is active or an incident, it does not change. -/
  eq_of_terminal : ∀ past future, inputs = past ++ future → ∀ before,
    (Run.run (fundingStep prims) start past).records.get draft.core.fundingId = some before →
    before.status ∈ terminalStatuses → record = before

theorem finalized_of_ready (h : assertRecord prims record = .ok ())
    (hready : record.status = .ready) :
    record.subjectContributionFinalized = true ∧ record.providerContributionFinalized = true := by
  have hstatus := (assertRecord_ok h).status_eq (by rw [hready]; decide)
  rw [hready] at hstatus
  have hboth : ∀ s p : Bool, .ready = stateFromContributions s p → s = true ∧ p = true := by
    decide
  exact hboth _ _ hstatus

theorem fundingRun_of_draft (hfree : CollisionFree prims) {start : FundingRepository H}
    {draft : FundingRecord H} (hkept : Kept prims start)
    (hget : start.records.get draft.core.fundingId = some draft)
    (hstatus : draft.status = .awaitingContributions)
    (hnothing : draft.receiptHashOf = fun _ ↦ none) (inputs : List (FundingInput H)) :
    ∃ record, FundingRun prims start draft inputs record ∧
      Traced prims draft (takenAlong prims draft.core.fundingId start inputs) record := by
  obtain ⟨record, hrecord, htraced⟩ := run_traced hfree hkept hget hnothing inputs
  refine ⟨record, ⟨hrecord, htraced.total_eq hfree, ?_, ?_, ?_, ?_⟩, htraced⟩
  · rw [← htraced.core_eq]
    exact (assertRecord_ok htraced.asserted).total_le
  · rw [incident_iff_not_undisturbed hfree inputs hkept hget hrecord, hstatus]
    exact or_iff_right nofun
  · rintro past input future - before after hbefore hafter hactive hne
    have hpast := hkept.run hfree past
    obtain ⟨next, hnext, hmove⟩ := fundingStep_move hfree hpast hbefore input
    rw [Run.run_append] at hafter
    have heq : next = after := Option.some.inj (hnext.symm.trans hafter)
    rw [heq] at hmove
    have hready := hmove.ready_of_active hactive hne
    exact ⟨hready, finalized_of_ready (hpast _ _ hbefore).asserted hready⟩
  · rintro past future rfl before hbefore hterminal
    rw [Run.run_append, run_eq_of_terminal hfree future (hkept.run hfree past) hbefore hterminal]
      at hrecord
    exact (Option.some.inj hrecord).symm

theorem create_draft {idempotencyKey : String} {snapshot : KernelSnapshot H}
    {guard : FundingGuard H} {nowMs : ℕ} {draft : FundingRecord H}
    (h : (create prims repo (createDraft prims idempotencyKey snapshot guard) nowMs).1
      = .ok { record := some draft, replayed := false }) :
    (fundingStep prims repo (.create idempotencyKey snapshot guard nowMs)).records.get
        draft.core.fundingId = some draft ∧
      draft.status = .awaitingContributions ∧ draft.receiptHashOf = fun _ ↦ none := by
  rw [fundingStep]
  rw [create] at h ⊢
  split at h
  · split at h
    · cases h
    · split at h
      · cases h
      · cases h
  · split at h
    · cases h
    · rename_i fresh hfresh
      obtain ⟨-, -, -, hstatus, hnothing⟩ := createPending_ok hfresh
      have heq : fresh = draft := by
        cases happend : append (createDraft prims idempotencyKey snapshot guard).guard.actorId with
        | error e =>
          rw [happend] at h
          cases h
        | ok u =>
          rw [happend] at h
          cases h
          rfl
      subst heq
      exact ⟨InsertionMap.get_set_self .., hstatus, hnothing⟩

/-- **Funding receipts commute, up to incidents.**  Two runs from the same draft that leave the same
receipts final leave the same amounts, and the same status unless exactly one of them brought
something that contradicts the record, or exactly one of them activated it. -/
theorem funding_receipts_commute (hfree : CollisionFree prims)
    (hreachable : Run.Reachable (fundingStep prims) .new repo) {idempotencyKey : String}
    {snapshot : KernelSnapshot H} {guard : FundingGuard H} {nowMs : ℕ} {draft : FundingRecord H}
    (hcreate : (create prims repo (createDraft prims idempotencyKey snapshot guard) nowMs).1
      = .ok { record := some draft, replayed := false })
    (left right : List (FundingInput H)) :
    let start := fundingStep prims repo (.create idempotencyKey snapshot guard nowMs)
    let fundingId := draft.core.fundingId
    ∃ l r, FundingRun prims start draft left l ∧ FundingRun prims start draft right r ∧
      (finalizedReceipts l (takenAlong prims fundingId start left)
          = finalizedReceipts r (takenAlong prims fundingId start right) →
        l.subjectContributionMinor = r.subjectContributionMinor ∧
        l.providerContributionMinor = r.providerContributionMinor ∧
        l.reconciledTotalMinor = r.reconciledTotalMinor ∧
        ((Undisturbed prims fundingId start left ↔ Undisturbed prims fundingId start right) →
          (l.status = .active ↔ r.status = .active) → l.status = r.status)) := by
  intro start fundingId
  obtain ⟨hget, hstatus, hnothing⟩ := create_draft hcreate
  have hkept : Kept prims start :=
    Kept.of_reachable hfree (Run.reachable_step hreachable _)
  obtain ⟨l, hl, hltraced⟩ := fundingRun_of_draft hfree hkept hget hstatus hnothing left
  obtain ⟨r, hr, hrtraced⟩ := fundingRun_of_draft hfree hkept hget hstatus hnothing right
  refine ⟨l, r, hl, hr, fun hsame ↦ ?_⟩
  have hreceipts := hltraced.receiptHashOf_eq hrtraced hsame
  have hcore : l.core = r.core := hltraced.core_eq.trans hrtraced.core_eq.symm
  have hlc := assertRecord_ok hltraced.asserted
  have hrc := assertRecord_ok hrtraced.asserted
  have hcontribution : l.contribution = r.contribution := by
    funext role
    rw [FundingRecord.contribution, FundingRecord.contribution, hreceipts, hcore]
  refine ⟨?_, ?_, ?_, fun hdisturbed hactive ↦ ?_⟩
  · rw [hlc.subject_eq, hrc.subject_eq, hcontribution]
  · rw [hlc.provider_eq, hrc.provider_eq, hcontribution]
  · rw [hlc.total_eq, hrc.total_eq, hcontribution]
  · have hincident : l.status = .incident ↔ r.status = .incident := by
      rw [hl.incident_iff, hr.incident_iff, hdisturbed]
    by_cases hterminal : l.status ∈ terminalStatuses
    · rcases List.mem_pair.1 hterminal with h | h
      · rw [h, hactive.1 h]
      · rw [h, hincident.1 h]
    · have hterminal' : r.status ∉ terminalStatuses := by
        intro hmem
        rcases List.mem_pair.1 hmem with h | h
        · exact hterminal (List.mem_pair.2 (.inl (hactive.2 h)))
        · exact hterminal (List.mem_pair.2 (.inr (hincident.2 h)))
      rw [hlc.status_eq hterminal, hrc.status_eq hterminal', hlc.finalized_eq.1,
        hlc.finalized_eq.2, hrc.finalized_eq.1, hrc.finalized_eq.2, hreceipts]

end Runs

namespace Sample

open Trading (TradingSample.hashId TradingSample.after TradingSample.start TradingSample.proposal
  TradingSample.obligation)

instance : Coded HyperliquidTestnetContributionRole :=
  .of (· matches .subjectFirstLoss) fun a b h ↦ by
  cases a <;> cases b <;> first | rfl | cases h

instance : Coded HyperliquidTestnetContributionReceiptKind :=
  .of (· matches .finalizedContribution) fun a b h ↦ by
    cases a <;> cases b <;> first | rfl | cases h

theorem freshness_ctorIdx : Function.Injective Freshness.ctorIdx := fun a b h ↦ by
  cases a <;> cases b <;> first | rfl | cases h

instance : Coded Freshness := .of Freshness.ctorIdx freshness_ctorIdx

instance : Coded (ReceiptCore (List ℕ)) :=
  .of (fun c ↦ (c.fundingHash, c.facilityHash, c.contributorRole, c.kind, c.assetId, c.amountMinor,
    c.destinationHash, c.transactionReferenceHash, c.blockReferenceHash, c.relatedReceiptHash,
    c.freshness, c.complete, c.finalized, c.observedAt)) fun a b h ↦ by
    obtain ⟨⟨⟩, _⟩ := a
    obtain ⟨⟨⟩, _⟩ := b
    cases h
    rfl

/-- Hashes that keep apart what the samples hash. -/
def prims : Primitives (List ℕ) where
  hashId
    | .actor actorId => TradingSample.hashId (.actor actorId)
    | .idempotency key => 1 :: Coded.encode key
    | .kernelSnapshot core => [2, core.capturedAt]
    | .request request => 3 :: request.idempotencyKeyHash
    | .funding core => 4 :: core.fundingId
    | .state fundingId state => 5 :: state.version :: fundingId
    | .sourceEvidence core => 6 :: Coded.encode core
    | .receipt core _ => 7 :: Coded.encode core
    | .inboxPayload receipt => 8 :: receipt.receiptHash
    | .incident fundingHash _ _ version _ => 9 :: version :: fundingHash
    | .activationEvidence evidence => 10 :: evidence.fundingHash
    | .result fundingHash _ _ => 11 :: fundingHash
  slice hash := hash

theorem collisionFree : CollisionFree prims where
  key_eq _ _ h := (List.cons.inj h).2
  receiptCore_eq _ _ _ _ h := Coded.encode_injective (List.cons.inj h).2

/-- The facility of `TradingSample`, ready for activation. -/
def facility : Trading.TradingFacility (List ℕ) :=
  (TradingSample.after (TradingSample.start.take 2)).facility

/-- What the kernel knows of it. -/
def snapshot : KernelSnapshot (List ℕ) where
  facilityId := "facility"
  facilityHash := [1, 2000]
  facilityStateHash := [2, 3]
  facilityVersion := 3
  facilityLifecycleStatus := .readyForActivation
  obligationId := "obligation"
  subjectId := "subject"
  bilateralTermsHash := [10]
  assetId := "usd"
  requiredSubjectContributionMinor := 100
  requiredProviderContributionMinor := 1000
  maximumFacilityCapMinor := 1100
  facilityDestinationHash := [50]
  accountBindingHash := [51]
  masterAccountHash := [52]
  withdrawalAuthorityHash := [53]
  executionSignerReferenceHash := [54]
  canonicalLedgerStateHash := [55]
  ledgerTransactionCount := 0
  riskSnapshotHash := [56]
  riskState := .normal
  riskFreshness := .fresh
  riskObservedAt := 30
  riskMaximumAgeMs := 1000
  capturedAt := 30
  facility
  matchProposal := TradingSample.proposal
  obligation := TradingSample.obligation
  subjectActorId := "actor_subject"

/-- The guard's decision. -/
def guard : FundingGuard (List ℕ) where
  actorId := "actor_worker"
  authorizedActorHash := [57]
  authorizationDecisionHash := [58]
  admissionDecisionHash := [59]

/-- The name of the funding. -/
def fundingId : List ℕ := (createDraft prims "key" snapshot guard).fundingId

/-- The funding's first record. -/
def draft : FundingRecord (List ℕ) :=
  (createPendingTestnetFacilityFundingRecord prims (createDraft prims "key" snapshot guard)
    40).toOption.get (by decide +kernel)

/-- The repository once the funding is created. -/
def start : FundingRepository (List ℕ) := fundingStep prims .new (.create "key" snapshot guard 40)

/-- A receipt about the funding, observed at `observedAt`. -/
def receipt (contributorRole : HyperliquidTestnetContributionRole) (amountMinor : ℤ)
    (relatedReceiptHash : Option (List ℕ)) (observedAt : ℕ) : Receipt (List ℕ) :=
  let core : ReceiptCore (List ℕ) :=
    { fundingHash := 4 :: fundingId
      facilityHash := [1, 2000]
      contributorRole
      kind := if relatedReceiptHash = none then .finalizedContribution else .reorgInvalidation
      assetId := "usd"
      amountMinor
      destinationHash := [50]
      transactionReferenceHash := [60]
      blockReferenceHash := [61]
      relatedReceiptHash
      freshness := .fresh
      complete := true
      finalized := relatedReceiptHash = none
      observedAt }
  { core with
    receiptId := prims.hashId (.sourceEvidence core)
    receiptHash := prims.hashId (.receipt core (prims.hashId (.sourceEvidence core)))
    sourceEvidenceHash := prims.hashId (.sourceEvidence core) }

/-- A receipt is taken. -/
def consume (receipt : Receipt (List ℕ)) : FundingInput (List ℕ) :=
  .consumeReceipt
    { fundingId, receipt, kernelSnapshot := snapshot, actorId := "actor_worker", nowMs := 100 }

/-- The subject's contribution. -/
def subject : Receipt (List ℕ) := receipt .subjectFirstLoss 100 none 50

/-- The subject's contribution was lost. -/
def lost : Receipt (List ℕ) := receipt .subjectFirstLoss 100 (some subject.receiptHash) 60

/-- The subject's contribution was seen again. -/
def again : Receipt (List ℕ) := receipt .subjectFirstLoss 100 none 70

/-- The provider's contribution. -/
def provider : Receipt (List ℕ) := receipt .providerPrincipal 1000 none 50

/-- The record that a run leaves. -/
def recordAfter (inputs : List (FundingInput (List ℕ))) : Option (FundingRecord (List ℕ)) :=
  (Run.run (fundingStep prims) start inputs).records.get fundingId

/-- What a run leaves final, and the status it leaves. -/
def outcome (receipts : List (Receipt (List ℕ))) :
    Option (Finset (Receipt (List ℕ)) × HyperliquidTestnetFacilityFundingStatus) :=
  (recordAfter (receipts.map consume)).map fun record ↦
    (finalizedReceipts record (takenAlong prims fundingId start (receipts.map consume)),
      record.status)

end Sample

/-- The contributions in two orders, one of them with a reorganization and a duplicate: the record
is ready in both. -/
theorem funding_receipts_commute_ready :
    let left := [Sample.subject, Sample.lost, Sample.provider, Sample.again, Sample.again]
    let right := [Sample.provider, Sample.again]
    ∃ l r, FundingRun Sample.prims Sample.start Sample.draft (left.map Sample.consume) l ∧
      FundingRun Sample.prims Sample.start Sample.draft (right.map Sample.consume) r ∧
      l.reconciledTotalMinor = r.reconciledTotalMinor ∧
      Sample.outcome left = some ({Sample.provider, Sample.again}, .ready) ∧
      Sample.outcome right = some ({Sample.provider, Sample.again}, .ready) := by
  intro left right
  have hcreate : (create Sample.prims .new (createDraft Sample.prims "key" Sample.snapshot
      Sample.guard) 40).1 = .ok { record := some Sample.draft, replayed := false } := by
    rw [← toOption_eq_some]
    decide +kernel
  have hleft : Sample.outcome left = some ({Sample.provider, Sample.again}, .ready) := by
    decide +kernel
  have hright : Sample.outcome right = some ({Sample.provider, Sample.again}, .ready) := by
    decide +kernel
  have hid : Sample.draft.core.fundingId = Sample.fundingId := by decide +kernel
  obtain ⟨l, r, hl, hr, hsame⟩ := funding_receipts_commute Sample.collisionFree
    (Run.reachable_refl _) hcreate (left.map Sample.consume) (right.map Sample.consume)
  refine ⟨l, r, hl, hr, (hsame ?_).2.2.1, hleft, hright⟩
  have hl' : Sample.recordAfter (left.map Sample.consume) = some l := by
    rw [Sample.recordAfter, ← hid]
    exact hl.get_eq
  have hr' : Sample.recordAfter (right.map Sample.consume) = some r := by
    rw [Sample.recordAfter, ← hid]
    exact hr.get_eq
  rw [Sample.outcome, hl', Option.map_some, Option.some.injEq, Prod.mk.injEq] at hleft
  rw [Sample.outcome, hr', Option.map_some, Option.some.injEq, Prod.mk.injEq] at hright
  rw [hid]
  exact hleft.1.trans hright.1.symm

/-- Two orders of the same receipts that leave the same receipt final: in the second the
contribution that was lost comes when it has been seen again already, and makes an incident. -/
theorem reordered_reorganization_differs :
    [Sample.subject, Sample.lost, Sample.again].Perm
        [Sample.again, Sample.subject, Sample.lost] ∧
      Sample.outcome [Sample.subject, Sample.lost, Sample.again]
        = some ({Sample.again}, .awaitingProvider) ∧
      Sample.outcome [Sample.again, Sample.subject, Sample.lost]
        = some ({Sample.again}, .incident) := by
  decide +kernel

end Funding
end Hyperliquid
end IpoOne
