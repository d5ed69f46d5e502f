import IpoOne.Credit.Sandbox
import IpoOne.Lib.Run

/-!
# An obligation on the sandbox rail

The obligation with the transactions posted about it, and the commands of the gateway that act on
it.  A write-off is two calls of the domain, which the gateway commits together.

The first half of the file says what the functions of the rail do when they succeed: which amounts
and which status they leave, and what their transactions come to for each account.
-/

set_option autoImplicit false

namespace IpoOne
namespace Credit

open Fallible

/-- What the core repository holds about an obligation on this rail; the clock is the time of the
last command. -/
structure SandboxState (H : Type) where
  obligation : Obligation H
  ledgerTransactions : List (LedgerTransaction H)
  clock : ℕ

/-- The operations on a sandbox obligation. -/
inductive SandboxCommand where
  | execute (adapterReceipt : AdapterReceipt)
  | repay (amountMinor : ℤ) (sourceCode : SandboxRepaymentSource) (actorId : String)
  | advance (actorId : String)
  | restructure (additionalTermDays : ℕ) (context : ResolutionContext)
  | repurchase (servicingOwnerCode : SandboxServicingOwner) (context : ResolutionContext)
  | writeOff (context : ResolutionContext)

/-- A command with the time it is carried out. -/
structure SandboxInput where
  now : ℕ
  command : SandboxCommand

section System

variable {H : Type} [DecidableEq H] (hashId : SandboxPreimage H → H)

/-- The obligation after a command, with what is posted. -/
def perform (obligation : Obligation H) (now : ℕ) :
    SandboxCommand → Domain (Obligation H × List (LedgerTransaction H))
  | .execute adapterReceipt => do
    let (executed, transaction) ← executeSandboxObligation hashId obligation adapterReceipt now
    pure (executed, [transaction])
  | .repay amountMinor sourceCode actorId => do
    let result ← postSandboxRepayment hashId obligation amountMinor sourceCode actorId now
    pure (result.obligation, result.ledgerTransaction :: result.interestTransaction.toList)
  | .advance actorId => do
    let (next, _) ← advanceSandboxServicing obligation actorId now
    pure (next, [])
  | .restructure additionalTermDays context => do
    let (next, _) ← restructureSandboxObligation hashId obligation additionalTermDays context now
    pure (next, [])
  | .repurchase servicingOwnerCode context => do
    let (next, _) ← repurchaseSandboxObligation hashId obligation servicingOwnerCode context now
    pure (next, [])
  | .writeOff context => do
    let (next, servicingActionId) ← writeOffSandboxObligation hashId obligation context now
    let transaction ← createSandboxWriteOffTransaction hashId obligation servicingActionId
    pure (next, [transaction])

/-- A command is carried out, or refused and nothing changes. -/
def sandboxStep (s : SandboxState H) (input : SandboxInput) : SandboxState H :=
  match perform hashId s.obligation input.now input.command with
  | .ok (obligation, transactions) =>
    { obligation
      ledgerTransactions := s.ledgerTransactions ++ transactions
      clock := input.now }
  | .error _ => s

/-- The accounts of an obligation have different identifiers. -/
def SandboxAccountsApart (hashId : SandboxPreimage H → H) : Prop :=
  ∀ obligation : Obligation H, Function.Injective (sandboxAccountId hashId obligation)

end System

/-! ## What transactions come to -/

section Transactions

variable {H : Type} {hashId : SandboxPreimage H → H}

theorem createBalancedTransaction_ok {idempotencyKey : H} {transactionType : String}
    {obligation : Obligation H} {reference : LedgerReference H} {inputs : List (EntryInput H)}
    {transaction : LedgerTransaction H}
    (h : createBalancedTransaction hashId idempotencyKey transactionType obligation reference inputs
      = .ok transaction) :
    transaction.entries = numbered 0 inputs ∧ transaction.Balanced := by
  simp only [createBalancedTransaction, bind_eq_ok, throwIf_eq_ok, pure_eq_ok, not_or,
    not_not] at h
  obtain ⟨_, _, _, ⟨_, hsame⟩, rfl⟩ := h
  exact ⟨rfl, ⟨rfl, hsame.symm⟩, hsame.symm⟩

variable [DecidableEq H]

theorem entryBalance_numbered_cons {accountId : LedgerAccountType → H}
    (hapart : Function.Injective accountId) (own posted : LedgerAccountType)
    (direction : LedgerEntryDirection) (amount : ℤ) (start : ℕ) (rest : List (EntryInput H)) :
    entryBalance (accountId own) (numbered start (⟨accountId posted, direction, amount⟩ :: rest))
      = (if posted = own then
          (match direction with | .debit => amount | .credit => -amount) else 0)
        + entryBalance (accountId own) (numbered (start + 1) rest) := by
  rw [numbered, entryBalance_cons_accountId hapart]
  cases direction <;> rfl

/-- Receivables are credited with the amounts that are not zero. -/
theorem entryBalance_receivableCredits {obligation : Obligation H}
    (hapart : SandboxAccountsApart hashId) (own : LedgerAccountType) (start : ℕ)
    {amounts : List (LedgerAccountType × ℤ)} (hpos : ∀ amount ∈ amounts, 0 ≤ amount.2) :
    entryBalance (sandboxAccountId hashId obligation own)
        (numbered start (receivableCredits hashId obligation amounts))
      = -(amounts.map fun amount ↦ if amount.1 = own then amount.2 else 0).sum := by
  induction amounts generalizing start with
  | nil => rfl
  | cons amount rest ih =>
    obtain ⟨hamount, hrest⟩ := List.forall_mem_cons.1 hpos
    rw [receivableCredits, List.filter_cons, List.map_cons, List.sum_cons]
    by_cases hlt : 0 < amount.2
    · rw [if_pos (decide_eq_true hlt), List.map_cons,
        entryBalance_numbered_cons (hapart obligation)]
      have htail := ih (start + 1) hrest
      rw [receivableCredits] at htail
      rw [htail]
      dsimp only
      split <;> omega
    · have h0 : amount.2 = 0 := by omega
      rw [if_neg (by simpa using hlt)]
      have htail := ih start hrest
      rw [receivableCredits] at htail
      rw [htail, h0, ite_self, zero_add]

/-- What a transaction with one debit and some receivables credited comes to. -/
theorem entryBalance_against_receivables {obligation : Obligation H}
    (hapart : SandboxAccountsApart hashId) (own debited : LedgerAccountType) (total : ℤ)
    {amounts : List (LedgerAccountType × ℤ)} (hpos : ∀ amount ∈ amounts, 0 ≤ amount.2) :
    entryBalance (sandboxAccountId hashId obligation own)
        (numbered 0 (⟨sandboxAccountId hashId obligation debited, .debit, total⟩ ::
          receivableCredits hashId obligation amounts))
      = (if debited = own then total else 0)
        - (amounts.map fun amount ↦ if amount.1 = own then amount.2 else 0).sum := by
  rw [entryBalance_numbered_cons (hapart obligation),
    entryBalance_receivableCredits hapart _ _ hpos]
  rfl

/-- What a transaction with one debit and one credit comes to. -/
theorem entryBalance_transfer {obligation : Obligation H} (hapart : SandboxAccountsApart hashId)
    (own debited credited : LedgerAccountType) (amount : ℤ) :
    entryBalance (sandboxAccountId hashId obligation own)
        (numbered 0 [⟨sandboxAccountId hashId obligation debited, .debit, amount⟩,
          ⟨sandboxAccountId hashId obligation credited, .credit, amount⟩])
      = (if debited = own then amount else 0) - if credited = own then amount else 0 := by
  rw [entryBalance_numbered_cons (hapart obligation),
    entryBalance_numbered_cons (hapart obligation), numbered, entryBalance_nil]
  dsimp only
  split <;> split <;> omega

end Transactions

/-! ## Servicing -/

section Servicing

variable {H : Type}

theorem basePerformingStatus_eq_fullyRepaid {obligation : Obligation H} :
    basePerformingStatus obligation = .fullyRepaid ↔ totalOutstanding obligation = 0 := by
  rw [basePerformingStatus]
  split
  · rename_i h0
    exact iff_of_true rfl h0
  · rename_i h0
    refine iff_of_false (fun hstatus ↦ ?_) h0
    split at hstatus
    · rename_i hresolved
      rw [hstatus] at hresolved
      exact absurd hresolved.1 (by decide)
    · split at hstatus <;> cases hstatus

/-- The obligation with the servicing that was derived for it. -/
def serviced (previous : Obligation H) (derived : DerivedServicing H) (now : ℕ) : Obligation H :=
  { previous with
    status := derived.status
    servicingClassification := derived.servicingClassification
    daysPastDue := derived.daysPastDue
    oldestUnpaidInstallmentId := derived.oldestUnpaidInstallmentId
    servicingEffectiveAt := now
    servicingReasonCode := derived.servicingReasonCode
    updatedAt := now }

theorem applyDerivedServicing_ok {previous next : Obligation H} {derived : DerivedServicing H}
    {now : ℕ} (h : applyDerivedServicing previous derived now = .ok next) :
    next = serviced previous derived now ∧ assertSandboxServicingState next = .ok () := by
  simp only [applyDerivedServicing, bind_eq_ok, pure_eq_ok] at h
  obtain ⟨_, hstate, rfl⟩ := h
  exact ⟨rfl, hstate⟩

/-- The two kinds of servicing that are derived. -/
inductive Derivation (obligation : Obligation H) (now : ℕ) (derived : DerivedServicing H) :
    Prop where
  | current (oldest : Option (Installment H))
    (found : oldestUnpaid obligation.installments = oldest)
      (timely : ∀ row ∈ oldest, now ≤ row.dueAt) (eq : derived = currentServicing obligation oldest)
  | pastDue (oldest : Installment H) (found : oldestUnpaid obligation.installments = some oldest)
      (late : oldest.dueAt < now) (eq : derived = pastDueServicing oldest now)

theorem deriveSandboxServicing_ok {obligation : Obligation H} {now : ℕ}
    {derived : DerivedServicing H} (h : deriveSandboxServicing obligation now = .ok derived) :
    obligation.executionStatus = .executed ∧ Derivation obligation now derived := by
  simp only [deriveSandboxServicing, assertSharedServicingObligation, bind_eq_ok, throwIf_eq_ok,
    not_or, not_and, not_not] at h
  obtain ⟨_, ⟨_, _, _, hexecuted⟩, h⟩ := h
  refine ⟨hexecuted trivial, ?_⟩
  split at h
  · rename_i hfound
    exact .current none hfound (by simp) (pure_eq_ok.1 h).symm
  · rename_i oldest hfound
    split at h
    · rename_i htimely
      exact .current (some oldest) hfound (by simpa using htimely) (pure_eq_ok.1 h).symm
    · rename_i hlate
      exact .pastDue oldest hfound (by omega) (pure_eq_ok.1 h).symm

theorem advanceSandboxServicing_ok [DecidableEq H] {obligation next : Obligation H}
    {actorId : String} {now : ℕ} {changed : Bool}
    (h : advanceSandboxServicing obligation actorId now = .ok (next, changed)) :
    ∃ derived, obligation.executionStatus = .executed ∧ Derivation obligation now derived ∧
      (next = obligation ∧ derived.status = obligation.status ∨
        next = serviced obligation derived now ∧ assertSandboxServicingState next = .ok ()) := by
  simp only [advanceSandboxServicing, bind_eq_ok] at h
  obtain ⟨_, _, derived, hderived, h⟩ := h
  obtain ⟨hexecuted, hderivation⟩ := deriveSandboxServicing_ok hderived
  refine ⟨derived, hexecuted, hderivation, ?_⟩
  split at h
  · simp only [bind_eq_ok, pure_eq_ok, Prod.mk.injEq] at h
    obtain ⟨_, hnext, rfl, _⟩ := h
    exact .inr (applyDerivedServicing_ok hnext)
  · rename_i hsame
    simp only [pure_eq_ok, Prod.mk.injEq] at h
    obtain ⟨rfl, _⟩ := h
    simp only [not_or, not_not] at hsame
    exact .inl ⟨rfl, hsame.1.symm⟩

/-- A repayment derives the servicing anew, and calls the obligation cured where it was adverse and
is no longer past due. -/
theorem applySandboxServicingAfterRepayment_ok {previous repaid next : Obligation H}
    {actorId : String} {now : ℕ}
    (h : applySandboxServicingAfterRepayment previous repaid actorId now = .ok next) :
    ∃ derived, repaid.executionStatus = .executed ∧ Derivation repaid now derived ∧
      assertSandboxServicingState next = .ok () ∧
      (¬ (wasAdverse previous ∧ derived.daysPastDue = 0) ∧ next = serviced repaid derived now ∨
        wasAdverse previous ∧ derived.daysPastDue = 0 ∧
          next = serviced repaid { derived with
            status := basePerformingStatus repaid
            servicingClassification := .cured
            servicingReasonCode := "servicing_cured_by_repayment" } now) := by
  simp only [applySandboxServicingAfterRepayment, bind_eq_ok] at h
  obtain ⟨_, _, derived, hderived, h⟩ := h
  obtain ⟨hexecuted, hderivation⟩ := deriveSandboxServicing_ok hderived
  obtain ⟨rfl, hstate⟩ := applyDerivedServicing_ok h
  refine ⟨derived, hexecuted, hderivation, hstate, ?_⟩
  by_cases hcured : wasAdverse previous ∧ derived.daysPastDue = 0
  · rw [if_pos hcured]
    exact .inr ⟨hcured.1, hcured.2, rfl⟩
  · rw [if_neg hcured]
    exact .inl ⟨hcured, rfl⟩

/-- The obligation with the status of a resolution, which is recorded in it. -/
def resolved (changed : Obligation H) (status : ObligationStatus)
    (classification : ServicingClassification) (resolutionType : SandboxServicingResolution)
    (reasonCode : String) (now : ℕ) : Obligation H :=
  { changed with
    status
    servicingClassification := classification
    servicingReasonCode := reasonCode
    servicingEffectiveAt := now
    resolution := some { resolutionType, resolutionReasonCode := reasonCode, resolutionAt := now }
    updatedAt := now }

theorem resolve_ok {hashId : SandboxPreimage H → H} {obligation changed next : Obligation H}
    {status : ObligationStatus} {classification : ServicingClassification}
    {resolutionType : SandboxServicingResolution} {actionType : String}
    {context : ResolutionContext} {now : ℕ} {servicingActionId : H}
    (h : resolve hashId obligation changed status classification resolutionType actionType context
      now = .ok (next, servicingActionId)) :
    next = resolved changed status classification resolutionType context.reasonCode now := by
  simp only [resolve, bind_eq_ok, pure_eq_ok, Prod.mk.injEq] at h
  obtain ⟨_, _, _, _, _, _, _, _, _, _, rfl, _⟩ := h
  rfl

theorem assertResolutionEligible_ok {obligation : Obligation H}
    {allowedStatuses : List ObligationStatus} {u : Unit}
    (h : assertResolutionEligible obligation allowedStatuses = .ok u) :
    obligation.executionStatus = .executed ∧ obligation.status ∈ allowedStatuses := by
  simp only [assertResolutionEligible, assertSharedServicingObligation, bind_eq_ok, throwIf_eq_ok,
    not_or, not_and, not_not] at h
  obtain ⟨_, ⟨_, _, _, hexecuted⟩, hstatus⟩ := h
  exact ⟨hexecuted trivial, hstatus⟩

end Servicing

/-! ## What a command does -/

section Commands

variable {H : Type} {hashId : SandboxPreimage H → H}

theorem executeSandboxObligation_ok {obligation next : Obligation H}
    {adapterReceipt : AdapterReceipt} {now : ℕ} {transaction : LedgerTransaction H}
    (h : executeSandboxObligation hashId obligation adapterReceipt now = .ok (next, transaction)) :
    obligation.status = .created ∧ obligation.executionStatus = .pending ∧
      transaction.Balanced ∧
      transaction.entries = numbered 0
        [⟨sandboxAccountId hashId obligation .principalReceivable, .debit,
            obligation.originalPrincipalMinor⟩,
          ⟨sandboxAccountId hashId obligation .sandboxFundingSource, .credit,
            obligation.originalPrincipalMinor⟩] ∧
      ∃ receiptHash, next = { obligation with
        executionStatus := .executed
        sandboxExecutionReceiptId := some receiptHash
        executedAt := some now
        lastAccruedAt := some now
        interestAccrualRemainder := 0
        status := .active
        updatedAt := now } := by
  simp only [executeSandboxObligation, bind_eq_ok, throwIf_eq_ok, pure_eq_ok, not_or, not_not,
    Prod.mk.injEq] at h
  obtain ⟨_, _, _, _, _, ⟨hcreated, hpending⟩, receiptHash, _, _, htransaction, rfl, rfl⟩ := h
  obtain ⟨hentries, hbalanced⟩ := createBalancedTransaction_ok htransaction
  exact ⟨hcreated, hpending, hbalanced, hentries, receiptHash, rfl⟩

/-- What an accrual leaves. -/
structure Accrued (obligation : Obligation H) (now : ℕ) (accrual : SimpleAccrual H) : Prop where
  executed : obligation.executionStatus = .executed
  nonneg : 0 ≤ obligation.outstandingPrincipalMinor → 0 ≤ accrual.accruedInterestMinor
  rows : 0 < accrual.accruedInterestMinor → obligation.installments ≠ []
  eq : ∃ lastAccruedAt interestAccrualRemainder, accrual.obligation = { obligation with
    accruedInterestMinor := obligation.accruedInterestMinor + accrual.accruedInterestMinor
    outstandingInterestMinor := obligation.outstandingInterestMinor + accrual.accruedInterestMinor
    interestAccrualRemainder
    lastAccruedAt := some lastAccruedAt
    installments := if 0 < accrual.accruedInterestMinor
      then addInterest accrual.accruedInterestMinor obligation.installments
      else obligation.installments
    updatedAt := now }

theorem accrueSimpleInterest_ok {obligation : Obligation H} {now : ℕ} {accrual : SimpleAccrual H}
    (h : accrueSimpleInterest obligation now = .ok accrual) : Accrued obligation now accrual := by
  simp only [accrueSimpleInterest, bind_eq_ok, throwIf_eq_ok, pure_eq_ok] at h
  obtain ⟨_, _, start, hstart, _, _, _, hremainder, _, hrows, rfl⟩ := h
  have hexecuted : obligation.executionStatus = .executed := by
    split at hstart
    · assumption
    · cases hstart
  refine ⟨hexecuted, fun hnonneg ↦ ?_, fun hlt hnil ↦ hrows ⟨hlt, hnil⟩, _, _, rfl⟩
  refine Int.tdiv_nonneg ?_ (by decide)
  have hrate : 0 ≤ obligation.outstandingPrincipalMinor * obligation.annualRateBps
      * ((now - start) / dayMs : ℕ) :=
    Int.mul_nonneg (Int.mul_nonneg hnonneg (Int.natCast_nonneg _)) (Int.natCast_nonneg _)
  omega

theorem allocateAcrossSchedule_ok {rows rows' : List (Installment H)} {c : Component} {amount : ℤ}
    (h : allocateAcrossSchedule rows c amount = .ok rows') :
    rows' = (allocateRows c rows amount).1 ∧ (allocateRows c rows amount).2 = 0 := by
  simp only [allocateAcrossSchedule, bind_eq_ok, failIf_eq_ok, pure_eq_ok, not_not] at h
  obtain ⟨_, hleft, rfl⟩ := h
  exact ⟨rfl, hleft⟩

/-- The rows after a payment: fees, interest and principal are spread over them in turn. -/
def rowsAfter (rows : List (Installment H)) (applied : Applied) : List (Installment H) :=
  updateStatuses (allocateRows .principal (allocateRows .interest
    (allocateRows .fee rows applied.fee).1 applied.interest).1 applied.principal).1

theorem interestTransaction_ok {accrual : SimpleAccrual H}
    {transaction : Option (LedgerTransaction H)}
    (h : interestTransaction hashId accrual = .ok transaction) :
    transaction = none ∧ accrual.accruedInterestMinor = 0 ∨
      ∃ posted, transaction = some posted ∧ posted.Balanced ∧
        posted.entries = numbered 0
          [⟨sandboxAccountId hashId accrual.obligation .interestReceivable, .debit,
              accrual.accruedInterestMinor⟩,
            ⟨sandboxAccountId hashId accrual.obligation .syntheticInterestIncome, .credit,
              accrual.accruedInterestMinor⟩] := by
  rw [interestTransaction] at h
  split at h
  · rename_i h0
    exact .inl ⟨(pure_eq_ok.1 h).symm, h0⟩
  · simp only [bind_eq_ok, pure_eq_ok] at h
    obtain ⟨posted, hposted, rfl⟩ := h
    obtain ⟨hentries, hbalanced⟩ := createBalancedTransaction_ok hposted
    exact .inr ⟨posted, rfl, hbalanced, hentries⟩

/-- What a payment leaves. -/
structure Repaid (hashId : SandboxPreimage H → H) (obligation : Obligation H) (requested : ℤ)
    (actorId : String) (now : ℕ) (result : SandboxRepayment H) (accrual : SimpleAccrual H) :
    Prop where
  executed : obligation.executionStatus = .executed
  repayable : obligation.status ∈ repayableStatuses
  positive : 0 < requested
  accrued : accrueSimpleInterest obligation now = .ok accrual
  applied : (applyPayment accrual.obligation requested).total ≠ 0
  serviced : applySandboxServicingAfterRepayment obligation
    (updatedByRepayment accrual.obligation (applyPayment accrual.obligation requested)
      (rowsAfter accrual.obligation.installments (applyPayment accrual.obligation requested)) now)
    actorId now = .ok result.obligation
  balanced : result.ledgerTransaction.Balanced
  entries : result.ledgerTransaction.entries = numbered 0
    (⟨sandboxAccountId hashId accrual.obligation .repaymentClearing, .debit,
        (applyPayment accrual.obligation requested).total⟩ ::
      receivableCredits hashId accrual.obligation
        [(.feeReceivable, (applyPayment accrual.obligation requested).fee),
          (.interestReceivable, (applyPayment accrual.obligation requested).interest),
          (.principalReceivable, (applyPayment accrual.obligation requested).principal)])
  interest : interestTransaction hashId accrual = .ok result.interestTransaction

theorem postSandboxRepayment_ok {obligation : Obligation H} {amountMinor : ℤ}
    {sourceCode : SandboxRepaymentSource} {actorId : String} {now : ℕ}
    {result : SandboxRepayment H}
    (h : postSandboxRepayment hashId obligation amountMinor sourceCode actorId now = .ok result) :
    ∃ accrual, Repaid hashId obligation amountMinor actorId now result accrual := by
  simp only [postSandboxRepayment, bind_eq_ok, throwIf_eq_ok, pure_eq_ok, not_or, not_not] at h
  obtain ⟨_, _, _, _, _, ⟨hexecuted, hrepayable⟩, requested, hrequested, _, _, accrual, haccrual, _,
    happlied, rows₁, hrows₁, rows₂, hrows₂, rows₃, hrows₃, transaction, htransaction, interest,
    hinterest, next, hnext, rfl⟩ := h
  obtain ⟨rfl, hpositive⟩ := assertPositiveMinorUnits_ok hrequested
  obtain ⟨rfl, _⟩ := allocateAcrossSchedule_ok hrows₁
  obtain ⟨rfl, _⟩ := allocateAcrossSchedule_ok hrows₂
  obtain ⟨rfl, _⟩ := allocateAcrossSchedule_ok hrows₃
  obtain ⟨hentries, hbalanced⟩ := createBalancedTransaction_ok htransaction
  exact ⟨accrual, hexecuted, hrepayable, hpositive, haccrual, happlied, hnext, hbalanced, hentries,
    hinterest⟩

theorem restructureSandboxObligation_ok {obligation next : Obligation H} {additionalTermDays : ℕ}
    {context : ResolutionContext} {now : ℕ} {servicingActionId : H}
    (h : restructureSandboxObligation hashId obligation additionalTermDays context now
      = .ok (next, servicingActionId)) :
    obligation.executionStatus = .executed ∧ obligation.status ∈ [.delinquent, .defaulted] ∧
      ∃ row : Installment H,
        (∃ dueAt, row = scheduledRow hashId obligation.obligationId 1 dueAt
          obligation.outstandingPrincipalMinor obligation.outstandingInterestMinor
          obligation.outstandingFeesMinor (obligation.scheduleSequence + 1)) ∧
        next = resolved { obligation with
            scheduleSequence := obligation.scheduleSequence + 1
            installments := [row]
            daysPastDue := 0
            oldestUnpaidInstallmentId := some row.installmentId }
          .restructured .restructured .restructure context.reasonCode now := by
  simp only [restructureSandboxObligation, bind_eq_ok] at h
  obtain ⟨_, heligible, _, _, hresolve⟩ := h
  obtain ⟨hexecuted, hstatus⟩ := assertResolutionEligible_ok heligible
  exact ⟨hexecuted, hstatus, _, ⟨_, rfl⟩, resolve_ok hresolve⟩

theorem repurchaseSandboxObligation_ok {obligation next : Obligation H}
    {servicingOwnerCode : SandboxServicingOwner} {context : ResolutionContext} {now : ℕ}
    {servicingActionId : H}
    (h : repurchaseSandboxObligation hashId obligation servicingOwnerCode context now
      = .ok (next, servicingActionId)) :
    obligation.executionStatus = .executed ∧
      obligation.status ∈ [.delinquent, .defaulted, .restructured] ∧
      next = resolved { obligation with servicingOwnerCode } .repurchased .repurchased .repurchase
        context.reasonCode now := by
  simp only [repurchaseSandboxObligation, bind_eq_ok] at h
  obtain ⟨_, heligible, _, _, hresolve⟩ := h
  obtain ⟨hexecuted, hstatus⟩ := assertResolutionEligible_ok heligible
  exact ⟨hexecuted, hstatus, resolve_ok hresolve⟩

theorem writeOffSandboxObligation_ok {obligation next : Obligation H} {context : ResolutionContext}
    {now : ℕ} {servicingActionId : H}
    (h : writeOffSandboxObligation hashId obligation context now = .ok (next, servicingActionId)) :
    obligation.executionStatus = .executed ∧
      obligation.status ∈ [.defaulted, .restructured, .repurchased] ∧
      totalOutstanding obligation ≠ 0 ∧
      next = resolved { obligation with
          writtenOffPrincipalMinor := obligation.outstandingPrincipalMinor
          writtenOffInterestMinor := obligation.outstandingInterestMinor
          writtenOffFeesMinor := obligation.outstandingFeesMinor }
        .writtenOff .writtenOff .writeOff context.reasonCode now := by
  simp only [writeOffSandboxObligation, bind_eq_ok, throwIf_eq_ok] at h
  obtain ⟨_, heligible, _, hbalance, hresolve⟩ := h
  obtain ⟨hexecuted, hstatus⟩ := assertResolutionEligible_ok heligible
  exact ⟨hexecuted, hstatus, hbalance, resolve_ok hresolve⟩

theorem createSandboxWriteOffTransaction_ok {obligation : Obligation H} {servicingActionId : H}
    {transaction : LedgerTransaction H}
    (h : createSandboxWriteOffTransaction hashId obligation servicingActionId = .ok transaction) :
    transaction.Balanced ∧
      transaction.entries = numbered 0
        (⟨sandboxAccountId hashId obligation .writeOffLoss, .debit, totalOutstanding obligation⟩ ::
          receivableCredits hashId obligation
            [(.principalReceivable, obligation.outstandingPrincipalMinor),
              (.interestReceivable, obligation.outstandingInterestMinor),
              (.feeReceivable, obligation.outstandingFeesMinor)]) := by
  simp only [createSandboxWriteOffTransaction, bind_eq_ok] at h
  obtain ⟨_, _, _, _, htransaction⟩ := h
  obtain ⟨hentries, hbalanced⟩ := createBalancedTransaction_ok htransaction
  exact ⟨hbalanced, hentries⟩

/-- The call behind a command that is carried out. -/
inductive Performed (hashId : SandboxPreimage H → H) [DecidableEq H] (obligation : Obligation H)
    (now : ℕ) : SandboxCommand → Obligation H → List (LedgerTransaction H) → Prop where
  | execute {adapterReceipt : AdapterReceipt} {next : Obligation H}
      {transaction : LedgerTransaction H}
      (call : executeSandboxObligation hashId obligation adapterReceipt now
        = .ok (next, transaction)) :
      Performed hashId obligation now (.execute adapterReceipt) next [transaction]
  | repay {amountMinor : ℤ} {sourceCode : SandboxRepaymentSource} {actorId : String}
      {result : SandboxRepayment H}
      (call : postSandboxRepayment hashId obligation amountMinor sourceCode actorId now
        = .ok result) :
      Performed hashId obligation now (.repay amountMinor sourceCode actorId) result.obligation
        (result.ledgerTransaction :: result.interestTransaction.toList)
  | advance {actorId : String} {next : Obligation H} {changed : Bool}
      (call : advanceSandboxServicing obligation actorId now = .ok (next, changed)) :
      Performed hashId obligation now (.advance actorId) next []
  | restructure {additionalTermDays : ℕ} {context : ResolutionContext} {next : Obligation H}
      {servicingActionId : H}
      (call : restructureSandboxObligation hashId obligation additionalTermDays context now
        = .ok (next, servicingActionId)) :
      Performed hashId obligation now (.restructure additionalTermDays context) next []
  | repurchase {servicingOwnerCode : SandboxServicingOwner} {context : ResolutionContext}
      {next : Obligation H} {servicingActionId : H}
      (call : repurchaseSandboxObligation hashId obligation servicingOwnerCode context now
        = .ok (next, servicingActionId)) :
      Performed hashId obligation now (.repurchase servicingOwnerCode context) next []
  | writeOff {context : ResolutionContext} {next : Obligation H} {servicingActionId : H}
      {transaction : LedgerTransaction H}
      (call : writeOffSandboxObligation hashId obligation context now
        = .ok (next, servicingActionId))
      (post : createSandboxWriteOffTransaction hashId obligation servicingActionId
        = .ok transaction) :
      Performed hashId obligation now (.writeOff context) next [transaction]

theorem perform_ok [DecidableEq H] {obligation next : Obligation H} {now : ℕ}
    {command : SandboxCommand} {transactions : List (LedgerTransaction H)}
    (h : perform hashId obligation now command = .ok (next, transactions)) :
    Performed hashId obligation now command next transactions := by
  cases command <;> simp only [perform, bind_eq_ok, pure_eq_ok, Prod.mk.injEq, Prod.exists] at h
  case execute =>
    obtain ⟨_, _, call, rfl, rfl⟩ := h
    exact .execute call
  case repay =>
    obtain ⟨_, call, rfl, rfl⟩ := h
    exact .repay call
  case advance =>
    obtain ⟨_, _, call, rfl, rfl⟩ := h
    exact .advance call
  case restructure =>
    obtain ⟨_, _, call, rfl, rfl⟩ := h
    exact .restructure call
  case repurchase =>
    obtain ⟨_, _, call, rfl, rfl⟩ := h
    exact .repurchase call
  case writeOff =>
    obtain ⟨_, _, call, _, post, rfl, rfl⟩ := h
    exact .writeOff call post

end Commands

end Credit
end IpoOne
