import IpoOne.Credit.Import
import IpoOne.Credit.Ledger
import IpoOne.Lib.Run
import Mathlib

/-!
# Three accounts of one debt

An obligation on the pool's rail says three times what is owed: in its own totals, in the rows of
its schedule, and in the receivables of its ledger.  `Books` reads all three off, and
`importFinalizedEffect_books` says what an accepted effect does to each of them.

Loans and repayments keep the three in step.  A liquidation clears the totals, posts the payment it
was told of, and does not look at the schedule; `imported_books_along_iff` says that the three agree
all along a run of imports exactly if no liquidation in it had anything to clear or to post.
-/

set_option autoImplicit false

namespace IpoOne
namespace Credit

open Fallible Indexer

/-- The accounts of an obligation have different identifiers. -/
def AccountsApart {H : Type} (hashId : CreditPreimage H → H) : Prop :=
  ∀ obligation : Obligation H, Function.Injective (ledgerAccountId hashId obligation)

section Postings

variable {H : Type} [DecidableEq H] {hashId : CreditPreimage H → H} {obligation : Obligation H}
  {effect : FinalizedEffect H} {name suffix : String} {amount : ℤ}
  {debit credit : LedgerAccountType}

/-- What a posting comes to for each account of the obligation. -/
theorem balance_ledgerTransaction (hapart : AccountsApart hashId) (own : LedgerAccountType)
    (hpos : 0 ≤ amount) (hne : debit ≠ credit) :
    balance (ledgerAccountId hashId obligation own)
        (ledgerTransaction hashId obligation effect name amount debit credit suffix).toList
      = if debit = own then amount else if credit = own then -amount else 0 := by
  rw [ledgerTransaction]
  split
  · rename_i hle
    have h0 : amount = 0 := le_antisymm hle hpos
    simp [h0]
  · simp only [Option.toList_some, balance_cons, balance_nil,
      entryBalance_cons_accountId (hapart obligation), entryBalance_nil, LedgerEntry.signed]
    split <;> split <;> simp_all

omit [DecidableEq H] in
theorem balanced_ledgerTransaction {transaction : LedgerTransaction H}
    (h : ledgerTransaction hashId obligation effect name amount debit credit suffix
      = some transaction) : transaction.Balanced := by
  rw [ledgerTransaction] at h
  split at h
  · cases h
  · cases h
    exact ⟨⟨by simp [sideTotal], by simp [sideTotal]⟩, rfl⟩

theorem balance_reduceOption_cons (account : H) (transaction : Option (LedgerTransaction H))
    (rest : List (Option (LedgerTransaction H))) :
    balance account (transaction :: rest).reduceOption
      = balance account transaction.toList + balance account rest.reduceOption := by
  cases transaction with
  | none => rw [List.reduceOption_cons_of_none, Option.toList_none, balance_nil, zero_add]
  | some value =>
    rw [List.reduceOption_cons_of_some, balance_cons, Option.toList_some, balance_cons,
      balance_nil, add_zero]

end Postings

/-! ## What an import does to the books -/

/-- The totals, the schedule and the ledger. -/
@[ext] structure Books where
  owedPrincipal : ℤ
  owedInterest : ℤ
  scheduledPrincipal : ℤ
  scheduledInterest : ℤ
  postedPrincipal : ℤ
  postedInterest : ℤ

section Books

variable {H : Type} [DecidableEq H] {hashId : CreditPreimage H → H}
  {binding : PoolObligationBinding H} {s s' : BoundObligation H} {source : EffectSource H}

/-- The books of an obligation: what it owes, what its rows leave open, what its accounts hold. -/
def books (hashId : CreditPreimage H → H) (s : BoundObligation H) : Books where
  owedPrincipal := s.obligation.outstandingPrincipalMinor
  owedInterest := s.obligation.outstandingInterestMinor
  scheduledPrincipal := outstanding .principal s.obligation.installments
  scheduledInterest := outstanding .interest s.obligation.installments
  postedPrincipal :=
    balance (ledgerAccountId hashId s.obligation .principalReceivable) s.ledgerTransactions
  postedInterest :=
    balance (ledgerAccountId hashId s.obligation .interestReceivable) s.ledgerTransactions

omit [DecidableEq H] in
/-- A repayment is spread over the schedule as it was allocated. -/
theorem updateInstallmentsForRepayment_ok {obligation : Obligation H} {allocation : Allocation}
    {rows : List (Installment H)} (hpos : 0 ≤ allocation.interestAccrued)
    (h : updateInstallmentsForRepayment obligation allocation = .ok rows) :
    outstanding .principal rows
        = outstanding .principal obligation.installments - allocation.principalPaid ∧
      outstanding .interest rows = outstanding .interest obligation.installments
        + allocation.interestAccrued - allocation.interestPaid := by
  simp only [updateInstallmentsForRepayment, allocateAcrossInstallments, bind_eq_ok,
    throwIf_eq_ok, pure_eq_ok] at h
  obtain ⟨_, hrows, interestRows, ⟨_, hleft₁, rfl⟩, principalRows, ⟨_, hleft₂, rfl⟩, rfl⟩ := h
  have haccrued : ∀ c : Component, outstanding c (if 0 < allocation.interestAccrued
      then addInterest allocation.interestAccrued obligation.installments
      else obligation.installments)
      = outstanding c obligation.installments
        + if c = .interest then allocation.interestAccrued else 0 := by
    intro c
    split
    · rename_i hlt
      by_cases hc : c = .interest
      · subst hc
        rw [outstanding_addInterest fun hnil ↦ hrows ⟨hlt, hnil⟩, if_pos rfl]
      · rw [outstanding_addInterest_of_ne hc, if_neg hc, add_zero]
    · have h0 : allocation.interestAccrued = 0 := by omega
      rw [h0, ite_self, add_zero]
  generalize (if 0 < allocation.interestAccrued
    then addInterest allocation.interestAccrued obligation.installments
    else obligation.installments) = accrued at *
  have hprincipal := outstanding_allocateRows (c := .principal)
    (allocateRows .interest accrued allocation.interestPaid).1 allocation.principalPaid
  have hinterest := outstanding_allocateRows (c := .interest) accrued allocation.interestPaid
  rw [outstanding_allocateRows_of_ne (c := .interest) (by decide), not_not.1 hleft₂, haccrued]
    at hprincipal
  rw [not_not.1 hleft₁, haccrued] at hinterest
  rw [outstanding_updateStatuses, outstanding_updateStatuses,
    outstanding_allocateRows_of_ne (d := .interest) (by decide)]
  simp only [reduceCtorEq, if_true, if_false] at hprincipal hinterest
  constructor <;> omega

omit [DecidableEq H] in
theorem repaymentAllocation_ok {obligation : Obligation H} {debtAfter debtReduced : ℤ}
    {allocation : Allocation} (hreduced : 0 ≤ debtReduced)
    (hinterest : 0 ≤ obligation.outstandingInterestMinor)
    (h : repaymentAllocation obligation debtAfter debtReduced = .ok allocation) :
    0 ≤ allocation.interestAccrued ∧ 0 ≤ allocation.interestPaid ∧ 0 ≤ allocation.principalPaid ∧
      0 ≤ allocation.principalAfter ∧ 0 ≤ allocation.interestAfter ∧
      allocation.principalAfter
        = obligation.outstandingPrincipalMinor - allocation.principalPaid ∧
      allocation.interestAfter = obligation.outstandingInterestMinor
        + allocation.interestAccrued - allocation.interestPaid := by
  simp only [repaymentAllocation, bind_eq_ok, throwIf_eq_ok, pure_eq_ok] at h
  obtain ⟨_, hbehind, _, hexceeds, _, _, rfl⟩ := h
  refine ⟨?_, ?_, ?_, ?_, ?_, ?_, ?_⟩ <;> dsimp only <;> omega

/-- The event is a liquidation. -/
def IsLiquidation (event : PoolEvent) : Prop :=
  ∃ borrower liquidator repaidAssets seized badDebt,
    event = .positionLiquidated borrower liquidator repaidAssets seized badDebt

/-- **What an accepted effect does to the books.** -/
inductive Outcome (hashId : CreditPreimage H → H) (s s' : BoundObligation H) (event : PoolEvent) :
    Prop where
  | idle (event_ne : ¬ IsLiquidation event) (obligation : s'.obligation = s.obligation)
      (booked : books hashId s' = books hashId s)
  | opens (event_ne : ¬ IsLiquidation event) (before : s.obligation.executionStatus = .pending)
      (after : s'.obligation.executionStatus = .executed)
      (booked : books hashId s' = { books hashId s with
        postedPrincipal :=
          (books hashId s).postedPrincipal + s.obligation.originalPrincipalMinor })
  | repays (principalPaid interestAccrued interestPaid : ℤ) (event_ne : ¬ IsLiquidation event)
      (before : s.obligation.executionStatus = .executed)
      (after : s'.obligation.executionStatus = .executed)
      (principal_nonneg : 0 ≤ (books hashId s').owedPrincipal)
      (interest_nonneg : 0 ≤ (books hashId s').owedInterest)
      (booked : books hashId s' =
        { owedPrincipal := (books hashId s).owedPrincipal - principalPaid
          owedInterest := (books hashId s).owedInterest + interestAccrued - interestPaid
          scheduledPrincipal := (books hashId s).scheduledPrincipal - principalPaid
          scheduledInterest := (books hashId s).scheduledInterest + interestAccrued - interestPaid
          postedPrincipal := (books hashId s).postedPrincipal - principalPaid
          postedInterest := (books hashId s).postedInterest + interestAccrued - interestPaid })
  | liquidates (borrower liquidator : Address) (repaidAssets seized badDebt : ℕ)
      (event_eq : event = .positionLiquidated borrower liquidator repaidAssets seized badDebt)
      (before : s.obligation.executionStatus = .executed)
      (after : s'.obligation.executionStatus = .executed)
      (booked : books hashId s' = { books hashId s with
        owedPrincipal := 0
        owedInterest := 0
        postedPrincipal := (books hashId s).postedPrincipal - repaidAssets - badDebt })

omit [DecidableEq H] in
theorem liquidated_frame {obligation value : Obligation H} {observation : Observation H}
    {repaidAssets badDebt : ℕ}
    (h : liquidated obligation observation repaidAssets badDebt = .ok value) :
    obligation.executionStatus = .executed ∧ value.executionStatus = .executed ∧
      value.obligationId = obligation.obligationId ∧ value.assetId = obligation.assetId ∧
      value.installments = obligation.installments := by
  simp only [liquidated, bind_eq_ok, throwIf_eq_ok, not_not] at h
  obtain ⟨_, hexecuted, h⟩ := h
  split at h <;> cases pure_eq_ok.1 h <;> exact ⟨hexecuted, hexecuted, rfl, rfl, rfl⟩

/-- The books after an import, from the obligation it writes and the transactions it posts. -/
theorem books_eq {transactions : List (LedgerTransaction H)} {b : Books} {x y : ℤ}
    (hid : s'.obligation.obligationId = s.obligation.obligationId)
    (hasset : s'.obligation.assetId = s.obligation.assetId)
    (hledger : s'.ledgerTransactions = s.ledgerTransactions ++ transactions)
    (hprincipal :
      balance (ledgerAccountId hashId s.obligation .principalReceivable) transactions = x)
    (hinterest :
      balance (ledgerAccountId hashId s.obligation .interestReceivable) transactions = y)
    (howed : s'.obligation.outstandingPrincipalMinor = b.owedPrincipal)
    (howed' : s'.obligation.outstandingInterestMinor = b.owedInterest)
    (hrows : outstanding .principal s'.obligation.installments = b.scheduledPrincipal)
    (hrows' : outstanding .interest s'.obligation.installments = b.scheduledInterest)
    (hposted : (books hashId s).postedPrincipal + x = b.postedPrincipal)
    (hposted' : (books hashId s).postedInterest + y = b.postedInterest) :
    books hashId s' = b := by
  have haccount : ∀ own, ledgerAccountId hashId s'.obligation own
      = ledgerAccountId hashId s.obligation own := by
    intro own
    rw [ledgerAccountId, ledgerAccountId, hid, hasset]
  simp only [books, haccount, hledger, balance_append, hprincipal, hinterest] at hposted hposted' ⊢
  ext <;> assumption

theorem importFinalizedEffect_books (hapart : AccountsApart hashId)
    (hinterest : 0 ≤ s.obligation.outstandingInterestMinor)
    (h : importFinalizedEffect hashId binding s source = .ok s') :
    Outcome hashId s s' source.observation.event := by
  obtain ⟨update, transactions, hupdate, hpostings, hobligation, hledger⟩ :=
    importFinalizedEffect_ok h
  rw [updatedObligation] at hupdate
  rw [postings] at hpostings
  generalize hevent : source.observation.event = event at hupdate hpostings ⊢
  -- the events that leave the obligation alone post nothing to its receivables
  have hidle : ¬ IsLiquidation event → update = none →
      (∀ own, own = .principalReceivable ∨ own = .interestReceivable →
      balance (ledgerAccountId hashId s.obligation own) transactions.reduceOption = 0) →
      Outcome hashId s s' event := by
    rintro hne rfl hnothing
    have hsame : s'.obligation = s.obligation := hobligation
    exact .idle hne hsame (books_eq (by rw [hsame]) (by rw [hsame]) hledger (hnothing _ (.inl rfl))
      (hnothing _ (.inr rfl)) (by rw [hsame]; rfl) (by rw [hsame]; rfl) (by rw [hsame]; rfl)
      (by rw [hsame]; rfl) (add_zero _) (add_zero _))
  cases event with
  | assetsBorrowed account assets shares debtAfter cashAfter =>
    simp only [bind_eq_ok, pure_eq_ok, executed, throwIf_eq_ok, not_or, not_not] at hupdate
    obtain ⟨_, ⟨_, ⟨hpending, _, hassets, _⟩, rfl⟩, rfl⟩ := hupdate
    cases pure_eq_ok.1 hpostings
    refine .opens (by simp [IsLiquidation]) hpending (by rw [hobligation]; rfl) (books_eq
      (by rw [hobligation]; rfl) (by rw [hobligation]; rfl) hledger (y := 0) ?_ ?_
        (by rw [hobligation]; rfl)
      (by rw [hobligation]; rfl) (by rw [hobligation]; rfl) (by rw [hobligation]; rfl) rfl
      (add_zero _))
    · rw [← hassets]
      simp [balance_reduceOption_cons, balance_ledgerTransaction hapart]
    · simp [balance_reduceOption_cons, balance_ledgerTransaction hapart]
  | assetsRepaid account payer assets reduced shares dust debtAfter cashAfter =>
    simp only [bind_eq_ok, pure_eq_ok, repaid, throwIf_eq_ok, not_not] at hupdate hpostings
    obtain ⟨_, ⟨_, hexecuted, allocation, hallocation, rows, hrows, rfl⟩, rfl⟩ := hupdate
    obtain ⟨allocation', hallocation', rfl⟩ := hpostings
    cases hallocation.symm.trans hallocation'
    obtain ⟨haccrued, hpaid, hprincipal, hafter, hafter', howed, howed'⟩ :=
      repaymentAllocation_ok (Int.natCast_nonneg reduced) hinterest hallocation
    obtain ⟨hschedule, hschedule'⟩ := updateInstallmentsForRepayment_ok haccrued hrows
    refine .repays allocation.principalPaid allocation.interestAccrued allocation.interestPaid
      (by simp [IsLiquidation]) hexecuted (by rw [hobligation]; exact hexecuted)
      (by rw [books, hobligation]; exact hafter)
      (by rw [books, hobligation]; exact hafter') (books_eq (by rw [hobligation]; rfl)
        (by rw [hobligation]; rfl) hledger (x := -allocation.principalPaid)
        (y := allocation.interestAccrued - allocation.interestPaid) ?_ ?_
        (by rw [hobligation]; exact howed) (by rw [hobligation]; exact howed')
        (by rw [hobligation]; exact hschedule) (by rw [hobligation]; exact hschedule')
        (Int.add_neg_eq_sub) (Int.add_sub_assoc ..).symm)
    · simp [balance_reduceOption_cons, balance_ledgerTransaction hapart, haccrued, hpaid,
        hprincipal]
    · simp [balance_reduceOption_cons, balance_ledgerTransaction hapart, haccrued, hpaid,
        hprincipal, Int.sub_eq_add_neg]
  | positionLiquidated borrower liquidator repaidAssets seized badDebt =>
    simp only [bind_eq_ok, pure_eq_ok] at hupdate
    obtain ⟨value, hvalue, rfl⟩ := hupdate
    cases pure_eq_ok.1 hpostings
    obtain ⟨hbefore, hafter, hid, hasset, hrows⟩ := liquidated_frame hvalue
    obtain ⟨_, howed, howed', _⟩ := liquidated_ok hvalue
    refine .liquidates borrower liquidator repaidAssets seized badDebt rfl hbefore
      (by rw [hobligation]; exact hafter) (books_eq (by rw [hobligation]; exact hid)
        (by rw [hobligation]; exact hasset) hledger (x := -repaidAssets - badDebt) (y := 0) ?_ ?_
        (by rw [hobligation]; exact howed) (by rw [hobligation]; exact howed')
        (by rw [hobligation]; exact congrArg (outstanding .principal) hrows)
        (by rw [hobligation]; exact congrArg (outstanding .interest) hrows) (by ring)
        (add_zero _))
    · simp [balance_reduceOption_cons, balance_ledgerTransaction hapart, Int.sub_eq_add_neg]
    · simp [balance_reduceOption_cons, balance_ledgerTransaction hapart]
  | badDebtRecovered account payer recovered remaining total =>
    cases pure_eq_ok.1 hupdate
    cases pure_eq_ok.1 hpostings
    refine hidle (by simp [IsLiquidation]) rfl fun own hown ↦ ?_
    rw [balance_reduceOption_cons, balance_ledgerTransaction hapart own
      (Int.natCast_nonneg recovered) (by decide)]
    rcases hown with rfl | rfl <;> rfl
  | _ =>
    cases pure_eq_ok.1 hupdate
    cases pure_eq_ok.1 hpostings
    exact hidle (by simp [IsLiquidation]) rfl fun _ _ ↦ rfl

/-- Every transaction that is posted balances. -/
theorem importFinalizedEffect_balanced
    (h : importFinalizedEffect hashId binding s source = .ok s')
    (hbalanced : ∀ transaction ∈ s.ledgerTransactions, transaction.Balanced) :
    ∀ transaction ∈ s'.ledgerTransactions, transaction.Balanced := by
  obtain ⟨_, transactions, _, hpostings, _, hledger⟩ := importFinalizedEffect_ok h
  rw [hledger]
  intro transaction hmem
  refine (List.mem_append.1 hmem).elim (hbalanced transaction) fun hnew ↦ ?_
  rw [List.reduceOption_mem_iff] at hnew
  rw [postings] at hpostings
  split at hpostings
  case h_2 =>
    simp only [bind_eq_ok, pure_eq_ok] at hpostings
    obtain ⟨allocation, _, rfl⟩ := hpostings
    simp only [List.mem_cons, List.not_mem_nil, or_false] at hnew
    rcases hnew with hnew | hnew | hnew <;> exact balanced_ledgerTransaction hnew.symm
  all_goals
    cases pure_eq_ok.1 hpostings
    simp only [List.mem_cons, List.not_mem_nil, or_false] at hnew
  · exact balanced_ledgerTransaction hnew.symm
  · rcases hnew with hnew | hnew <;> exact balanced_ledgerTransaction hnew.symm
  · exact balanced_ledgerTransaction hnew.symm

end Books

/-! ## Runs of imports -/

section Runs

variable {H : Type} [DecidableEq H] {hashId : CreditPreimage H → H}
  {binding : PoolObligationBinding H} {s s' : BoundObligation H}

/-- An effect is imported, or refused and nothing changes. -/
def importStep (hashId : CreditPreimage H → H) (binding : PoolObligationBinding H)
    (s : BoundObligation H) (source : EffectSource H) : BoundObligation H :=
  match importFinalizedEffect hashId binding s source with
  | .ok s' => s'
  | .error _ => s

/-- **The three accounts agree.**  The schedule and the totals always do; the receivables do once
the loan has been imported, and are empty before. -/
structure Reconciled (hashId : CreditPreimage H → H) (s : BoundObligation H) : Prop where
  principal_nonneg : 0 ≤ s.obligation.outstandingPrincipalMinor
  interest_nonneg : 0 ≤ s.obligation.outstandingInterestMinor
  scheduledPrincipal : outstanding .principal s.obligation.installments
    = s.obligation.outstandingPrincipalMinor
  scheduledInterest : outstanding .interest s.obligation.installments
    = s.obligation.outstandingInterestMinor
  postedPrincipal :
    balance (ledgerAccountId hashId s.obligation .principalReceivable) s.ledgerTransactions
      = if s.obligation.executionStatus = .executed then s.obligation.outstandingPrincipalMinor
        else 0
  postedInterest :
    balance (ledgerAccountId hashId s.obligation .interestReceivable) s.ledgerTransactions
      = if s.obligation.executionStatus = .executed then s.obligation.outstandingInterestMinor
        else 0
  balanced : ∀ transaction ∈ s.ledgerTransactions, transaction.Balanced

/-- What `Reconciled` says of the books. -/
def Books.InStep (b : Books) (executed : Prop) [Decidable executed] : Prop :=
  0 ≤ b.owedPrincipal ∧ 0 ≤ b.owedInterest ∧ b.scheduledPrincipal = b.owedPrincipal ∧
    b.scheduledInterest = b.owedInterest ∧
    b.postedPrincipal = (if executed then b.owedPrincipal else 0) ∧
    b.postedInterest = if executed then b.owedInterest else 0

theorem reconciled_iff : Reconciled hashId s ↔
    (books hashId s).InStep (s.obligation.executionStatus = .executed) ∧
      ∀ transaction ∈ s.ledgerTransactions, transaction.Balanced :=
  ⟨fun ⟨h₁, h₂, h₃, h₄, h₅, h₆, h₇⟩ ↦ ⟨⟨h₁, h₂, h₃, h₄, h₅, h₆⟩, h₇⟩,
    fun ⟨⟨h₁, h₂, h₃, h₄, h₅, h₆⟩, h₇⟩ ↦ ⟨h₁, h₂, h₃, h₄, h₅, h₆, h₇⟩⟩

/-- An obligation as it is accepted: nothing has been paid or posted. -/
structure Accepted (s : BoundObligation H) : Prop where
  executionStatus : s.obligation.executionStatus = .pending
  principal_nonneg : 0 ≤ s.obligation.originalPrincipalMinor
  outstandingPrincipal :
    s.obligation.outstandingPrincipalMinor = s.obligation.originalPrincipalMinor
  outstandingInterest : s.obligation.outstandingInterestMinor = 0
  scheduledPrincipal :
    outstanding .principal s.obligation.installments = s.obligation.originalPrincipalMinor
  scheduledInterest : outstanding .interest s.obligation.installments = 0
  ledger : s.ledgerTransactions = []

/-- The loan is imported, or the obligation still owes what was accepted. -/
def Opened (s : BoundObligation H) : Prop :=
  s.obligation.executionStatus = .executed ∧ 0 ≤ s.obligation.outstandingInterestMinor ∨
    s.obligation.executionStatus = .pending ∧
      s.obligation.outstandingPrincipalMinor = s.obligation.originalPrincipalMinor ∧
      s.obligation.outstandingInterestMinor = 0

/-- The effect is no liquidation, or one that has nothing to clear and nothing to post. -/
def LeavesBooks (s : BoundObligation H) (source : EffectSource H) : Prop :=
  ∀ borrower liquidator repaidAssets seized badDebt,
    source.observation.event
      = .positionLiquidated borrower liquidator repaidAssets seized badDebt →
    repaidAssets = 0 ∧ badDebt = 0 ∧ s.obligation.outstandingPrincipalMinor = 0 ∧
      s.obligation.outstandingInterestMinor = 0

/-- An effect that is refused, or leaves the books in step. -/
def Harmless (hashId : CreditPreimage H → H) (binding : PoolObligationBinding H)
    (s : BoundObligation H) (source : EffectSource H) : Prop :=
  ∀ s', importFinalizedEffect hashId binding s source = .ok s' → LeavesBooks s source

omit [DecidableEq H] in
theorem Accepted.opened (h : Accepted s) : Opened s :=
  .inr ⟨h.executionStatus, h.outstandingPrincipal, h.outstandingInterest⟩

theorem Accepted.reconciled (h : Accepted s) : Reconciled hashId s := by
  refine ⟨?_, ?_, ?_, ?_, ?_, ?_, ?_⟩
  · rw [h.outstandingPrincipal]
    exact h.principal_nonneg
  · rw [h.outstandingInterest]
  · rw [h.scheduledPrincipal, h.outstandingPrincipal]
  · rw [h.scheduledInterest, h.outstandingInterest]
  · rw [h.ledger, h.executionStatus]
    rfl
  · rw [h.ledger, h.executionStatus]
    rfl
  · rw [h.ledger]
    exact fun _ hmem ↦ absurd hmem List.not_mem_nil

omit [DecidableEq H] in
theorem Opened.interest_nonneg (h : Opened s) : 0 ≤ s.obligation.outstandingInterestMinor := by
  rcases h with ⟨_, hnonneg⟩ | ⟨_, _, h0⟩
  · exact hnonneg
  · exact h0.ge

section Step

variable {source : EffectSource H} (hapart : AccountsApart hashId) (hopened : Opened s)
  (h : importFinalizedEffect hashId binding s source = .ok s')
include hapart hopened h

theorem importFinalizedEffect_opened : Opened s' := by
  cases importFinalizedEffect_books hapart hopened.interest_nonneg h with
  | idle _ obligation =>
    rw [Opened, obligation]
    exact hopened
  | opens _ _ after booked =>
    refine .inl ⟨after, ?_⟩
    have howed := congrArg Books.owedInterest booked
    exact hopened.interest_nonneg.trans_eq howed.symm
  | repays _ _ _ _ _ after _ interest_nonneg => exact .inl ⟨after, interest_nonneg⟩
  | liquidates _ _ _ _ _ _ _ after booked =>
    exact .inl ⟨after, (congrArg Books.owedInterest booked).ge⟩

/-- **One import.**  Where the three accounts agree, they agree after an accepted effect exactly if
it is not a liquidation with something to clear or to post. -/
theorem importFinalizedEffect_reconciled_iff (hs : Reconciled hashId s) :
    Reconciled hashId s' ↔ LeavesBooks s source := by
  have hbalanced := importFinalizedEffect_balanced h hs.balanced
  have hleaves : ¬ IsLiquidation source.observation.event → LeavesBooks s source :=
    fun hne borrower liquidator repaidAssets seized badDebt hevent ↦
      absurd ⟨borrower, liquidator, repaidAssets, seized, badDebt, hevent⟩ hne
  rw [reconciled_iff] at hs ⊢
  cases importFinalizedEffect_books hapart hopened.interest_nonneg h with
  | idle event_ne obligation booked =>
    rw [booked, obligation]
    exact iff_of_true ⟨hs.1, hbalanced⟩ (hleaves event_ne)
  | opens event_ne before after booked =>
    -- before the loan nothing is posted, and the loan is what is owed
    rcases hopened with ⟨hexecuted, _⟩ | ⟨_, howed, howed'⟩
    · rw [before] at hexecuted
      cases hexecuted
    · refine iff_of_true ⟨?_, hbalanced⟩ (hleaves event_ne)
      obtain ⟨hprincipal, hinterest, hrows, hrows', hposted, hposted'⟩ := hs.1
      rw [before, if_neg (by decide)] at hposted hposted'
      rw [booked, after]
      refine ⟨hprincipal, hinterest, hrows, hrows', ?_, ?_⟩
      · rw [if_pos rfl, hposted, zero_add]
        exact howed.symm
      · rw [if_pos rfl, hposted']
        exact howed'.symm
  | repays principalPaid interestAccrued interestPaid event_ne before after hprincipal hinterest
      booked =>
    refine iff_of_true ⟨?_, hbalanced⟩ (hleaves event_ne)
    obtain ⟨_, _, hrows, hrows', hposted, hposted'⟩ := hs.1
    rw [before, if_pos rfl] at hposted hposted'
    rw [booked] at hprincipal hinterest ⊢
    rw [after]
    refine ⟨hprincipal, hinterest, ?_, ?_, ?_, ?_⟩
    · rw [hrows]
    · rw [hrows']
    · rw [if_pos rfl, hposted]
    · rw [if_pos rfl, hposted']
  | liquidates borrower liquidator repaidAssets seized badDebt event_eq before after booked =>
    obtain ⟨_, _, hrows, hrows', hposted, hposted'⟩ := hs.1
    rw [before, if_pos rfl] at hposted hposted'
    rw [booked, after]
    constructor
    · -- the rows are as before, so there was nothing to clear
      rintro ⟨⟨_, _, hrows₁, hrows₁', hposted₁, _⟩, _⟩
      rw [if_pos rfl] at hposted₁
      have howed : (books hashId s).owedPrincipal = 0 := hrows.symm.trans hrows₁
      have howed' : (books hashId s).owedInterest = 0 := hrows'.symm.trans hrows₁'
      dsimp only at hposted₁
      intro borrower' liquidator' repaidAssets' seized' badDebt' hevent
      cases event_eq.symm.trans hevent
      exact ⟨by omega, by omega, howed, howed'⟩
    · intro hleaves
      obtain ⟨rfl, rfl, howed, howed'⟩ := hleaves _ _ _ _ _ event_eq
      refine ⟨⟨le_rfl, le_rfl, hrows.trans howed, hrows'.trans howed', ?_, ?_⟩, hbalanced⟩
      · rw [if_pos rfl, hposted]
        show s.obligation.outstandingPrincipalMinor - ((0 : ℕ) : ℤ) - ((0 : ℕ) : ℤ) = 0
        omega
      · rw [if_pos rfl, hposted']
        exact howed'

end Step

/-- **When the three accounts agree all along a run.**  From an accepted obligation on, and over any
sequence of effects, the totals, the schedule and the ledger agree in every state that is reached
exactly if no liquidation is imported that has anything to clear or to post. -/
theorem imported_books_along_iff (hapart : AccountsApart hashId) (hs : Accepted s)
    (binding : PoolObligationBinding H) (sources : List (EffectSource H)) :
    Run.Along (importStep hashId binding) (Reconciled hashId) s sources ↔
      Run.Steps (importStep hashId binding) (Harmless hashId binding) s sources := by
  have hopened : ∀ t source, Opened t → Opened (importStep hashId binding t source) := by
    intro t source ht
    rw [importStep]
    split
    · rename_i t' h
      exact importFinalizedEffect_opened hapart ht h
    · exact ht
  refine Run.along_iff_steps hopened ?_ sources hs.opened hs.reconciled
  intro t source ht hreconciled
  rw [importStep, Harmless]
  split
  · rename_i t' h
    rw [importFinalizedEffect_reconciled_iff hapart ht h hreconciled]
    exact ⟨fun hleaves _ _ ↦ hleaves, fun hall ↦ hall t' h⟩
  · rename_i e h
    exact iff_of_true hreconciled fun t' h' ↦ by rw [h] at h'; cases h'

end Runs

namespace Sample

theorem accountsApart : AccountsApart hashId := by
  intro obligation a b hab
  have hidx : a.ctorIdx = b.ctorIdx := (List.cons.inj (List.cons.inj hab).2).1
  revert hidx
  cases a <;> cases b <;> simp [LedgerAccountType.ctorIdx]

/-- The obligation before its loan is imported. -/
def fresh : BoundObligation (List ℕ) := ⟨obligation, projection, []⟩

theorem accepted_fresh : Accepted fresh :=
  ⟨rfl, by decide, rfl, rfl, by decide, by decide, rfl⟩

/-- The loan, and the repayment of the liquidation. -/
def payments : List (EffectSource (List ℕ)) :=
  [source (Pool.Sample.after opening).logs ⟨5, .assetsBorrowed 2 1500 1500 1500 0, 1000⟩,
    source refreshed repaidLog]

end Sample

/-- A loan and a repayment are imported, and the three accounts agree. -/
theorem imported_books_along_payments :
    Run.Along (importStep Sample.hashId Sample.binding) (Reconciled Sample.hashId) Sample.fresh
        Sample.payments ∧
      (Run.run (importStep Sample.hashId Sample.binding) Sample.fresh
        Sample.payments).obligation.outstandingPrincipalMinor = 1101 := by
  refine ⟨(imported_books_along_iff Sample.accountsApart Sample.accepted_fresh Sample.binding
    Sample.payments).2 ⟨?_, ?_, trivial⟩, by decide +kernel⟩
  · exact fun _ _ _ _ _ _ _ hevent ↦ nomatch hevent
  · exact fun _ _ _ _ _ _ _ hevent ↦ nomatch hevent

/-- After the liquidation the obligation owes nothing, the ledger has 701 to receive, and the
schedule asks for 1101. -/
theorem liquidation_parts_books :
    let s := Run.run (importStep Sample.hashId Sample.binding) Sample.fresh
      (Sample.payments ++ [Sample.source (Sample.refreshed ++ [Sample.repaidLog])
        Sample.liquidatedLog])
    s.projection.projectionVersion = 3 ∧ s.obligation.outstandingPrincipalMinor = 0 ∧
      balance (ledgerAccountId Sample.hashId s.obligation .principalReceivable)
        s.ledgerTransactions = 701 ∧
      outstanding .principal s.obligation.installments = 1101 ∧
      ¬ Reconciled Sample.hashId s := by
  intro s
  have howed : s.obligation.outstandingPrincipalMinor = 0 := by decide +kernel
  have hrows : outstanding .principal s.obligation.installments = 1101 := by decide +kernel
  refine ⟨by decide +kernel, howed, by decide +kernel, hrows, fun hs ↦ ?_⟩
  have hsame := hs.scheduledPrincipal
  rw [howed, hrows] at hsame
  exact absurd hsame (by decide)

end Credit
end IpoOne
