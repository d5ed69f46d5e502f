import IpoOne.Credit.Accrual

/-!
# Repayments add up

Paying `a` and then `b` at one instant comes to paying `a + b`.  The second payment accrues nothing
(`AccruesFrom.again`), the waterfall of the two is the waterfall of the sum (`applyPayment_add`),
and so is what they leave of the rows (`rowsAfter_add`): the loop over the rows takes from each row
what it is asked for, which is an action of the amounts, and the loops of different components do
not see each other.
-/

set_option autoImplicit false

namespace IpoOne
namespace Credit

open Fallible

/-! ## Rows -/

section Rows

variable {H : Type} {c d : Component} {row : Installment H} {rows : List (Installment H)}

theorem pay_zero (c : Component) (row : Installment H) : c.pay row 0 = row := by
  cases c <;> simp [Component.pay]

theorem pay_pay (c : Component) (row : Installment H) (x y : ℤ) :
    c.pay (c.pay row x) y = c.pay row (x + y) := by
  cases c <;> simp [Component.pay, Int.add_assoc]

theorem pay_comm (h : c ≠ d) (row : Installment H) (x y : ℤ) :
    c.pay (d.pay row x) y = d.pay (c.pay row y) x := by
  cases c <;> cases d <;> first | rfl | exact absurd rfl h

theorem due_pay_self (x : ℤ) : c.due (c.pay row x) = c.due row - x := by
  rw [Component.due, scheduled_pay, paid_pay_self, Component.due]
  omega

theorem due_pay_of_ne (h : c ≠ d) (x : ℤ) : c.due (d.pay row x) = c.due row := by
  rw [Component.due, scheduled_pay, paid_pay_of_ne h, Component.due]

/-- What `allocateRows` does to the rows, to the end of them. -/
def spread (c : Component) : List (Installment H) → ℤ → List (Installment H)
  | [], _ => []
  | row :: rest, x =>
    c.pay row (min x (c.due row)) :: spread c rest (x - min x (c.due row))

/-- Every row still asks for something, or for nothing. -/
def Open (rows : List (Installment H)) : Prop := ∀ row ∈ rows, ∀ c : Component, 0 ≤ c.due row

theorem WithinSchedule.open (h : WithinSchedule rows) : Open rows :=
  fun row hrow c ↦ Int.sub_nonneg_of_le (h row hrow c).2

theorem open_cons : Open (row :: rows) ↔ (∀ c : Component, 0 ≤ c.due row) ∧ Open rows :=
  List.forall_mem_cons

theorem spread_zero (h : Open rows) : spread c rows 0 = rows := by
  induction rows with
  | nil => rfl
  | cons row rest ih =>
    obtain ⟨hrow, hrest⟩ := open_cons.1 h
    rw [spread, min_eq_left (hrow c), pay_zero, sub_zero, ih hrest]

theorem allocateRows_eq_spread (h : Open rows) (x : ℤ) :
    (allocateRows c rows x).1 = spread c rows x := by
  induction rows generalizing x with
  | nil => rfl
  | cons row rest ih =>
    rw [allocateRows]
    split
    · rename_i h0
      rw [h0, spread_zero h]
    · obtain ⟨_, hrest⟩ := open_cons.1 h
      rw [spread, ← ih hrest]
      rfl

theorem open_spread (h : Open rows) (x : ℤ) : Open (spread c rows x) := by
  induction rows generalizing x with
  | nil => exact h
  | cons row rest ih =>
    obtain ⟨hrow, hrest⟩ := open_cons.1 h
    rw [spread]
    refine open_cons.2 ⟨fun e ↦ ?_, ih hrest _⟩
    by_cases he : e = c
    · subst he
      rw [due_pay_self]
      omega
    · rw [due_pay_of_ne he]
      exact hrow e

/-- **Amounts act on the rows.** -/
theorem spread_spread {x y : ℤ} (hx : 0 ≤ x) (hy : 0 ≤ y) (h : Open rows) :
    spread c (spread c rows x) y = spread c rows (x + y) := by
  induction rows generalizing x y with
  | nil => rfl
  | cons row rest ih =>
    obtain ⟨hrow, hrest⟩ := open_cons.1 h
    have hdue := hrow c
    have hsum : min x (c.due row) + min y (c.due row - min x (c.due row))
        = min (x + y) (c.due row) := by omega
    rw [spread, spread, due_pay_self, pay_pay, hsum, ih (by omega) (by omega) hrest, spread]
    congr 2
    omega

/-- Payments of different components do not see each other. -/
theorem spread_comm (h : c ≠ d) (rows : List (Installment H)) (x y : ℤ) :
    spread c (spread d rows x) y = spread d (spread c rows y) x := by
  induction rows generalizing x y with
  | nil => rfl
  | cons row rest ih =>
    rw [spread, spread, spread, spread, due_pay_of_ne h, due_pay_of_ne h.symm, pay_comm h, ih]

/-- Nor do they see the statuses. -/
theorem updateStatuses_spread (rows : List (Installment H)) (x : ℤ) :
    updateStatuses (spread c (updateStatuses rows) x) = updateStatuses (spread c rows x) := by
  induction rows generalizing x with
  | nil => rfl
  | cons row rest ih =>
    have htail := ih (x - min x (c.due row))
    show updateStatuses (spread c ({ row with status := rowStatus row } :: updateStatuses rest) x)
      = _
    rw [spread, spread]
    cases c <;> exact congrArg₂ List.cons rfl htail

theorem updateStatuses_spread_congr {rows rows' : List (Installment H)}
    (h : updateStatuses rows = updateStatuses rows') (x : ℤ) :
    updateStatuses (spread c rows x) = updateStatuses (spread c rows' x) := by
  rw [← updateStatuses_spread rows, h, updateStatuses_spread]

theorem updateStatuses_idem (rows : List (Installment H)) :
    updateStatuses (updateStatuses rows) = updateStatuses rows := by
  rw [updateStatuses, updateStatuses, List.map_map]
  rfl

theorem open_updateStatuses (h : Open rows) : Open (updateStatuses rows) := by
  intro row hrow e
  obtain ⟨row, hmem, rfl⟩ := List.mem_map.1 hrow
  cases e
  · exact h row hmem .fee
  · exact h row hmem .interest
  · exact h row hmem .principal

/-- The amounts of a payment are not negative. -/
def Applied.Nonneg (applied : Applied) : Prop := ∀ c, 0 ≤ applied.of c

/-- What two payments cover together. -/
def Applied.add (first second : Applied) : Applied where
  fee := first.fee + second.fee
  interest := first.interest + second.interest
  principal := first.principal + second.principal

/-- The rows after a payment, as an action of its amounts. -/
def spreadAll (rows : List (Installment H)) (applied : Applied) : List (Installment H) :=
  spread .principal (spread .interest (spread .fee rows applied.fee) applied.interest)
    applied.principal

theorem rowsAfter_eq (h : Open rows) (applied : Applied) :
    rowsAfter rows applied = updateStatuses (spreadAll rows applied) := by
  rw [rowsAfter, allocateRows_eq_spread h, allocateRows_eq_spread (open_spread h _),
    allocateRows_eq_spread (open_spread (open_spread h _) _), spreadAll]

theorem open_spreadAll (h : Open rows) (applied : Applied) : Open (spreadAll rows applied) :=
  open_spread (open_spread (open_spread h _) _) _

theorem spreadAll_spreadAll {first second : Applied} (hfirst : first.Nonneg)
    (hsecond : second.Nonneg) (h : Open rows) :
    spreadAll (spreadAll rows first) second = spreadAll rows (first.add second) := by
  have hfee : 0 ≤ first.fee ∧ 0 ≤ second.fee := ⟨hfirst .fee, hsecond .fee⟩
  have hinterest : 0 ≤ first.interest ∧ 0 ≤ second.interest :=
    ⟨hfirst .interest, hsecond .interest⟩
  have hprincipal : 0 ≤ first.principal ∧ 0 ≤ second.principal :=
    ⟨hfirst .principal, hsecond .principal⟩
  -- each component is taken past the two that were paid after it
  simp only [spreadAll]
  rw [spread_comm (c := .fee) (d := .principal) (by decide),
    spread_comm (c := .fee) (d := .interest) (by decide), spread_spread hfee.1 hfee.2 h,
    spread_comm (c := .interest) (d := .principal) (by decide),
    spread_spread hinterest.1 hinterest.2 (open_spread h _),
    spread_spread hprincipal.1 hprincipal.2 (open_spread (open_spread h _) _)]
  rfl

/-- **The rows after two payments** are those after a payment of their sum. -/
theorem rowsAfter_add {first second : Applied} (hfirst : first.Nonneg) (hsecond : second.Nonneg)
    (h : Open rows) : rowsAfter (rowsAfter rows first) second
      = rowsAfter rows (first.add second) := by
  rw [rowsAfter_eq h, rowsAfter_eq (open_updateStatuses (open_spreadAll h _)), rowsAfter_eq h,
    ← spreadAll_spreadAll hfirst hsecond h]
  refine updateStatuses_spread_congr (updateStatuses_spread_congr (updateStatuses_spread_congr ?_ _)
    _) _
  exact updateStatuses_idem _

end Rows

/-! ## Amounts -/

section Amounts

variable {H : Type} {obligation : Obligation H}

/-- **The waterfall of two payments** is that of their sum. -/
theorem applyPayment_add (h : Reckoned obligation) {a b : ℤ} (ha : 0 < a) (hb : 0 < b)
    (rows : List (Installment H)) (now : ℕ) :
    let first := applyPayment obligation a
    let second := applyPayment (updatedByRepayment obligation first rows now) b
    first.Nonneg ∧ second.Nonneg ∧ first.add second = applyPayment obligation (a + b) := by
  have hprincipal := h.owed_nonneg .principal
  have hinterest := h.owed_nonneg .interest
  have hfee := h.owed_nonneg .fee
  simp only [Obligation.owed] at hprincipal hinterest hfee
  refine ⟨fun c ↦ ?_, fun c ↦ ?_, ?_⟩
  · cases c <;> simp only [Applied.of, applyPayment] <;> omega
  · cases c <;> simp only [Applied.of, applyPayment, updatedByRepayment] <;> omega
  · simp only [Applied.add, applyPayment, updatedByRepayment, Applied.mk.injEq]
    omega

theorem applyPayment_total (h : Reckoned obligation) {a : ℤ}
    (hle : a ≤ totalOutstanding obligation) : (applyPayment obligation a).total = a := by
  have hprincipal := h.owed_nonneg .principal
  have hinterest := h.owed_nonneg .interest
  have hfee := h.owed_nonneg .fee
  simp only [Obligation.owed] at hprincipal hinterest hfee
  simp only [totalOutstanding] at hle
  simp only [Applied.total, applyPayment]
  omega

end Amounts

/-! ## When a payment is posted -/

section Posting

variable {H : Type} {hashId : SandboxPreimage H → H} {obligation : Obligation H}

/-- An amount in minor units that may be posted. -/
def IsMinorUnits (amount : ℤ) : Prop := 0 < amount ∧ amount < 10 ^ maxMinorUnitDigits

theorem assertPositiveMinorUnits_eq_ok {value parsed : ℤ} {name : String} :
    assertPositiveMinorUnits value name = .ok parsed ↔ IsMinorUnits value ∧ parsed = value := by
  simp only [assertPositiveMinorUnits, toMinorUnitBigInt, bind_eq_ok, throwIf_eq_ok, pure_eq_ok,
    not_or, not_lt, not_le, IsMinorUnits]
  constructor
  · rintro ⟨_, ⟨_, ⟨_, hlt⟩, rfl⟩, _, hpos, rfl⟩
    exact ⟨⟨hpos, hlt⟩, rfl⟩
  · rintro ⟨⟨hpos, hlt⟩, rfl⟩
    exact ⟨_, ⟨(), ⟨hpos.le, hlt⟩, rfl⟩, (), hpos, rfl⟩

/-- A balanced transaction of amounts that may be posted is posted. -/
theorem createBalancedTransaction_isOk {idempotencyKey : H} {transactionType : String}
    {reference : LedgerReference H} {inputs : List (EntryInput H)}
    (hamounts : ∀ entry ∈ inputs, IsMinorUnits entry.amountMinor)
    (hne : sideTotal .debit (numbered 0 inputs) ≠ 0)
    (hsame : sideTotal .debit (numbered 0 inputs) = sideTotal .credit (numbered 0 inputs)) :
    ∃ transaction, createBalancedTransaction hashId idempotencyKey transactionType obligation
      reference inputs = .ok transaction := by
  have hmap : ∃ amounts, (inputs.mapM fun entry ↦
      assertPositiveMinorUnits entry.amountMinor "ledger amount") = .ok amounts := by
    refine ⟨inputs.map (·.amountMinor), mapM_eq_ok.2 ?_⟩
    rw [List.forall₂_map_right_iff, List.forall₂_same]
    exact fun entry hentry ↦ assertPositiveMinorUnits_eq_ok.2 ⟨hamounts entry hentry, rfl⟩
  obtain ⟨amounts, hmap⟩ := hmap
  simp only [createBalancedTransaction, bind_eq_ok, throwIf_eq_ok, pure_eq_ok, not_or, not_not]
  exact ⟨_, amounts, hmap, (), ⟨hne, hsame⟩, rfl⟩

/-- The credits of the receivables come to what was paid of them. -/
theorem sideTotal_receivableCredits {amounts : List (LedgerAccountType × ℤ)}
    (hpos : ∀ amount ∈ amounts, 0 ≤ amount.2) (start : ℕ) :
    sideTotal .credit (numbered start (receivableCredits hashId obligation amounts))
        = (amounts.map (·.2)).sum ∧
      sideTotal .debit (numbered start (receivableCredits hashId obligation amounts)) = 0 := by
  induction amounts generalizing start with
  | nil => exact ⟨rfl, rfl⟩
  | cons amount rest ih =>
    obtain ⟨hamount, hrest⟩ := List.forall_mem_cons.1 hpos
    rw [receivableCredits, List.filter_cons, List.map_cons, List.sum_cons]
    by_cases hlt : 0 < amount.2
    · obtain ⟨hcredit, hdebit⟩ := ih hrest (start + 1)
      rw [if_pos (decide_eq_true hlt), List.map_cons, numbered]
      rw [receivableCredits] at hcredit hdebit
      refine ⟨?_, hdebit⟩
      rw [← hcredit]
      rfl
    · have h0 : amount.2 = 0 := by omega
      rw [if_neg (by simpa using hlt), h0, zero_add]
      exact ih hrest start

/-- Where nothing has accrued there is nothing to post. -/
theorem interestTransaction_none (obligation : Obligation H) (elapsedDays : ℕ) :
    interestTransaction hashId ⟨obligation, elapsedDays, 0⟩ = .ok none := by
  rw [interestTransaction, if_pos rfl]
  rfl

/-- The two sides of a payment. -/
theorem sideTotal_paymentEntries (hashId : SandboxPreimage H → H) (obligation : Obligation H)
    (applied : Applied)
    (hnonneg : ∀ amount ∈ [(LedgerAccountType.feeReceivable, applied.fee),
      (.interestReceivable, applied.interest), (.principalReceivable, applied.principal)],
      0 ≤ amount.2) :
    let inputs := ⟨sandboxAccountId hashId obligation .repaymentClearing, .debit, applied.total⟩ ::
      receivableCredits hashId obligation [(.feeReceivable, applied.fee),
        (.interestReceivable, applied.interest), (.principalReceivable, applied.principal)]
    sideTotal .credit (numbered 0 inputs) = applied.total ∧
      sideTotal .debit (numbered 0 inputs) = applied.total := by
  intro inputs
  obtain ⟨hcredit, hdebit⟩ :=
    @sideTotal_receivableCredits _ hashId obligation _ hnonneg 1
  have hcreditEq : sideTotal .credit (numbered 0 inputs) = sideTotal .credit (numbered 1
      (receivableCredits hashId obligation [(.feeReceivable, applied.fee),
        (.interestReceivable, applied.interest), (.principalReceivable, applied.principal)])) := rfl
  have hdebitEq : sideTotal .debit (numbered 0 inputs)
      = applied.total + sideTotal .debit (numbered 1
      (receivableCredits hashId obligation [(.feeReceivable, applied.fee),
        (.interestReceivable, applied.interest), (.principalReceivable, applied.principal)])) := rfl
  rw [hcreditEq, hdebitEq, hcredit, hdebit, add_zero]
  refine ⟨?_, rfl⟩
  simp only [List.map_cons, List.map_nil, List.sum_cons, List.sum_nil, Applied.total]
  omega

/-- What servicing asks of an obligation whose status is that of a payment. -/
structure Serviced (obligation : Obligation H) : Prop where
  sandboxOnly : obligation.sandboxOnly = true
  productionFundsMoved : obligation.productionFundsMoved = false
  executed : obligation.executionStatus = .executed
  rows : obligation.installments ≠ []
  paid : obligation.status = .fullyRepaid ∨ obligation.status = .partiallyRepaid
  sequence : isSafeInteger obligation.scheduleSequence ∧ 1 ≤ obligation.scheduleSequence

theorem Serviced.basePerformingStatus_mem (h : Serviced obligation) :
    basePerformingStatus obligation ∈
      [ObligationStatus.fullyRepaid, .partiallyRepaid, .active] := by
  have hresolved : ¬ (obligation.status ∈ [ObligationStatus.restructured, .repurchased] ∧
      obligation.servicingClassification ∈ [.restructured, .repurchased]) := by
    rintro ⟨hstatus, _⟩
    rcases h.paid with hpaid | hpaid
    · rw [hpaid] at hstatus
      exact absurd hstatus (by decide)
    · rw [hpaid] at hstatus
      exact absurd hstatus (by decide)
  rw [basePerformingStatus, if_neg hresolved]
  split
  · decide
  · split
    · decide
    · decide

/-- The servicing that is derived fits together. -/
theorem Serviced.assertSandboxServicingState (h : Serviced obligation) {now : ℕ}
    (hnow : isSafeInteger now) {derived : DerivedServicing H}
    (hpair : derived.servicingClassification ∈ allowedClassifications derived.status)
    (hdays : derived.daysPastDue ≤ now)
    (hcurrent : derived.servicingClassification = .current → derived.daysPastDue = 0)
    (hdefaulted : derived.status = .defaulted → sandboxServicingDefaultDpd ≤ derived.daysPastDue)
    (holdest : derived.oldestUnpaidInstallmentId = none → derived.daysPastDue = 0) :
    Credit.assertSandboxServicingState (Credit.serviced obligation derived now) = .ok () := by
  obtain ⟨hsafe, hone⟩ := h.sequence
  have hdays' : isSafeInteger derived.daysPastDue := hdays.trans hnow
  simp only [Credit.assertSandboxServicingState, assertSharedServicingObligation, bind_eq_ok]
  refine ⟨(), throwIf_eq_ok.2 ?_, (), throwIf_eq_ok.2 ?_, (), throwIf_eq_ok.2 (not_not.2 hpair),
    throwIf_eq_ok.2 ?_⟩
  · simp [Credit.serviced, h.sandboxOnly, h.productionFundsMoved, h.rows]
  · rintro (hnot | hnot | hnot)
    · exact hnot hdays'
    · exact hnot hsafe
    · exact absurd hone (not_le.2 hnot)
  · rintro (⟨hclass, hne⟩ | ⟨hstatus, hlt⟩ | ⟨hnone, hne⟩)
    · exact hne (hcurrent hclass)
    · exact absurd hlt (not_lt.2 (hdefaulted hstatus))
    · exact hne (holdest hnone)

theorem allowed_of_performing {status : ObligationStatus}
    (h : status ∈ [ObligationStatus.fullyRepaid, .partiallyRepaid, .active]) :
    .current ∈ allowedClassifications status ∧ .cured ∈ allowedClassifications status ∧
      status ≠ .defaulted := by
  revert h
  cases status <;> decide

theorem classificationForDpd_mem (days : ℕ) :
    classificationForDpd days ∈
      [ServicingClassification.gracePeriod, .dpd1To30, .dpd31To60, .dpd61To89, .defaulted] := by
  rw [classificationForDpd]
  split_ifs <;> decide

theorem pastDueServicing_pair (oldest : Installment H) (now : ℕ) :
    (pastDueServicing oldest now).servicingClassification
        ∈ allowedClassifications (pastDueServicing oldest now).status ∧
      (pastDueServicing oldest now).servicingClassification ≠ .current := by
  have hlate : ∀ c ∈ [ServicingClassification.gracePeriod, .dpd1To30, .dpd31To60, .dpd61To89,
      .defaulted], c ∈ allowedClassifications (if c = .defaulted then .defaulted else .delinquent) ∧
        c ≠ .current := by decide
  exact hlate _ (classificationForDpd_mem _)

theorem applyDerivedServicing_of_ok {derived : DerivedServicing H} {now : ℕ}
    (h : Credit.assertSandboxServicingState (Credit.serviced obligation derived now) = .ok ()) :
    applyDerivedServicing obligation derived now
      = .ok (Credit.serviced obligation derived now) := by
  rw [applyDerivedServicing, bind_eq_ok]
  exact ⟨(), h, rfl⟩

/-- **Servicing after a payment goes through.** -/
theorem Serviced.applySandboxServicingAfterRepayment (h : Serviced obligation)
    (previous : Obligation H) {actorId : String} {now : ℕ} (hnow : isSafeInteger now)
    (hactor : assertNonEmptyString "actorId" actorId = .ok ()) :
    ∃ next, Credit.applySandboxServicingAfterRepayment previous obligation actorId now
      = .ok next := by
  have hshared : assertSharedServicingObligation obligation true = .ok () := by
    rw [assertSharedServicingObligation, throwIf_eq_ok]
    simp [h.sandboxOnly, h.productionFundsMoved, h.executed, h.rows]
  obtain ⟨hcurrent, hcured, hnever⟩ := allowed_of_performing h.basePerformingStatus_mem
  have hresolved : obligation.status ∉ [ObligationStatus.restructured, .repurchased] := by
    rcases h.paid with hpaid | hpaid
    · rw [hpaid]
      decide
    · rw [hpaid]
      decide
  -- whatever is derived, it fits together, and so does a cure of what is not past due
  have happly : ∀ derived, deriveSandboxServicing obligation now = .ok derived →
      derived.servicingClassification ∈ allowedClassifications derived.status →
      derived.daysPastDue ≤ now →
      (derived.servicingClassification = .current → derived.daysPastDue = 0) →
      (derived.status = .defaulted → sandboxServicingDefaultDpd ≤ derived.daysPastDue) →
      (derived.oldestUnpaidInstallmentId = none → derived.daysPastDue = 0) →
      ∃ next, Credit.applySandboxServicingAfterRepayment previous obligation actorId now
        = .ok next := by
    intro derived hderived hpair hdays hzero hdefaulted holdest
    simp only [Credit.applySandboxServicingAfterRepayment, bind_eq_ok]
    by_cases hcure : wasAdverse previous ∧ derived.daysPastDue = 0
    · have hstate : Credit.assertSandboxServicingState (Credit.serviced obligation { derived with
          status := basePerformingStatus obligation
          servicingClassification := .cured
          servicingReasonCode := "servicing_cured_by_repayment" } now) = .ok () :=
        h.assertSandboxServicingState hnow hcured hdays (fun _ ↦ hcure.2)
          (fun hstatus ↦ absurd hstatus hnever) holdest
      exact ⟨_, (), hactor, derived, hderived,
        (congrArg (applyDerivedServicing obligation · now) (if_pos hcure)).trans
          (applyDerivedServicing_of_ok hstate)⟩
    · have hstate := h.assertSandboxServicingState hnow hpair hdays hzero hdefaulted holdest
      exact ⟨_, (), hactor, derived, hderived,
        (congrArg (applyDerivedServicing obligation · now) (if_neg hcure)).trans
          (applyDerivedServicing_of_ok hstate)⟩
  have hin : ∀ oldest : Option (Installment H),
      deriveSandboxServicing obligation now = .ok (currentServicing obligation oldest) →
      ∃ next, Credit.applySandboxServicingAfterRepayment previous obligation actorId now
        = .ok next := by
    intro oldest hderived
    refine happly _ hderived ?_ (Nat.zero_le _) (fun _ ↦ rfl)
      (fun hstatus ↦ absurd hstatus hnever) (fun _ ↦ rfl)
    show (if _ then _ else _) ∈ _
    rw [if_neg hresolved]
    exact hcurrent
  cases hfound : oldestUnpaid obligation.installments with
  | none =>
    refine hin none ?_
    rw [deriveSandboxServicing, hshared, hfound]
    rfl
  | some oldest =>
    by_cases hlate : now ≤ oldest.dueAt
    · refine hin (some oldest) ?_
      rw [deriveSandboxServicing, hshared, hfound]
      exact if_pos hlate
    · have hderived : deriveSandboxServicing obligation now
          = .ok (pastDueServicing oldest now) := by
        rw [deriveSandboxServicing, hshared, hfound]
        exact if_neg hlate
      obtain ⟨hpair, hclass⟩ := pastDueServicing_pair oldest now
      refine happly _ hderived hpair ((Nat.div_le_self _ _).trans (Nat.sub_le _ _))
        (absurd · hclass) (fun hstatus ↦ ?_) (fun h ↦ by cases h)
      rw [pastDueServicing_status] at hstatus
      show _ ≤ dueDays oldest now
      by_contra hdays
      rw [if_neg hdays] at hstatus
      cases hstatus

/-- The statuses that servicing after a payment leaves. -/
theorem Serviced.status_mem (h : Serviced obligation) {previous next : Obligation H}
    {actorId : String} {now : ℕ}
    (hok : Credit.applySandboxServicingAfterRepayment previous obligation actorId now = .ok next) :
    next.status ∈ [ObligationStatus.fullyRepaid, .partiallyRepaid, .active, .delinquent,
      .defaulted] := by
  have hbase : ∀ status ∈ [ObligationStatus.fullyRepaid, .partiallyRepaid, .active], status ∈
      [ObligationStatus.fullyRepaid, .partiallyRepaid, .active, .delinquent, .defaulted] :=
        by decide
  obtain ⟨derived, _, hderivation, _, ⟨_, rfl⟩ | ⟨_, _, rfl⟩⟩ :=
    applySandboxServicingAfterRepayment_ok hok
  · cases hderivation with
    | current oldest found timely eq =>
      rw [eq]
      exact hbase _ h.basePerformingStatus_mem
    | pastDue oldest found late eq =>
      rw [eq]
      show (pastDueServicing oldest now).status ∈ _
      rw [pastDueServicing_status]
      split_ifs <;> decide
  · exact hbase _ h.basePerformingStatus_mem

/-- When an obligation, and who pays, are such that a payment is accepted. -/
structure Repayable (obligation : Obligation H) (actorId : String) : Prop where
  sandboxOnly : obligation.sandboxOnly = true
  productionFundsMoved : obligation.productionFundsMoved = false
  unpooled : obligation.poolExecutionReceiptId = none
  executed : obligation.executionStatus = .executed
  status : obligation.status ∈ repayableStatuses
  actor : assertNonEmptyString "actorId" actorId = .ok ()
  sequence : isSafeInteger obligation.scheduleSequence ∧ 1 ≤ obligation.scheduleSequence

variable {amountMinor : ℤ} {sourceCode : SandboxRepaymentSource} {actorId : String} {now : ℕ}
  {accrual : SimpleAccrual H}

/-- What is serviced after a payment. -/
theorem Repayable.serviced (h : Repayable obligation actorId) (hreckoned : Reckoned obligation)
    (haccrual : accrueSimpleInterest obligation now = .ok accrual) (hpos : 0 < amountMinor) :
    Serviced (updatedByRepayment accrual.obligation (applyPayment accrual.obligation amountMinor)
      (rowsAfter accrual.obligation.installments
        (applyPayment accrual.obligation amountMinor)) now) := by
  have haccrued := accrueSimpleInterest_ok haccrual
  have hrows := ((hreckoned.accrue haccrued).1.repay hpos now).rows_ne
  obtain ⟨_, _, heq⟩ := haccrued.eq
  refine ⟨?_, ?_, ?_, hrows, ?_, ?_⟩
  · rw [updatedByRepayment, heq]
    exact h.sandboxOnly
  · rw [updatedByRepayment, heq]
    exact h.productionFundsMoved
  · rw [updatedByRepayment, heq]
    exact h.executed
  · simp only [updatedByRepayment]
    split
    · exact .inl rfl
    · exact .inr rfl
  · rw [updatedByRepayment, heq]
    exact h.sequence

/-- What a payment that is posted was checked for. -/
theorem repayable_of_ok {result : SandboxRepayment H}
    (h : postSandboxRepayment hashId obligation amountMinor sourceCode actorId now = .ok result) :
    Repayable obligation actorId ∧ IsMinorUnits amountMinor ∧
      ∃ accrual, Repaid hashId obligation amountMinor actorId now result accrual ∧
        result.repayment = repaymentCore hashId accrual amountMinor
          (applyPayment accrual.obligation amountMinor) sourceCode actorId now := by
  obtain ⟨accrual, hrepaid⟩ := postSandboxRepayment_ok h
  obtain ⟨_, _, heq⟩ := (accrueSimpleInterest_ok hrepaid.accrued).eq
  have hsequence : result.obligation.scheduleSequence = obligation.scheduleSequence := by
    obtain ⟨_, _, _, _, ⟨_, hnext⟩ | ⟨_, _, hnext⟩⟩ :=
      applySandboxServicingAfterRepayment_ok hrepaid.serviced
    · rw [hnext, Credit.serviced, updatedByRepayment, heq]
    · rw [hnext, Credit.serviced, updatedByRepayment, heq]
  obtain ⟨_, _, _, hstate, _⟩ := applySandboxServicingAfterRepayment_ok hrepaid.serviced
  simp only [assertSandboxServicingState, bind_eq_ok, throwIf_eq_ok, not_or, not_not,
    not_lt] at hstate
  obtain ⟨_, _, _, ⟨_, hsafe, hone⟩, _⟩ := hstate
  simp only [postSandboxRepayment, assertSharedObligation, bind_eq_ok, throwIf_eq_ok, pure_eq_ok,
    not_or, not_not] at h
  obtain ⟨_, ⟨honly, hmoved⟩, _, hpool, _, ⟨hexecuted, hstatus⟩, _, hamount, _, hactor,
    accrual', haccrual', _, _, _, _, _, _, _, _, _, _, _, _, _, _, hresult⟩ := h
  obtain ⟨hamount, rfl⟩ := assertPositiveMinorUnits_eq_ok.1 hamount
  rw [hrepaid.accrued] at haccrual'
  rw [← Except.ok.inj haccrual'] at hresult
  refine ⟨⟨honly, hmoved, by simpa using hpool, hexecuted, hstatus, hactor, ?_⟩, hamount, accrual,
    hrepaid, ?_⟩
  · rw [← hsequence]
    exact ⟨hsafe, hone⟩
  · rw [← hresult]

/-- **A payment within what is due is posted.** -/
theorem Repayable.post (h : Repayable obligation actorId) (hreckoned : Reckoned obligation)
    (haccrual : accrueSimpleInterest obligation now = .ok accrual)
    {posted : Option (LedgerTransaction H)}
    (hinterest : interestTransaction hashId accrual = .ok posted)
    (hamount : IsMinorUnits amountMinor) (hle : amountMinor ≤ totalOutstanding accrual.obligation)
    (hnow : isSafeInteger now) :
    ∃ result, postSandboxRepayment hashId obligation amountMinor sourceCode actorId now
      = .ok result := by
  have hcurrent := (hreckoned.accrue (accrueSimpleInterest_ok haccrual)).1
  have happlied := applyPayment_total hcurrent hle
  obtain ⟨hfee, hpayInterest, hprincipal⟩ := applyPayment_bounds hcurrent hamount.1
  obtain ⟨rows₁, rows₂, rows₃, hok₁, hok₂, hok₃, hrows, _⟩ :=
    allocations_complete hcurrent.within (hcurrent.applied_le hamount.1)
  obtain ⟨next, hnext⟩ := (h.serviced hreckoned haccrual
    hamount.1).applySandboxServicingAfterRepayment
    obligation hnow h.actor
  rw [← hrows] at hnext
  have hnonneg : ∀ amount ∈ [(LedgerAccountType.feeReceivable,
        (applyPayment accrual.obligation amountMinor).fee),
      (.interestReceivable, (applyPayment accrual.obligation amountMinor).interest),
      (.principalReceivable, (applyPayment accrual.obligation amountMinor).principal)],
      0 ≤ amount.2 := by
    simpa using ⟨hfee.1, hpayInterest.1, hprincipal.1⟩
  obtain ⟨hcredit, hdebit⟩ := sideTotal_paymentEntries hashId accrual.obligation
    (applyPayment accrual.obligation amountMinor) hnonneg
  have htransaction : ∀ idempotencyKey reference, ∃ transaction, createBalancedTransaction hashId
      idempotencyKey "sandbox_repayment" accrual.obligation reference
      (⟨sandboxAccountId hashId accrual.obligation .repaymentClearing, .debit,
          (applyPayment accrual.obligation amountMinor).total⟩ ::
        receivableCredits hashId accrual.obligation
          [(.feeReceivable, (applyPayment accrual.obligation amountMinor).fee),
            (.interestReceivable, (applyPayment accrual.obligation amountMinor).interest),
            (.principalReceivable, (applyPayment accrual.obligation amountMinor).principal)])
        = .ok transaction := by
    intro idempotencyKey reference
    refine createBalancedTransaction_isOk ?_ ?_ ?_
    · rintro entry hentry
      rcases List.mem_cons.1 hentry with rfl | hentry
      · show IsMinorUnits (applyPayment accrual.obligation amountMinor).total
        rw [happlied]
        exact hamount
      · obtain ⟨amount, hmem, rfl⟩ := List.mem_map.1 hentry
        obtain ⟨hmem, hpos⟩ := List.mem_filter.1 hmem
        refine ⟨of_decide_eq_true hpos, lt_of_le_of_lt ?_ hamount.2⟩
        rw [← happlied, Applied.total]
        rcases List.mem_cons.1 hmem with rfl | hmem
        · dsimp only
          omega
        · rcases List.mem_cons.1 hmem with rfl | hmem
          · dsimp only
            omega
          · rw [List.mem_singleton.1 hmem]
            dsimp only
            omega
    · rw [hdebit, happlied]
      exact hamount.1.ne'
    · rw [hdebit, hcredit]
  simp only [postSandboxRepayment, bind_eq_ok]
  obtain ⟨transaction, htransaction⟩ := htransaction _ _
  refine ⟨_, (), ?_, (), throwIf_eq_ok.2 ?_, (), throwIf_eq_ok.2 ?_, amountMinor,
    assertPositiveMinorUnits_eq_ok.2 ⟨hamount, rfl⟩, (), h.actor, accrual, haccrual, (),
    throwIf_eq_ok.2 ?_, rows₁, hok₁, rows₂, hok₂, rows₃, hok₃, transaction, htransaction, posted,
    hinterest, next, hnext, rfl⟩
  · rw [assertSharedObligation, throwIf_eq_ok]
    simp [h.sandboxOnly, h.productionFundsMoved]
  · simp [h.unpooled]
  · simp [h.executed, h.status]
  · rw [happlied]
    exact hamount.1.ne'

/-- **An obligation that has just accrued accrues nothing.** -/
theorem AccruesFrom.again {start : ℕ} (h : AccruesFrom obligation start) (hstart : start ≤ now)
    (hday : (now - start) / dayMs = 0) (hupdated : obligation.updatedAt = now) :
    Credit.accrueSimpleInterest obligation now = .ok ⟨obligation, 0, 0⟩ := by
  have hnumerator : accrualNumerator obligation 0 = obligation.interestAccrualRemainder := by
    simp [accrualNumerator]
  have hdiv : obligation.interestAccrualRemainder.tdiv actual365Denominator = 0 :=
    Int.tdiv_eq_zero_of_lt h.remainder_nonneg h.remainder_lt
  have hmod : obligation.interestAccrualRemainder.tmod actual365Denominator
      = obligation.interestAccrualRemainder := Int.tmod_eq_of_lt h.remainder_nonneg h.remainder_lt
  have hsame : accruedSince obligation start now = ⟨obligation, 0, 0⟩ := by
    rw [accruedSince, hday, hnumerator, hdiv, hmod, credited, if_neg (lt_irrefl _), add_zero,
      add_zero, Nat.zero_mul, add_zero, ← h.lastAccruedAt, ← hupdated]
  rw [(h.eq_ok_iff hstart), hsame]
  exact ⟨fun hpos ↦ absurd hpos (lt_irrefl 0), rfl⟩

/-- What is left of a day is less than a day. -/
theorem lastAccruedAt_again {start : ℕ} (hstart : start ≤ now) :
    start + (now - start) / dayMs * dayMs ≤ now ∧
      (now - (start + (now - start) / dayMs * dayMs)) / dayMs = 0 := by
  have hle := Nat.div_mul_le_self (now - start) dayMs
  have hlt := Nat.lt_div_mul_add (a := now - start) (b := dayMs) (by decide)
  exact ⟨by omega, Nat.div_eq_of_lt (by omega)⟩

/-- What a first payment leaves to a second one at the same instant. -/
theorem Repaid.then_accrue {result : SandboxRepayment H}
    (h : Repaid hashId obligation amountMinor actorId now result accrual)
    (hreckoned : Reckoned obligation) :
    accrueSimpleInterest result.obligation now = .ok ⟨result.obligation, 0, 0⟩ := by
  obtain ⟨start, hstart, haccrues⟩ := accrues_of_ok h.accrued
  obtain ⟨_, rfl⟩ := (haccrues.eq_ok_iff hstart).1 h.accrued
  obtain ⟨hle, hday⟩ := lastAccruedAt_again hstart
  have hafter := haccrues.after (hreckoned.owed_nonneg .principal) now
  obtain ⟨_, _, _, _, _, hnext⟩ :=
    h.obligation_eq (hreckoned.accrue (accrueSimpleInterest_ok h.accrued)).1
  rw [hnext]
  exact AccruesFrom.again ⟨hafter.sandboxOnly, hafter.productionFundsMoved, hafter.executed,
    hafter.lastAccruedAt, hafter.remainder_nonneg, hafter.remainder_lt⟩ hle hday rfl

/-- An obligation that something is still due of can be repaid again. -/
theorem Repayable.after (h : Repayable obligation actorId) (hreckoned : Reckoned obligation)
    {result : SandboxRepayment H}
    (hrepaid : Repaid hashId obligation amountMinor actorId now result accrual)
    (hlt : amountMinor < totalOutstanding accrual.obligation) :
    Repayable result.obligation actorId := by
  have hcurrent := (hreckoned.accrue (accrueSimpleInterest_ok hrepaid.accrued)).1
  have hserviced := h.serviced hreckoned hrepaid.accrued hrepaid.positive
  have hstatus := hserviced.status_mem hrepaid.serviced
  obtain ⟨_, _, derived, _, hsettled, hnext⟩ := hrepaid.obligation_eq hcurrent
  obtain ⟨_, _, heq⟩ := (accrueSimpleInterest_ok hrepaid.accrued).eq
  have hdue : result.obligation.status ≠ .fullyRepaid := by
    rw [hnext]
    refine fun hpaid ↦ absurd (hsettled.1 hpaid) ?_
    have happlied := applyPayment_total hcurrent hlt.le
    simp only [Applied.total] at happlied
    simp only [totalOutstanding] at hlt
    simp only [totalOutstanding, updatedByRepayment]
    omega
  have hrepayable : result.obligation.status ∈ repayableStatuses := by
    generalize result.obligation.status = status at *
    revert hstatus hdue
    cases status <;> decide
  rw [hnext] at hrepayable ⊢
  refine ⟨hserviced.sandboxOnly, hserviced.productionFundsMoved, ?_, hserviced.executed,
    hrepayable, h.actor, hserviced.sequence⟩
  rw [Credit.serviced, updatedByRepayment, heq]
  exact h.unpooled

/-- Two payments come to what one of them comes to: the same balances, the same rows, and the same
of each component. -/
structure Agrees (once first second : SandboxRepayment H) : Prop where
  principal : second.obligation.outstandingPrincipalMinor
    = once.obligation.outstandingPrincipalMinor
  interest : second.obligation.outstandingInterestMinor = once.obligation.outstandingInterestMinor
  fees : second.obligation.outstandingFeesMinor = once.obligation.outstandingFeesMinor
  repaid : second.obligation.totalRepaidMinor = once.obligation.totalRepaidMinor
  rows : second.obligation.installments = once.obligation.installments
  appliedFee : first.repayment.appliedFeeMinor + second.repayment.appliedFeeMinor
    = once.repayment.appliedFeeMinor
  appliedInterest : first.repayment.appliedInterestMinor + second.repayment.appliedInterestMinor
    = once.repayment.appliedInterestMinor
  appliedPrincipal : first.repayment.appliedPrincipalMinor + second.repayment.appliedPrincipalMinor
    = once.repayment.appliedPrincipalMinor

/-- The balances and the rows that a payment leaves. -/
theorem Repaid.books {result : SandboxRepayment H}
    (h : Repaid hashId obligation amountMinor actorId now result accrual) :
    let applied := applyPayment accrual.obligation amountMinor
    result.obligation.outstandingPrincipalMinor
        = accrual.obligation.outstandingPrincipalMinor - applied.principal ∧
      result.obligation.outstandingInterestMinor
        = accrual.obligation.outstandingInterestMinor - applied.interest ∧
      result.obligation.outstandingFeesMinor
        = accrual.obligation.outstandingFeesMinor - applied.fee ∧
      result.obligation.totalRepaidMinor
        = accrual.obligation.totalRepaidMinor + applied.total ∧
      result.obligation.installments = rowsAfter accrual.obligation.installments applied := by
  obtain ⟨_, _, _, _, ⟨_, hnext⟩ | ⟨_, _, hnext⟩⟩ :=
    applySandboxServicingAfterRepayment_ok h.serviced
  · rw [hnext]
    exact ⟨rfl, rfl, rfl, rfl, rfl⟩
  · rw [hnext]
    exact ⟨rfl, rfl, rfl, rfl, rfl⟩

/-- **Payments that are posted add up.** -/
theorem agrees_of_posted (hreckoned : Reckoned obligation) {a b : ℤ}
    {once first second : SandboxRepayment H}
    (honce : postSandboxRepayment hashId obligation (a + b) sourceCode actorId now = .ok once)
    (hfirst : postSandboxRepayment hashId obligation a sourceCode actorId now = .ok first)
    (hsecond : postSandboxRepayment hashId first.obligation b sourceCode actorId now
      = .ok second) : Agrees once first second := by
  obtain ⟨_, _, accrual, hrepaid, hcore⟩ := repayable_of_ok honce
  obtain ⟨_, _, accrual₁, hrepaid₁, hcore₁⟩ := repayable_of_ok hfirst
  obtain ⟨_, _, accrual₂, hrepaid₂, hcore₂⟩ := repayable_of_ok hsecond
  obtain rfl := Except.ok.inj (hrepaid.accrued.symm.trans hrepaid₁.accrued)
  obtain rfl := Except.ok.inj ((hrepaid₁.then_accrue hreckoned).symm.trans hrepaid₂.accrued)
  have hcurrent := (hreckoned.accrue (accrueSimpleInterest_ok hrepaid.accrued)).1
  obtain ⟨hnonneg₁, hnonneg₂, hsum⟩ := applyPayment_add hcurrent hrepaid₁.positive
    hrepaid₂.positive (rowsAfter accrual.obligation.installments
      (applyPayment accrual.obligation a)) now
  -- what the second payment finds is what the first one leaves
  have hsame : applyPayment (updatedByRepayment accrual.obligation
      (applyPayment accrual.obligation a)
      (rowsAfter accrual.obligation.installments (applyPayment accrual.obligation a)) now) b
        = applyPayment first.obligation b := by
    obtain ⟨_, _, _, _, _, hnext₁⟩ := hrepaid₁.obligation_eq hcurrent
    rw [hnext₁]
    rfl
  rw [hsame] at hnonneg₂ hsum
  have hfee := congrArg Applied.fee hsum
  have hinterest := congrArg Applied.interest hsum
  have hprincipal := congrArg Applied.principal hsum
  simp only [Applied.add] at hfee hinterest hprincipal
  obtain ⟨hprincipal₀, hinterest₀, hfee₀, hrepaid₀, hrows₀⟩ := hrepaid.books
  obtain ⟨hprincipal₁, hinterest₁, hfee₁, htotal₁, hrows₁⟩ := hrepaid₁.books
  obtain ⟨hprincipal₂, hinterest₂, hfee₂, htotal₂, hrows₂⟩ := hrepaid₂.books
  dsimp only at hprincipal₂ hinterest₂ hfee₂ htotal₂
  refine ⟨by omega, by omega, by omega, ?_, ?_, ?_, ?_, ?_⟩
  · simp only [Applied.total] at hrepaid₀ htotal₁ htotal₂
    omega
  · have hrows := rowsAfter_add hnonneg₁ hnonneg₂ hcurrent.within.open
    rw [hsum] at hrows
    rw [hrows₂, hrows₁, hrows₀]
    exact hrows
  · rw [hcore, hcore₁, hcore₂]
    exact hfee
  · rw [hcore, hcore₁, hcore₂]
    exact hinterest
  · rw [hcore, hcore₁, hcore₂]
    exact hprincipal

end Posting

/-- **Repayment is additive.**  For an obligation on the rail, at an instant that a date can hold
and for amounts that are due together: if the sum is posted at once, so is the one amount and then
the other, and if these are posted, so is their sum where it is an amount; and either way the
balances and the rows are the same, and so is what is allocated to each component. -/
theorem repayment_additive {H : Type} [DecidableEq H] {hashId : SandboxPreimage H → H}
    {obligation : Obligation H} (h : OnRail hashId obligation) {now : ℕ} (hnow : isSafeInteger now)
    {a b : ℤ} (ha : 0 < a) (hb : 0 < b) {accrual : SimpleAccrual H}
    (haccrual : accrueSimpleInterest obligation now = .ok accrual)
    (hdue : a + b ≤ totalOutstanding accrual.obligation) (sourceCode : SandboxRepaymentSource)
    (actorId : String) :
    (∀ once, postSandboxRepayment hashId obligation (a + b) sourceCode actorId now = .ok once →
      ∃ first second, postSandboxRepayment hashId obligation a sourceCode actorId now = .ok first ∧
        postSandboxRepayment hashId first.obligation b sourceCode actorId now = .ok second ∧
        Agrees once first second) ∧
    (∀ first second, postSandboxRepayment hashId obligation a sourceCode actorId now = .ok first →
      postSandboxRepayment hashId first.obligation b sourceCode actorId now = .ok second →
      IsMinorUnits (a + b) →
      ∃ once, postSandboxRepayment hashId obligation (a + b) sourceCode actorId now = .ok once ∧
        Agrees once first second) := by
  have hreckoned := h.reckoned
  constructor
  · intro once honce
    obtain ⟨hrepayable, hamount, accrual', hrepaid, _⟩ := repayable_of_ok honce
    obtain rfl := Except.ok.inj (haccrual.symm.trans hrepaid.accrued)
    have hsum := hamount.2
    obtain ⟨first, hfirst⟩ : ∃ first,
      postSandboxRepayment hashId obligation a sourceCode actorId now
        = .ok first :=
      hrepayable.post hreckoned haccrual hrepaid.interest ⟨ha, by omega⟩ (by omega) hnow
    obtain ⟨_, _, accrual₁, hrepaid₁, _⟩ := repayable_of_ok hfirst
    obtain rfl := Except.ok.inj (haccrual.symm.trans hrepaid₁.accrued)
    have hcurrent := (hreckoned.accrue (accrueSimpleInterest_ok haccrual)).1
    have hreckoned₁ : Reckoned first.obligation := by
      obtain ⟨hreckoned₁, _, derived, _, _, hnext⟩ := hrepaid₁.obligation_eq hcurrent
      rw [hnext]
      exact hreckoned₁.serviced derived now
    have hleft : b ≤ totalOutstanding first.obligation := by
      have happlied := applyPayment_total hcurrent (show a ≤ _ by omega)
      obtain ⟨hprincipal, hinterest, hfee, _⟩ := hrepaid₁.books
      simp only [Applied.total] at happlied
      simp only [totalOutstanding] at hdue ⊢
      omega
    obtain ⟨second, hsecond⟩ : ∃ second, postSandboxRepayment hashId first.obligation b sourceCode
        actorId now = .ok second :=
      (hrepayable.after hreckoned hrepaid₁ (by omega)).post hreckoned₁
        (hrepaid₁.then_accrue hreckoned) (interestTransaction_none first.obligation 0)
        ⟨hb, by omega⟩ hleft hnow
    exact ⟨first, second, hfirst, hsecond, agrees_of_posted hreckoned honce hfirst hsecond⟩
  · intro first second hfirst hsecond hamount
    obtain ⟨hrepayable, _, accrual₁, hrepaid₁, _⟩ := repayable_of_ok hfirst
    obtain rfl := Except.ok.inj (haccrual.symm.trans hrepaid₁.accrued)
    obtain ⟨once, honce⟩ : ∃ once, postSandboxRepayment hashId obligation (a + b) sourceCode actorId
        now = .ok once :=
      hrepayable.post hreckoned haccrual hrepaid₁.interest hamount hdue hnow
    exact ⟨once, honce, agrees_of_posted hreckoned honce hfirst hsecond⟩

/-- Four and a half days into a loan of 1000, 3 and then 400 are paid: an interest of 4 is due. -/
theorem repayment_additive_loan :
    ∃ first second, postSandboxRepayment SandboxSample.hashId SandboxSample.running 3 .syntheticBank
        "payer" (108 * 3600000) = .ok first ∧
      postSandboxRepayment SandboxSample.hashId first.obligation 400 .syntheticBank
        "payer" (108 * 3600000) = .ok second ∧
      second.obligation.totalRepaidMinor = 403 := by
  have haccrued : (accrueSimpleInterest SandboxSample.running (108 * 3600000)).isOk = true := by
    decide +kernel
  obtain ⟨accrual, haccrual⟩ := isOk_iff.1 haccrued
  have hdue : (accrueSimpleInterest SandboxSample.running (108 * 3600000)).map
      (fun accrual ↦ totalOutstanding accrual.obligation) = .ok 1004 := by decide +kernel
  rw [haccrual] at hdue
  have hdue : totalOutstanding accrual.obligation = 1004 := Except.ok.inj hdue
  have hposted : (postSandboxRepayment SandboxSample.hashId SandboxSample.running (3 + 400)
      .syntheticBank "payer" (108 * 3600000)).map (·.obligation.totalRepaidMinor) = .ok 403 := by
    decide +kernel
  have hok : (postSandboxRepayment SandboxSample.hashId SandboxSample.running (3 + 400)
      .syntheticBank "payer" (108 * 3600000)).isOk = true := by decide +kernel
  obtain ⟨once, honce⟩ := isOk_iff.1 hok
  rw [honce] at hposted
  obtain ⟨first, second, hfirst, hsecond, hagrees⟩ := (repayment_additive
    SandboxSample.running_onRail (by decide) (by decide) (by decide) haccrual
    (by rw [hdue]; decide) .syntheticBank "payer").1 once honce
  exact ⟨first, second, hfirst, hsecond, hagrees.repaid.trans (Except.ok.inj hposted)⟩

end Credit
end IpoOne
