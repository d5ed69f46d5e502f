import IpoOne.Credit.SandboxSystem

/-!
# What is owed on the sandbox rail

An obligation on this rail says three times what is owed, as one on the pool's rail does: in its
totals, in the rows of its schedule, and in the receivables of its ledger.  Here the three stay in
step whatever is done to the obligation, up to a write-off, which clears the receivables and
nothing else.

`Reckoned` is about the totals and the rows, and every function of the rail keeps it.  `Kept` adds
the ledger and the status; `sandbox_conserved_along` reads the result off it for whole runs.
-/

set_option autoImplicit false

namespace IpoOne
namespace Credit

open Fallible

section Totals

variable {H : Type}

/-- What an obligation says is owed of a component. -/
def Obligation.owed (obligation : Obligation H) : Component → ℤ
  | .fee => obligation.outstandingFeesMinor
  | .interest => obligation.outstandingInterestMinor
  | .principal => obligation.outstandingPrincipalMinor

/-- The totals of an obligation and the rows of its schedule agree, and everything that was lent or
has accrued is still owed or has been repaid. -/
structure Reckoned (obligation : Obligation H) : Prop where
  rows_ne : obligation.installments ≠ []
  within : WithinSchedule obligation.installments
  scheduled : ∀ c, outstanding c obligation.installments = obligation.owed c
  fees : obligation.outstandingFeesMinor = 0
  total : obligation.originalPrincipalMinor + obligation.accruedInterestMinor
    = obligation.outstandingPrincipalMinor + obligation.outstandingInterestMinor
      + obligation.totalRepaidMinor

variable {obligation : Obligation H}

theorem Reckoned.owed_nonneg (h : Reckoned obligation) (c : Component) : 0 ≤ obligation.owed c :=
  (h.within.outstanding_nonneg c).trans_eq (h.scheduled c)

/-! ## Rows that are not paid -/

theorem installmentOutstandingMinor_eq (row : Installment H) :
    installmentOutstandingMinor row
      = Component.due .principal row + Component.due .interest row + Component.due .fee row := by
  simp only [installmentOutstandingMinor, Component.due, Component.scheduled, Component.paid]
  omega

theorem earlier_eq_or (row other : Installment H) :
    earlier row other = row ∨ earlier row other = other := by
  rw [earlier]
  split
  · exact .inr rfl
  · exact .inl rfl

theorem foldl_earlier_mem (rest : List (Installment H)) (row : Installment H) :
    rest.foldl earlier row ∈ row :: rest := by
  induction rest generalizing row with
  | nil => exact List.mem_singleton.2 rfl
  | cons other rest ih =>
    rcases List.mem_cons.1 (ih (earlier row other)) with hhead | htail
    · rw [List.foldl_cons, hhead]
      rcases earlier_eq_or row other with hsame | hsame
      · rw [hsame]
        exact List.mem_cons_self
      · rw [hsame]
        exact List.mem_cons_of_mem _ List.mem_cons_self
    · exact List.mem_cons_of_mem _ (List.mem_cons_of_mem _ htail)

theorem oldestUnpaid_eq_some {rows : List (Installment H)} {row : Installment H}
    (h : oldestUnpaid rows = some row) : row ∈ rows ∧ 0 < installmentOutstandingMinor row := by
  rw [oldestUnpaid] at h
  split at h
  · cases h
  · rename_i first rest hunpaid
    have hmem : row ∈ rows.filter fun row ↦ 0 < installmentOutstandingMinor row := by
      rw [hunpaid, ← Option.some.inj h]
      exact foldl_earlier_mem rest first
    simpa using hmem

theorem oldestUnpaid_eq_none {rows : List (Installment H)} (h : oldestUnpaid rows = none)
    {row : Installment H} (hmem : row ∈ rows) : installmentOutstandingMinor row ≤ 0 := by
  rw [oldestUnpaid] at h
  split at h
  · rename_i hunpaid
    by_contra hpos
    have hmem' : row ∈ rows.filter fun row ↦ 0 < installmentOutstandingMinor row :=
      List.mem_filter.2 ⟨hmem, by simpa using hpos⟩
    rw [hunpaid] at hmem'
    exact absurd hmem' List.not_mem_nil
  · cases h

/-- Every row is paid in full. -/
def PaidInFull (rows : List (Installment H)) : Prop :=
  ∀ row ∈ rows, ∀ c : Component, c.paid row = c.scheduled row

theorem Reckoned.total_eq_zero_iff (h : Reckoned obligation) :
    totalOutstanding obligation = 0 ↔ PaidInFull obligation.installments := by
  have hprincipal := h.owed_nonneg .principal
  have hinterest := h.owed_nonneg .interest
  have hfee := h.owed_nonneg .fee
  simp only [Obligation.owed] at hprincipal hinterest hfee
  have hpaid : PaidInFull obligation.installments ↔ ∀ c : Component, obligation.owed c = 0 := by
    constructor
    · intro hall c
      rw [← h.scheduled, h.within.outstanding_eq_zero_iff]
      exact fun row hrow ↦ hall row hrow c
    · intro hall row hrow c
      have h0 := hall c
      rw [← h.scheduled, h.within.outstanding_eq_zero_iff] at h0
      exact h0 row hrow
  rw [hpaid, totalOutstanding]
  constructor
  · intro h0 c
    cases c <;> simp only [Obligation.owed] <;> omega
  · intro hall
    have h₁ := hall .principal
    have h₂ := hall .interest
    have h₃ := hall .fee
    simp only [Obligation.owed] at h₁ h₂ h₃
    omega

theorem Reckoned.oldestUnpaid_eq_none_iff (h : Reckoned obligation) :
    oldestUnpaid obligation.installments = none ↔ totalOutstanding obligation = 0 := by
  rw [h.total_eq_zero_iff]
  constructor
  · intro hnone row hrow c
    have hle := oldestUnpaid_eq_none hnone hrow
    rw [installmentOutstandingMinor_eq] at hle
    have hprincipal := (h.within row hrow .principal).2
    have hinterest := (h.within row hrow .interest).2
    have hfee := (h.within row hrow .fee).2
    simp only [Component.due] at hle
    cases c <;> omega
  · intro hall
    cases hfound : oldestUnpaid obligation.installments with
    | none => rfl
    | some row =>
      obtain ⟨hrow, hpos⟩ := oldestUnpaid_eq_some hfound
      rw [installmentOutstandingMinor_eq] at hpos
      simp only [Component.due, hall row hrow, sub_self] at hpos
      exact absurd hpos (by decide)

/-! ## The functions of the rail -/

theorem createAcceptedOfferObligation_reckoned {hashId : SandboxPreimage H → H}
    {obligationId : String} {offer : CreditOffer} {now : ℕ}
    (h : createAcceptedOfferObligation hashId obligationId offer now = .ok obligation) :
    Reckoned obligation ∧ 0 < obligation.originalPrincipalMinor ∧
      obligation.outstandingPrincipalMinor = obligation.originalPrincipalMinor ∧
      obligation.outstandingInterestMinor = 0 ∧ obligation.outstandingFeesMinor = 0 ∧
      obligation.executionStatus = .pending ∧ obligation.status = .created := by
  simp only [createAcceptedOfferObligation, createObligationSchedule, bind_eq_ok, throwIf_eq_ok,
    pure_eq_ok] at h
  obtain ⟨rows, ⟨_, _, principal, hprincipal, _, hcount, _, _, _, _, _, _, _, hsum, rfl⟩, rfl⟩ := h
  obtain ⟨rfl, hpos⟩ := assertPositiveMinorUnits_ok hprincipal
  have hcount' : 0 < offer.installmentCount := by omega
  -- the shares of the principal are not negative, and nothing else is in a row
  have hrows : ∀ row ∈ (List.range offer.installmentCount).map (fun index ↦
      scheduledRow hashId obligationId (index + 1) (dueAtIndex offer index)
        (offer.approvedPrincipalMinor / offer.installmentCount
          + if index + 1 = offer.installmentCount
            then offer.approvedPrincipalMinor % offer.installmentCount else 0) 0 0 1),
      ∃ number dueAt principal, 0 ≤ principal ∧
        row = scheduledRow hashId obligationId number dueAt principal 0 0 1 := by
    intro row hrow
    obtain ⟨index, _, rfl⟩ := List.mem_map.1 hrow
    have hshare := Int.ediv_nonneg hpos.le (Int.natCast_nonneg offer.installmentCount)
    have hrest := Int.emod_nonneg offer.approvedPrincipalMinor
      (Int.natCast_ne_zero.2 hcount'.ne')
    exact ⟨_, _, _, by split <;> omega, rfl⟩
  have hother : ∀ c : Component, c ≠ .principal → outstanding c _ = 0 := fun c hc ↦
    List.sum_eq_zero fun x hx ↦ by
      obtain ⟨row, hrow, rfl⟩ := List.mem_map.1 hx
      obtain ⟨_, _, _, _, rfl⟩ := hrows row hrow
      cases c
      · rfl
      · rfl
      · exact absurd rfl hc
  refine ⟨⟨?_, ?_, ?_, rfl, ?_⟩, hpos, rfl, rfl, rfl, rfl, rfl⟩
  · exact fun hnil ↦ hcount'.ne' (List.range_eq_nil.1 (List.map_eq_nil_iff.1 hnil))
  · intro row hrow c
    obtain ⟨_, _, _, hnonneg, rfl⟩ := hrows row hrow
    cases c
    · exact ⟨le_rfl, le_rfl⟩
    · exact ⟨le_rfl, le_rfl⟩
    · exact ⟨le_rfl, hnonneg⟩
  · intro c
    cases c
    · exact hother .fee (by decide)
    · exact hother .interest (by decide)
    · show outstanding .principal _ = offer.approvedPrincipalMinor
      refine Eq.trans ?_ (not_not.1 hsum)
      refine congrArg List.sum (List.map_congr_left fun row hrow ↦ ?_)
      obtain ⟨_, _, _, _, rfl⟩ := hrows row hrow
      exact sub_zero _
  · show offer.approvedPrincipalMinor + 0 = offer.approvedPrincipalMinor + 0 + 0
    omega

theorem Reckoned.accrue (h : Reckoned obligation) {now : ℕ} {accrual : SimpleAccrual H}
    (haccrued : Accrued obligation now accrual) :
    Reckoned accrual.obligation ∧ 0 ≤ accrual.accruedInterestMinor := by
  have hnonneg : 0 ≤ accrual.accruedInterestMinor := haccrued.nonneg (h.owed_nonneg .principal)
  obtain ⟨lastAccruedAt, remainder, heq⟩ := haccrued.eq
  refine ⟨?_, hnonneg⟩
  rw [heq]
  by_cases hlt : 0 < accrual.accruedInterestMinor
  · simp only [if_pos hlt]
    refine ⟨addInterest_ne_nil h.rows_ne _, withinSchedule_addInterest h.within hnonneg, ?_,
      h.fees, ?_⟩
    · intro c
      have hc := h.scheduled c
      cases c
      · rw [outstanding_addInterest_of_ne (by decide)]
        exact hc
      · rw [outstanding_addInterest h.rows_ne, hc]
        rfl
      · rw [outstanding_addInterest_of_ne (by decide)]
        exact hc
    · have htotal := h.total
      dsimp only
      omega
  · have h0 : accrual.accruedInterestMinor = 0 := by omega
    simp only [h0, lt_irrefl, if_false, add_zero]
    exact ⟨h.rows_ne, h.within, h.scheduled, h.fees, h.total⟩

/-- A payment covers no more of a component than is owed of it. -/
theorem applyPayment_bounds (h : Reckoned obligation) {requested : ℤ} (hpos : 0 < requested) :
    (0 ≤ (applyPayment obligation requested).fee ∧
        (applyPayment obligation requested).fee ≤ obligation.outstandingFeesMinor) ∧
      (0 ≤ (applyPayment obligation requested).interest ∧
        (applyPayment obligation requested).interest ≤ obligation.outstandingInterestMinor) ∧
      0 ≤ (applyPayment obligation requested).principal ∧
        (applyPayment obligation requested).principal ≤ obligation.outstandingPrincipalMinor := by
  have hprincipal := h.owed_nonneg .principal
  have hinterest := h.owed_nonneg .interest
  have hfee := h.owed_nonneg .fee
  simp only [Obligation.owed] at hprincipal hinterest hfee
  simp only [applyPayment]
  omega

/-- The amounts of a payment, by component. -/
def Applied.of (applied : Applied) : Component → ℤ
  | .fee => applied.fee
  | .interest => applied.interest
  | .principal => applied.principal

/-- A payment of one component within what is owed of it is spread over the rows. -/
theorem allocateAcrossSchedule_complete {rows : List (Installment H)} (hrows : WithinSchedule rows)
    {c : Component} {amount : ℤ} (hpos : 0 ≤ amount) (hle : amount ≤ outstanding c rows) :
    allocateAcrossSchedule rows c amount = .ok (allocateRows c rows amount).1 ∧
      WithinSchedule (allocateRows c rows amount).1 ∧
      ∀ d, outstanding d (allocateRows c rows amount).1
        = outstanding d rows - if d = c then amount else 0 := by
  obtain ⟨hleft, hwithin⟩ := allocateRows_complete hrows hpos hle
  refine ⟨?_, hwithin, fun d ↦ ?_⟩
  · simp only [allocateAcrossSchedule, hleft]
    rfl
  · by_cases hd : d = c
    · subst hd
      have hspread := outstanding_allocateRows (c := d) rows amount
      rw [if_pos rfl]
      omega
    · rw [if_neg hd, sub_zero, outstanding_allocateRows_of_ne hd]

/-- **A payment within what is owed is spread over the rows completely.** -/
theorem allocations_complete {rows : List (Installment H)} (hrows : WithinSchedule rows)
    {applied : Applied} (hle : ∀ c, 0 ≤ applied.of c ∧ applied.of c ≤ outstanding c rows) :
    ∃ rows₁ rows₂ rows₃, allocateAcrossSchedule rows .fee applied.fee = .ok rows₁ ∧
      allocateAcrossSchedule rows₁ .interest applied.interest = .ok rows₂ ∧
      allocateAcrossSchedule rows₂ .principal applied.principal = .ok rows₃ ∧
      updateStatuses rows₃ = rowsAfter rows applied ∧ WithinSchedule rows₃ ∧
      ∀ c, outstanding c rows₃ = outstanding c rows - applied.of c := by
  obtain ⟨hok₁, hwithin₁, hleft₁⟩ :=
    allocateAcrossSchedule_complete hrows (show 0 ≤ applied.fee from (hle .fee).1) (hle .fee).2
  obtain ⟨hok₂, hwithin₂, hleft₂⟩ := allocateAcrossSchedule_complete hwithin₁
    (c := .interest) (show 0 ≤ applied.interest from (hle .interest).1) (by
      rw [hleft₁, if_neg (by decide), sub_zero]
      exact (hle .interest).2)
  obtain ⟨hok₃, hwithin₃, hleft₃⟩ := allocateAcrossSchedule_complete hwithin₂
    (c := .principal) (show 0 ≤ applied.principal from (hle .principal).1) (by
      rw [hleft₂, hleft₁, if_neg (by decide), if_neg (by decide), sub_zero, sub_zero]
      exact (hle .principal).2)
  refine ⟨_, _, _, hok₁, hok₂, hok₃, rfl, hwithin₃, fun c ↦ ?_⟩
  rw [hleft₃, hleft₂, hleft₁]
  cases c <;> simp [Applied.of]

theorem Reckoned.applied_le (h : Reckoned obligation) {requested : ℤ} (hpos : 0 < requested) :
    ∀ c, 0 ≤ (applyPayment obligation requested).of c ∧
      (applyPayment obligation requested).of c ≤ outstanding c obligation.installments := by
  obtain ⟨hfee, hinterest, hprincipal⟩ := applyPayment_bounds h hpos
  intro c
  rw [h.scheduled]
  cases c
  · exact hfee
  · exact hinterest
  · exact hprincipal

theorem Reckoned.repay (h : Reckoned obligation) {requested : ℤ} (hpos : 0 < requested)
    (now : ℕ) :
    Reckoned (updatedByRepayment obligation (applyPayment obligation requested)
      (rowsAfter obligation.installments (applyPayment obligation requested)) now) := by
  obtain ⟨rows₁, rows₂, rows₃, _, _, _, hrows, hwithin, hleft⟩ :=
    allocations_complete h.within (h.applied_le hpos)
  obtain ⟨hfee, _, _⟩ := applyPayment_bounds h hpos
  have hfees := h.fees
  have htotal := h.total
  refine ⟨?_, ?_, ?_, ?_, ?_⟩
  · exact fun hnil ↦ allocateRows_ne_nil (allocateRows_ne_nil (allocateRows_ne_nil h.rows_ne _) _) _
      (List.map_eq_nil_iff.1 hnil)
  · show WithinSchedule (rowsAfter _ _)
    rw [← hrows]
    exact withinSchedule_updateStatuses hwithin
  · intro c
    show outstanding c (rowsAfter _ _) = _
    rw [← hrows, outstanding_updateStatuses, hleft, h.scheduled]
    cases c <;> rfl
  · show _ - _ = (0 : ℤ)
    omega
  · simp only [updatedByRepayment, Applied.total]
    omega

/-- Servicing says that nothing is owed exactly if nothing is. -/
theorem Derivation.status_eq_fullyRepaid_iff {now : ℕ} {derived : DerivedServicing H}
    (hd : Derivation obligation now derived) (h : Reckoned obligation) :
    derived.status = .fullyRepaid ↔ totalOutstanding obligation = 0 := by
  cases hd with
  | current oldest found timely eq =>
    rw [eq]
    exact basePerformingStatus_eq_fullyRepaid
  | pastDue oldest found late eq =>
    rw [eq, ← h.oldestUnpaid_eq_none_iff, found]
    refine iff_of_false (fun hstatus ↦ ?_) (fun hnone ↦ by cases hnone)
    simp only [pastDueServicing] at hstatus
    split at hstatus <;> cases hstatus

theorem basePerformingStatus_ne_writtenOff : basePerformingStatus obligation ≠ .writtenOff := by
  intro hstatus
  rw [basePerformingStatus] at hstatus
  split at hstatus
  · cases hstatus
  · split at hstatus
    · rename_i hresolved
      rw [hstatus] at hresolved
      exact absurd hresolved.1 (by decide)
    · split at hstatus <;> cases hstatus

theorem Derivation.status_ne_writtenOff {now : ℕ} {derived : DerivedServicing H}
    (hd : Derivation obligation now derived) : derived.status ≠ .writtenOff := by
  cases hd with
  | current oldest found timely eq =>
    rw [eq]
    exact basePerformingStatus_ne_writtenOff
  | pastDue oldest found late eq =>
    rw [eq]
    intro hstatus
    simp only [pastDueServicing] at hstatus
    split at hstatus <;> cases hstatus

theorem Reckoned.serviced (h : Reckoned obligation) (derived : DerivedServicing H) (now : ℕ) :
    Reckoned (serviced obligation derived now) :=
  ⟨h.rows_ne, h.within, h.scheduled, h.fees, h.total⟩

/-- The one row of a new schedule asks for what is owed. -/
theorem Reckoned.reschedule (h : Reckoned obligation) (hashId : SandboxPreimage H → H)
    (dueAt : ℕ) :
    let row := scheduledRow hashId obligation.obligationId 1 dueAt
      obligation.outstandingPrincipalMinor obligation.outstandingInterestMinor
      obligation.outstandingFeesMinor (obligation.scheduleSequence + 1)
    Reckoned { obligation with
      scheduleSequence := obligation.scheduleSequence + 1
      installments := [row]
      daysPastDue := 0
      oldestUnpaidInstallmentId := some row.installmentId } := by
  intro row
  refine ⟨List.cons_ne_nil _ _, ?_, ?_, h.fees, h.total⟩
  · intro other hother c
    have hnonneg := h.owed_nonneg c
    rw [List.mem_singleton.1 hother]
    cases c <;> exact ⟨le_rfl, hnonneg⟩
  · intro c
    show outstanding c [row] = _
    rw [outstanding_cons, outstanding_nil, add_zero, Component.due]
    cases c <;> exact sub_zero _

/-! ## Errors of a repayment -/

/-- The error is not that a repayment does not fit the schedule. -/
def NotMismatch (e : DomainError) : Prop := e.code ≠ "schedule_allocation_mismatch"

theorem errorsIn_throwIf_code {c : Prop} [Decidable c] {code message : String}
    (h : code ≠ "schedule_allocation_mismatch") :
    ErrorsIn NotMismatch (throwIf c code message) :=
  errorsIn_throwIf h

theorem assertNonEmptyString_errorsIn (name value : String) :
    ErrorsIn NotMismatch (assertNonEmptyString name value) :=
  errorsIn_throwIf_code (by decide)

theorem assertPositiveMinorUnits_errorsIn (value : ℤ) (name : String) :
    ErrorsIn NotMismatch (assertPositiveMinorUnits value name) := by
  rw [assertPositiveMinorUnits, toMinorUnitBigInt]
  exact errorsIn_bind
    (errorsIn_bind (errorsIn_throwIf_code (by decide)) fun _ _ ↦ errorsIn_pure _)
    fun _ _ ↦ errorsIn_bind (errorsIn_throwIf_code (by decide)) fun _ _ ↦ errorsIn_pure _

theorem createBalancedTransaction_errorsIn {hashId : SandboxPreimage H → H} (idempotencyKey : H)
    (transactionType : String) (obligation : Obligation H) (reference : LedgerReference H)
    (inputs : List (EntryInput H)) :
    ErrorsIn NotMismatch (createBalancedTransaction hashId idempotencyKey transactionType obligation
      reference inputs) := by
  rw [createBalancedTransaction]
  exact errorsIn_bind (errorsIn_mapM fun _ _ ↦ assertPositiveMinorUnits_errorsIn _ _) fun _ _ ↦
    errorsIn_bind (errorsIn_throwIf_code (by decide)) fun _ _ ↦ errorsIn_pure _

theorem accrueSimpleInterest_errorsIn (obligation : Obligation H) (now : ℕ) :
    ErrorsIn NotMismatch (accrueSimpleInterest obligation now) := by
  rw [accrueSimpleInterest]
  refine errorsIn_bind (errorsIn_throwIf_code (by decide)) fun _ _ ↦
    errorsIn_bind ?_ fun _ _ ↦ errorsIn_bind (errorsIn_throwIf_code (by decide)) fun _ _ ↦
      errorsIn_bind (errorsIn_throwIf_code (by decide)) fun _ _ ↦
        errorsIn_bind (errorsIn_throwIf_code (by decide)) fun _ _ ↦ errorsIn_pure _
  split
  · exact errorsIn_pure _
  · intro e he
    rw [← Except.error.inj he, NotMismatch]
    decide

theorem applySandboxServicingAfterRepayment_errorsIn (previous repaid : Obligation H)
    (actorId : String) (now : ℕ) :
    ErrorsIn NotMismatch (applySandboxServicingAfterRepayment previous repaid actorId now) := by
  rw [applySandboxServicingAfterRepayment, deriveSandboxServicing]
  refine errorsIn_bind (assertNonEmptyString_errorsIn _ _) fun _ _ ↦
    errorsIn_bind (errorsIn_bind (errorsIn_throwIf_code (by decide)) fun _ _ ↦ ?_) fun _ _ ↦ ?_
  · split
    · exact errorsIn_pure _
    · split <;> exact errorsIn_pure _
  · rw [applyDerivedServicing, assertSandboxServicingState]
    exact errorsIn_bind (errorsIn_bind (errorsIn_throwIf_code (by decide)) fun _ _ ↦
      errorsIn_bind (errorsIn_throwIf_code (by decide)) fun _ _ ↦
        errorsIn_bind (errorsIn_throwIf_code (by decide)) fun _ _ ↦
          errorsIn_throwIf_code (by decide)) fun _ _ ↦ errorsIn_pure _

/-- **A repayment always fits the schedule.** -/
theorem Reckoned.postSandboxRepayment_errorsIn {hashId : SandboxPreimage H → H}
    (h : Reckoned obligation) (amountMinor : ℤ) (sourceCode : SandboxRepaymentSource)
    (actorId : String) (now : ℕ) :
    ErrorsIn NotMismatch
      (postSandboxRepayment hashId obligation amountMinor sourceCode actorId now) := by
  rw [postSandboxRepayment]
  refine errorsIn_bind (errorsIn_throwIf_code (by decide)) fun _ _ ↦
    errorsIn_bind (errorsIn_throwIf_code (by decide)) fun _ _ ↦
    errorsIn_bind (errorsIn_throwIf_code (by decide)) fun _ _ ↦
    errorsIn_bind (assertPositiveMinorUnits_errorsIn _ _) fun requested hrequested ↦
    errorsIn_bind (assertNonEmptyString_errorsIn _ _) fun _ _ ↦
    errorsIn_bind (accrueSimpleInterest_errorsIn _ _) fun accrual haccrual ↦
    errorsIn_bind (errorsIn_throwIf_code (by decide)) fun _ _ ↦ ?_
  obtain ⟨rfl, hpos⟩ := assertPositiveMinorUnits_ok hrequested
  have hcurrent := (h.accrue (accrueSimpleInterest_ok haccrual)).1
  obtain ⟨rows₁, rows₂, rows₃, hok₁, hok₂, hok₃, _⟩ :=
    allocations_complete hcurrent.within (hcurrent.applied_le hpos)
  dsimp only
  rw [hok₁]
  refine errorsIn_bind (errorsIn_pure _) fun rows hrows ↦ ?_
  rw [← Except.ok.inj hrows, hok₂]
  refine errorsIn_bind (errorsIn_pure _) fun rows hrows ↦ ?_
  rw [← Except.ok.inj hrows, hok₃]
  refine errorsIn_bind (errorsIn_pure _) fun rows hrows ↦
    errorsIn_bind (createBalancedTransaction_errorsIn _ _ _ _ _) fun _ _ ↦
    errorsIn_bind ?_ fun _ _ ↦
    errorsIn_bind (applySandboxServicingAfterRepayment_errorsIn _ _ _ _) fun _ _ ↦ errorsIn_pure _
  rw [interestTransaction]
  split
  · exact errorsIn_pure _
  · exact errorsIn_bind (createBalancedTransaction_errorsIn _ _ _ _ _) fun _ _ ↦ errorsIn_pure _

end Totals

/-! ## Whole runs -/

section Runs

variable {H : Type} [DecidableEq H]

/-- What has been posted to an account of the obligation. -/
def posted (hashId : SandboxPreimage H → H) (s : SandboxState H) (own : LedgerAccountType) : ℤ :=
  balance (sandboxAccountId hashId s.obligation own) s.ledgerTransactions

/-- What the ledger says, before the loan, while it runs, and when it is written off. -/
inductive Booked (hashId : SandboxPreimage H → H) (s : SandboxState H) : Prop where
  | pending (executionStatus : s.obligation.executionStatus = .pending)
      (principal : s.obligation.outstandingPrincipalMinor = s.obligation.originalPrincipalMinor)
      (interest : s.obligation.outstandingInterestMinor = 0)
      (ledger : s.ledgerTransactions = [])
  | running (executionStatus : s.obligation.executionStatus = .executed)
      (status : s.obligation.status ≠ .writtenOff)
      (principal : posted hashId s .principalReceivable = s.obligation.outstandingPrincipalMinor)
      (interest : posted hashId s .interestReceivable = s.obligation.outstandingInterestMinor)
      (loss : posted hashId s .writeOffLoss = 0)
  | lost (executionStatus : s.obligation.executionStatus = .executed)
      (status : s.obligation.status = .writtenOff)
      (principal : posted hashId s .principalReceivable = 0)
      (interest : posted hashId s .interestReceivable = 0)
      (loss : posted hashId s .writeOffLoss = s.obligation.writtenOffPrincipalMinor
        + s.obligation.writtenOffInterestMinor + s.obligation.writtenOffFeesMinor)
      (writtenOffPrincipal :
        s.obligation.writtenOffPrincipalMinor = s.obligation.outstandingPrincipalMinor)
      (writtenOffInterest :
        s.obligation.writtenOffInterestMinor = s.obligation.outstandingInterestMinor)
      (writtenOffFees : s.obligation.writtenOffFeesMinor = 0)

/-- **The invariant of the rail.** -/
structure Kept (hashId : SandboxPreimage H → H) (s : SandboxState H) : Prop where
  reckoned : Reckoned s.obligation
  settled : s.obligation.status = .fullyRepaid ↔ totalOutstanding s.obligation = 0
  balanced : ∀ transaction ∈ s.ledgerTransactions, transaction.Balanced
  booked : Booked hashId s

variable {hashId : SandboxPreimage H → H} {s : SandboxState H}

/-- The balance of an account after a command, from what the command posts. -/
theorem posted_append {next : Obligation H} {transactions : List (LedgerTransaction H)} {now : ℕ}
    (hid : next.obligationId = s.obligation.obligationId)
    (hasset : next.assetId = s.obligation.assetId) (own : LedgerAccountType) :
    posted hashId ⟨next, s.ledgerTransactions ++ transactions, now⟩ own
      = posted hashId s own + balance (sandboxAccountId hashId s.obligation own) transactions := by
  have haccount : sandboxAccountId hashId next own = sandboxAccountId hashId s.obligation own := by
    rw [sandboxAccountId, sandboxAccountId, hid, hasset]
  rw [posted, haccount, balance_append, posted]

/-- An account that a command posts nothing to, and one that it does. -/
theorem Booked.keepsRunning {next : Obligation H} {transactions : List (LedgerTransaction H)}
    {now : ℕ} (hid : next.obligationId = s.obligation.obligationId)
    (hasset : next.assetId = s.obligation.assetId) (hexecuted : next.executionStatus = .executed)
    (hstatus : next.status ≠ .writtenOff)
    (hprincipal : posted hashId s .principalReceivable
        + balance (sandboxAccountId hashId s.obligation .principalReceivable) transactions
      = next.outstandingPrincipalMinor)
    (hinterest : posted hashId s .interestReceivable
        + balance (sandboxAccountId hashId s.obligation .interestReceivable) transactions
      = next.outstandingInterestMinor)
    (hloss : posted hashId s .writeOffLoss
        + balance (sandboxAccountId hashId s.obligation .writeOffLoss) transactions = 0) :
    Booked hashId ⟨next, s.ledgerTransactions ++ transactions, now⟩ :=
  .running hexecuted hstatus ((posted_append hid hasset _).trans hprincipal)
    ((posted_append hid hasset _).trans hinterest) ((posted_append hid hasset _).trans hloss)

omit [DecidableEq H] in
theorem balanced_append {transactions more : List (LedgerTransaction H)}
    (h : ∀ transaction ∈ transactions, transaction.Balanced)
    (hmore : ∀ transaction ∈ more, transaction.Balanced) :
    ∀ transaction ∈ transactions ++ more, transaction.Balanced := by
  intro transaction hmem
  rcases List.mem_append.1 hmem with hmem | hmem
  · exact h transaction hmem
  · exact hmore transaction hmem

theorem Kept.execute (hapart : SandboxAccountsApart hashId) (h : Kept hashId s)
    {adapterReceipt : AdapterReceipt} {now : ℕ} {next : Obligation H}
    {transaction : LedgerTransaction H}
    (hok : executeSandboxObligation hashId s.obligation adapterReceipt now
      = .ok (next, transaction)) :
    Kept hashId ⟨next, s.ledgerTransactions ++ [transaction], now⟩ := by
  obtain ⟨hcreated, hpending, hbalanced, hentries, receiptHash, rfl⟩ :=
    executeSandboxObligation_ok hok
  have hr := h.reckoned
  refine ⟨⟨hr.rows_ne, hr.within, hr.scheduled, hr.fees, hr.total⟩, ?_,
    balanced_append h.balanced (by simpa using hbalanced), ?_⟩
  · have hsettled := h.settled
    rw [hcreated] at hsettled
    exact iff_of_false nofun fun h0 ↦ nomatch hsettled.2 h0
  · cases h.booked with
    | pending executionStatus principal interest ledger =>
      have hposted : ∀ own, posted hashId s own
          + balance (sandboxAccountId hashId s.obligation own) [transaction]
          = (if .principalReceivable = own then s.obligation.originalPrincipalMinor else 0)
            - if .sandboxFundingSource = own then s.obligation.originalPrincipalMinor else 0 := by
        intro own
        rw [posted, ledger, balance_nil, balance_cons, balance_nil, hentries,
          entryBalance_transfer hapart]
        omega
      refine .keepsRunning rfl rfl rfl nofun ?_ ?_ ?_
      · rw [hposted, if_pos rfl, if_neg (by decide), sub_zero]
        exact principal.symm
      · rw [hposted, if_neg (by decide), if_neg (by decide), sub_zero]
        exact interest.symm
      · rw [hposted, if_neg (by decide), if_neg (by decide), sub_zero]
    | running executionStatus => exact absurd (hpending.symm.trans executionStatus) (by decide)
    | lost executionStatus => exact absurd (hpending.symm.trans executionStatus) (by decide)

/-- A command that posts nothing and changes no amount of an executed obligation. -/
theorem Kept.unposted (h : Kept hashId s) (hwritten : s.obligation.status ≠ .writtenOff)
    {next : Obligation H} {now : ℕ} (hid : next.obligationId = s.obligation.obligationId)
    (hasset : next.assetId = s.obligation.assetId)
    (hexecuted : s.obligation.executionStatus = .executed)
    (hexecuted' : next.executionStatus = .executed) (hstatus : next.status ≠ .writtenOff)
    (howed : next.owed = s.obligation.owed) (hreckoned : Reckoned next)
    (hsettled : next.status = .fullyRepaid ↔ totalOutstanding next = 0) :
    Kept hashId ⟨next, s.ledgerTransactions ++ [], now⟩ := by
  refine ⟨hreckoned, hsettled, balanced_append h.balanced (List.forall_mem_nil _), ?_⟩
  cases h.booked with
  | pending executionStatus => exact absurd (hexecuted.symm.trans executionStatus) (by decide)
  | running executionStatus status principal interest loss =>
    refine .keepsRunning hid hasset hexecuted' hstatus ?_ ?_ ?_
    · rw [balance_nil, add_zero, principal]
      exact (congrFun howed .principal).symm
    · rw [balance_nil, add_zero, interest]
      exact (congrFun howed .interest).symm
    · rw [balance_nil, add_zero, loss]
  | lost executionStatus status => exact absurd status hwritten

theorem Kept.advance (h : Kept hashId s) (hwritten : s.obligation.status ≠ .writtenOff)
    {actorId : String} {now : ℕ} {next : Obligation H} {changed : Bool}
    (hok : advanceSandboxServicing s.obligation actorId now = .ok (next, changed)) :
    Kept hashId ⟨next, s.ledgerTransactions ++ [], now⟩ := by
  obtain ⟨derived, hexecuted, hderivation, ⟨rfl, _⟩ | ⟨rfl, _⟩⟩ := advanceSandboxServicing_ok hok
  · exact h.unposted hwritten rfl rfl hexecuted hexecuted hwritten rfl h.reckoned h.settled
  · exact h.unposted hwritten rfl rfl hexecuted hexecuted hderivation.status_ne_writtenOff rfl
      (h.reckoned.serviced derived now) (hderivation.status_eq_fullyRepaid_iff h.reckoned)

/-- An obligation that is not fully repaid, and is not after a resolution, still owes something. -/
theorem Kept.resolution (h : Kept hashId s) {status : ObligationStatus}
    {allowed : List ObligationStatus} (hallowed : s.obligation.status ∈ allowed)
    (hrepaid : .fullyRepaid ∉ allowed) (hstatus : status ≠ .fullyRepaid) :
    status = .fullyRepaid ↔ totalOutstanding s.obligation = 0 := by
  refine iff_of_false hstatus fun h0 ↦ ?_
  rw [h.settled.2 h0] at hallowed
  exact hrepaid hallowed

theorem Kept.restructure (h : Kept hashId s) {additionalTermDays : ℕ} {context : ResolutionContext}
    {now : ℕ} {next : Obligation H} {servicingActionId : H}
    (hok : restructureSandboxObligation hashId s.obligation additionalTermDays context now
      = .ok (next, servicingActionId)) :
    Kept hashId ⟨next, s.ledgerTransactions ++ [], now⟩ := by
  obtain ⟨hexecuted, hstatus, row, ⟨dueAt, rfl⟩, rfl⟩ := restructureSandboxObligation_ok hok
  have hwritten : s.obligation.status ≠ .writtenOff := by
    intro hsame
    rw [hsame] at hstatus
    exact absurd hstatus (by decide)
  have hr := h.reckoned
  have hnew := hr.reschedule hashId dueAt
  exact h.unposted hwritten rfl rfl hexecuted hexecuted nofun rfl
    ⟨hnew.rows_ne, hnew.within, hnew.scheduled, hnew.fees, hnew.total⟩
    (h.resolution hstatus (by decide) nofun)

theorem Kept.repurchase (h : Kept hashId s) {servicingOwnerCode : SandboxServicingOwner}
    {context : ResolutionContext} {now : ℕ} {next : Obligation H} {servicingActionId : H}
    (hok : repurchaseSandboxObligation hashId s.obligation servicingOwnerCode context now
      = .ok (next, servicingActionId)) :
    Kept hashId ⟨next, s.ledgerTransactions ++ [], now⟩ := by
  obtain ⟨hexecuted, hstatus, rfl⟩ := repurchaseSandboxObligation_ok hok
  have hwritten : s.obligation.status ≠ .writtenOff := by
    intro hsame
    rw [hsame] at hstatus
    exact absurd hstatus (by decide)
  have hr := h.reckoned
  exact h.unposted hwritten rfl rfl hexecuted hexecuted nofun rfl
    ⟨hr.rows_ne, hr.within, hr.scheduled, hr.fees, hr.total⟩
    (h.resolution hstatus (by decide) nofun)

theorem Kept.writeOff (hapart : SandboxAccountsApart hashId) (h : Kept hashId s)
    {context : ResolutionContext} {now : ℕ} {next : Obligation H} {servicingActionId : H}
    {transaction : LedgerTransaction H}
    (hok : writeOffSandboxObligation hashId s.obligation context now
      = .ok (next, servicingActionId))
    (htransaction : createSandboxWriteOffTransaction hashId s.obligation servicingActionId
      = .ok transaction) :
    Kept hashId ⟨next, s.ledgerTransactions ++ [transaction], now⟩ := by
  obtain ⟨hexecuted, hstatus, hbalance, hnext⟩ := writeOffSandboxObligation_ok hok
  obtain ⟨hbalanced, hentries⟩ := createSandboxWriteOffTransaction_ok htransaction
  have happend : ∀ own, posted hashId ⟨next, s.ledgerTransactions ++ [transaction], now⟩ own = _ :=
    posted_append (by rw [hnext]; rfl) (by rw [hnext]; rfl)
  subst hnext
  have hr := h.reckoned
  refine ⟨⟨hr.rows_ne, hr.within, hr.scheduled, hr.fees, hr.total⟩,
    h.resolution hstatus (by decide) nofun,
    balanced_append h.balanced (by simpa using hbalanced), ?_⟩
  have hposted : ∀ own, balance (sandboxAccountId hashId s.obligation own) [transaction]
      = (if .writeOffLoss = own then totalOutstanding s.obligation else 0)
        - ((if .principalReceivable = own then s.obligation.outstandingPrincipalMinor else 0)
          + ((if .interestReceivable = own then s.obligation.outstandingInterestMinor else 0)
            + ((if .feeReceivable = own then s.obligation.outstandingFeesMinor else 0) + 0))) := by
    intro own
    rw [balance_cons, balance_nil, hentries, entryBalance_against_receivables hapart, add_zero]
    · rfl
    · simp only [List.forall_mem_cons, List.not_mem_nil, false_implies, implies_true, and_true]
      exact ⟨hr.owed_nonneg .principal, hr.owed_nonneg .interest, hr.owed_nonneg .fee⟩
  cases h.booked with
  | pending executionStatus => exact absurd (hexecuted.symm.trans executionStatus) (by decide)
  | lost executionStatus status => rw [status] at hstatus; exact absurd hstatus (by decide)
  | running executionStatus status principal interest loss =>
    refine .lost hexecuted rfl ((happend _).trans ?_) ((happend _).trans ?_)
      ((happend _).trans ?_) rfl rfl hr.fees
    · rw [hposted, principal]
      simp
    · rw [hposted, interest]
      simp
    · rw [hposted, loss]
      simp [totalOutstanding, resolved]

section Repayment

variable {obligation : Obligation H} {amountMinor : ℤ} {actorId : String} {now : ℕ}
  {result : SandboxRepayment H} {accrual : SimpleAccrual H}

/-- What the transactions of a payment come to. -/
theorem Repaid.balance_eq (hapart : SandboxAccountsApart hashId)
    (h : Repaid hashId obligation amountMinor actorId now result accrual)
    (hcurrent : Reckoned accrual.obligation) (own : LedgerAccountType) :
    balance (sandboxAccountId hashId obligation own)
        (result.ledgerTransaction :: result.interestTransaction.toList)
      = (if .repaymentClearing = own then
        (applyPayment accrual.obligation amountMinor).total else 0)
        - ((if .feeReceivable = own then (applyPayment accrual.obligation amountMinor).fee else 0)
          + ((if .interestReceivable = own
              then (applyPayment accrual.obligation amountMinor).interest else 0)
            + ((if .principalReceivable = own
              then (applyPayment accrual.obligation amountMinor).principal else 0) + 0)))
        + ((if .interestReceivable = own then accrual.accruedInterestMinor else 0)
          - if .syntheticInterestIncome = own then accrual.accruedInterestMinor else 0) := by
  obtain ⟨hfee, hinterest, hprincipal⟩ := applyPayment_bounds hcurrent h.positive
  have haccount : sandboxAccountId hashId accrual.obligation own
      = sandboxAccountId hashId obligation own := by
    obtain ⟨lastAccruedAt, remainder, heq⟩ := (accrueSimpleInterest_ok h.accrued).eq
    rw [sandboxAccountId, heq, sandboxAccountId]
  rw [balance_cons, h.entries, ← haccount, entryBalance_against_receivables hapart]
  · refine congrArg₂ (· + ·) rfl ?_
    rcases interestTransaction_ok h.interest with ⟨hnone, h0⟩ | ⟨posted, hsome, _, hentries⟩
    · rw [hnone, h0, Option.toList_none, balance_nil, ite_self, ite_self, sub_zero]
    · rw [hsome, Option.toList_some, balance_cons, balance_nil, add_zero, hentries,
        entryBalance_transfer hapart]
  · simp only [List.forall_mem_cons, List.not_mem_nil, false_implies, implies_true, and_true]
    exact ⟨hfee.1, hinterest.1, hprincipal.1⟩

omit [DecidableEq H] in
theorem Repaid.all_balanced (h : Repaid hashId obligation amountMinor actorId now result accrual) :
    ∀ transaction ∈ result.ledgerTransaction :: result.interestTransaction.toList,
      transaction.Balanced := by
  refine List.forall_mem_cons.2 ⟨h.balanced, ?_⟩
  rcases interestTransaction_ok h.interest with ⟨hnone, _⟩ | ⟨posted, hsome, hbalanced, _⟩
  · rw [hnone]
    exact List.forall_mem_nil _
  · rw [hsome]
    simpa using hbalanced

omit [DecidableEq H] in
/-- The obligation a payment leaves: repaid, and serviced in one of the two ways. -/
theorem Repaid.obligation_eq (h : Repaid hashId obligation amountMinor actorId now result accrual)
    (hcurrent : Reckoned accrual.obligation) :
    let applied := applyPayment accrual.obligation amountMinor
    let repaid := updatedByRepayment accrual.obligation applied
      (rowsAfter accrual.obligation.installments applied) now
    Reckoned repaid ∧ repaid.executionStatus = .executed ∧
      ∃ derived : DerivedServicing H, derived.status ≠ .writtenOff ∧
        (derived.status = .fullyRepaid ↔ totalOutstanding repaid = 0) ∧
        result.obligation = Credit.serviced repaid derived now := by
  intro applied repaid
  have hreckoned : Reckoned repaid := hcurrent.repay h.positive now
  obtain ⟨derived, hexecuted, hderivation, _, ⟨_, hnext⟩ | ⟨_, _, hnext⟩⟩ :=
    applySandboxServicingAfterRepayment_ok h.serviced
  · exact ⟨hreckoned, hexecuted, _, hderivation.status_ne_writtenOff,
      hderivation.status_eq_fullyRepaid_iff hreckoned, hnext⟩
  · exact ⟨hreckoned, hexecuted, _, basePerformingStatus_ne_writtenOff,
      basePerformingStatus_eq_fullyRepaid, hnext⟩

end Repayment

theorem Kept.repay (hapart : SandboxAccountsApart hashId) (h : Kept hashId s)
    (hwritten : s.obligation.status ≠ .writtenOff) {amountMinor : ℤ}
    {sourceCode : SandboxRepaymentSource} {actorId : String} {now : ℕ}
    {result : SandboxRepayment H}
    (hok : postSandboxRepayment hashId s.obligation amountMinor sourceCode actorId now
      = .ok result) :
    Kept hashId ⟨result.obligation, s.ledgerTransactions ++
      result.ledgerTransaction :: result.interestTransaction.toList, now⟩ := by
  obtain ⟨accrual, hrepaid⟩ := postSandboxRepayment_ok hok
  have haccrued := accrueSimpleInterest_ok hrepaid.accrued
  obtain ⟨hcurrent, _⟩ := h.reckoned.accrue haccrued
  obtain ⟨lastAccruedAt, remainder, heq⟩ := haccrued.eq
  obtain ⟨hreckoned, hexecuted, derived, hstatus, hsettled, hresult⟩ :=
    hrepaid.obligation_eq hcurrent
  have hposted := hrepaid.balance_eq hapart hcurrent
  rw [hresult]
  refine ⟨hreckoned.serviced derived now, hsettled,
    balanced_append h.balanced hrepaid.all_balanced, ?_⟩
  generalize applyPayment accrual.obligation amountMinor = applied at *
  cases h.booked with
  | pending executionStatus =>
    exact absurd (hrepaid.executed.symm.trans executionStatus) (by decide)
  | lost executionStatus status => exact absurd status hwritten
  | running executionStatus status principal interest loss =>
    refine .keepsRunning ?_ ?_ hexecuted hstatus ?_ ?_ ?_
    · simp only [serviced, updatedByRepayment, heq]
    · simp only [serviced, updatedByRepayment, heq]
    · rw [hposted, principal]
      simp only [serviced, updatedByRepayment, heq]
      simp [sub_eq_add_neg]
    · rw [hposted, interest]
      simp only [serviced, updatedByRepayment, heq]
      simp
      omega
    · rw [hposted, loss]
      simp

/-- **Every command keeps the invariant**, if the obligation is not written off already. -/
theorem Kept.perform (hapart : SandboxAccountsApart hashId) (h : Kept hashId s)
    (hwritten : s.obligation.status ≠ .writtenOff) {command : SandboxCommand} {now : ℕ}
    {next : Obligation H} {transactions : List (LedgerTransaction H)}
    (hok : perform hashId s.obligation now command = .ok (next, transactions)) :
    Kept hashId ⟨next, s.ledgerTransactions ++ transactions, now⟩ := by
  cases perform_ok hok with
  | execute call => exact h.execute hapart call
  | repay call => exact h.repay hapart hwritten call
  | advance call => exact h.advance hwritten call
  | restructure call => exact h.restructure call
  | repurchase call => exact h.repurchase call
  | writeOff call post => exact h.writeOff hapart call post

/-- A command that is carried out leaves an obligation that is executed. -/
theorem perform_executed {obligation next : Obligation H} {command : SandboxCommand} {now : ℕ}
    {transactions : List (LedgerTransaction H)}
    (hok : perform hashId obligation now command = .ok (next, transactions)) :
    next.executionStatus = .executed := by
  cases perform_ok hok with
  | execute call =>
    obtain ⟨_, _, _, _, _, rfl⟩ := executeSandboxObligation_ok call
    rfl
  | repay call =>
    obtain ⟨accrual, hrepaid⟩ := postSandboxRepayment_ok call
    obtain ⟨derived, hexecuted, _, _, ⟨_, hnext⟩ | ⟨_, _, hnext⟩⟩ :=
      applySandboxServicingAfterRepayment_ok hrepaid.serviced
    · rw [hnext]
      exact hexecuted
    · rw [hnext]
      exact hexecuted
  | advance call =>
    obtain ⟨derived, hexecuted, _, ⟨rfl, _⟩ | ⟨rfl, _⟩⟩ := advanceSandboxServicing_ok call
    · exact hexecuted
    · exact hexecuted
  | restructure call =>
    obtain ⟨hexecuted, _, _, _, rfl⟩ := restructureSandboxObligation_ok call
    exact hexecuted
  | repurchase call =>
    obtain ⟨hexecuted, _, rfl⟩ := repurchaseSandboxObligation_ok call
    exact hexecuted
  | writeOff call =>
    obtain ⟨hexecuted, _, _, rfl⟩ := writeOffSandboxObligation_ok call
    exact hexecuted

/-- What is conserved from an accepted obligation on. -/
structure Conserved (hashId : SandboxPreimage H → H) (accepted s : SandboxState H) : Prop where
  /-- Nothing has been done, or the loan is executed. -/
  started : s = accepted ∨ s.obligation.executionStatus = .executed
  scheduledPrincipal : outstanding .principal s.obligation.installments
    = s.obligation.outstandingPrincipalMinor
  scheduledInterest : outstanding .interest s.obligation.installments
    = s.obligation.outstandingInterestMinor
  within : WithinSchedule s.obligation.installments
  total : s.obligation.originalPrincipalMinor + s.obligation.accruedInterestMinor
    = s.obligation.outstandingPrincipalMinor + s.obligation.outstandingInterestMinor
      + s.obligation.totalRepaidMinor
  balanced : ∀ transaction ∈ s.ledgerTransactions, transaction.Balanced
  receivables : s.obligation.executionStatus = .executed → s.obligation.status ≠ .writtenOff →
    posted hashId s .principalReceivable = s.obligation.outstandingPrincipalMinor ∧
      posted hashId s .interestReceivable = s.obligation.outstandingInterestMinor
  loss : s.obligation.status = .writtenOff →
    posted hashId s .principalReceivable = 0 ∧ posted hashId s .interestReceivable = 0 ∧
      posted hashId s .writeOffLoss
        = s.obligation.writtenOffPrincipalMinor + s.obligation.writtenOffInterestMinor ∧
      s.obligation.writtenOffPrincipalMinor = s.obligation.outstandingPrincipalMinor ∧
      s.obligation.writtenOffInterestMinor = s.obligation.outstandingInterestMinor
  settled : s.obligation.status = .fullyRepaid ↔ PaidInFull s.obligation.installments
  /-- No repayment is refused because it does not fit the schedule. -/
  reconciles : ∀ amountMinor sourceCode actorId now e,
    postSandboxRepayment hashId s.obligation amountMinor sourceCode actorId now = .error e →
    e.code ≠ "schedule_allocation_mismatch"

theorem Kept.conserved {accepted : SandboxState H} (h : Kept hashId s)
    (hcreated : accepted.obligation.status = .created)
    (hstarted : s = accepted ∨ s.obligation.executionStatus = .executed) :
    Conserved hashId accepted s where
  started := hstarted
  scheduledPrincipal := h.reckoned.scheduled .principal
  scheduledInterest := h.reckoned.scheduled .interest
  within := h.reckoned.within
  total := h.reckoned.total
  balanced := h.balanced
  receivables hexecuted hstatus := by
    cases h.booked with
    | pending executionStatus => exact absurd (hexecuted.symm.trans executionStatus) (by decide)
    | running _ _ principal interest => exact ⟨principal, interest⟩
    | lost _ status => exact absurd status hstatus
  loss hstatus := by
    cases h.booked with
    | pending executionStatus =>
      rcases hstarted with rfl | hexecuted
      · exact absurd (hstatus.symm.trans hcreated) (by decide)
      · exact absurd (hexecuted.symm.trans executionStatus) (by decide)
    | running _ status => exact absurd hstatus status
    | lost _ _ principal interest loss writtenOffPrincipal writtenOffInterest writtenOffFees =>
      rw [writtenOffFees, add_zero] at loss
      exact ⟨principal, interest, loss, writtenOffPrincipal, writtenOffInterest⟩
  settled := h.settled.trans h.reckoned.total_eq_zero_iff
  reconciles := h.reckoned.postSandboxRepayment_errorsIn

/-- **Conservation on the sandbox rail.**  From an accepted offer on, and over any sequence of
commands up to a write-off, the totals, the schedule and the ledger agree in every state. -/
theorem sandbox_conserved_along (hapart : SandboxAccountsApart hashId) {obligationId : String}
    {offer : CreditOffer} {now : ℕ} {obligation : Obligation H}
    (haccepted : createAcceptedOfferObligation hashId obligationId offer now = .ok obligation)
    (inputs : List SandboxInput)
    (honce : Run.Steps (sandboxStep hashId) (fun s _ ↦ s.obligation.status ≠ .writtenOff)
      ⟨obligation, [], now⟩ inputs) :
    Run.Along (sandboxStep hashId) (Conserved hashId ⟨obligation, [], now⟩) ⟨obligation, [], now⟩
      inputs := by
  obtain ⟨hreckoned, hpos, hprincipal, hinterest, hfees, hpending, hcreated⟩ :=
    createAcceptedOfferObligation_reckoned haccepted
  have hkept : Kept hashId ⟨obligation, [], now⟩ := by
    refine ⟨hreckoned, iff_of_false ?_ ?_, List.forall_mem_nil _,
      .pending hpending hprincipal hinterest rfl⟩
    · rw [hcreated]
      decide
    · rw [totalOutstanding]
      dsimp only
      omega
  refine Run.Along.mono (fun t ht ↦ Kept.conserved ht.1 hcreated ht.2)
    (Run.along_of_steps (P := fun t ↦ Kept hashId t ∧ (t = ⟨obligation, [], now⟩ ∨ _)) ?_ inputs
      ⟨hkept, .inl rfl⟩ honce)
  rintro t input ⟨ht, hstarted⟩ hwritten
  rw [sandboxStep]
  split
  · rename_i next transactions hok
    exact ⟨ht.perform hapart hwritten hok, .inr (perform_executed hok)⟩
  · exact ⟨ht, hstarted⟩

end Runs

namespace SandboxSample

/-- A hash that keeps apart what the samples hash. -/
def hashId : SandboxPreimage (List ℕ) → List ℕ
  | .obligationInstallment _ installmentNumber dueAt _ _ _ scheduleSequence =>
    [0, installmentNumber, dueAt, scheduleSequence]
  | .sandboxLedgerAccount ownerId _ accountType =>
    1 :: accountType.ctorIdx :: ownerId.toList.map Char.toNat
  | .sandboxExecutionReceipt _ _ executedAt => [2, executedAt]
  | .sandboxExecutionLedgerIdempotency _ receiptHash => 3 :: receiptHash
  | .actor actorId => 4 :: actorId.toList.map Char.toNat
  | .sandboxRepayment core => [5, core.occurredAt]
  | .sandboxRepaymentLedgerIdempotency repaymentId _ => 6 :: repaymentId
  | .sandboxInterestLedgerIdempotency _ lastAccruedAt _ => [7, lastAccruedAt]
  | .sandboxWriteOffLedgerIdempotency _ servicingActionId => 8 :: servicingActionId
  | .sandboxServicingAction core => [9, core.effectiveAt]
  | .ledgerTransaction core => 10 :: core.idempotencyKey

theorem accountsApart : SandboxAccountsApart hashId := by
  intro obligation a b hab
  have hidx : a.ctorIdx = b.ctorIdx := (List.cons.inj (List.cons.inj hab).2).1
  revert hidx
  cases a <;> cases b <;> simp [LedgerAccountType.ctorIdx]

/-- 1000 in two monthly payments; a day of interest on all of it is 1. -/
def offer : CreditOffer where
  subjectId := "subject"
  principalId := "principal"
  authorityType := .consent
  assetId := "usd"
  approvedPrincipalMinor := 1000
  annualRateBps := 3650
  repaymentFrequency := .monthly
  installmentCount := 2
  firstPaymentAt := 30 * dayMs
  maturityAt := 60 * dayMs

/-- The accepted loan of two installments, before it is paid out. -/
def obligation : Obligation (List ℕ) where
  obligationId := "obligation"
  subjectId := "subject"
  principalId := "principal"
  authorityType := .consent
  assetId := "usd"
  originalPrincipalMinor := 1000
  outstandingPrincipalMinor := 1000
  annualRateBps := 3650
  accruedInterestMinor := 0
  interestAccrualRemainder := 0
  outstandingInterestMinor := 0
  outstandingFeesMinor := 0
  totalRepaidMinor := 0
  scheduleSequence := 1
  installments :=
    [scheduledRow hashId "obligation" 1 (30 * dayMs) 500 0 0 1,
      scheduledRow hashId "obligation" 2 (60 * dayMs) 500 0 0 1]
  writtenOffPrincipalMinor := 0
  writtenOffInterestMinor := 0
  writtenOffFeesMinor := 0
  executionStatus := .pending
  status := .created
  servicingClassification := .current
  daysPastDue := 0
  oldestUnpaidInstallmentId := some [0, 1, 30 * dayMs, 1]
  servicingReasonCode := "obligation_created"
  servicingEffectiveAt := 0
  servicingOwnerCode := .platform
  resolution := none
  sandboxExecutionReceiptId := none
  poolExecutionReceiptId := none
  poolObligationBindingId := none
  executedAt := none
  lastAccruedAt := none
  updatedAt := 0
  sandboxOnly := true
  productionFundsMoved := false

theorem accepted : createAcceptedOfferObligation hashId "obligation" offer 0 = .ok obligation := by
  rw [← toOption_eq_some]
  decide +kernel

/-- The receipt that pays the sample loan out. -/
def adapterReceipt : AdapterReceipt where
  obligationId := "obligation"
  assetId := "usd"
  amountMinor := 1000
  sandboxOnly := true
  productionFundsMoved := false
  withdrawable := false
  adapterId := "adapter"
  adapterVersion := "v1"
  adapterKeyId := "key"
  messageHash := "hash"
  signature := "signature"
  issuedAt := some 0
  provider := none

/-- The dual control of the sample's resolutions. -/
def context : ResolutionContext := ⟨"hardship", "servicer", "proposal", "execution"⟩

/-- A payment in time, a late one, a new schedule, a payment on it, and the loss of the rest. -/
def inputs : List SandboxInput :=
  [⟨0, .execute adapterReceipt⟩,
    ⟨10 * dayMs, .repay 310 .syntheticBank "payer"⟩,
    ⟨40 * dayMs, .advance "worker"⟩,
    ⟨41 * dayMs, .restructure 30 context⟩,
    ⟨50 * dayMs, .repay 228 .syntheticBank "payer"⟩,
    ⟨200 * dayMs, .advance "worker"⟩,
    ⟨200 * dayMs, .writeOff context⟩]

end SandboxSample

/-- The loan runs through all of it, and 500 is lost in the end. -/
theorem sandbox_conserved_along_loss :
    Run.Along (sandboxStep SandboxSample.hashId)
        (Conserved SandboxSample.hashId ⟨SandboxSample.obligation, [], 0⟩)
        ⟨SandboxSample.obligation, [], 0⟩ SandboxSample.inputs ∧
      let s := Run.run (sandboxStep SandboxSample.hashId) ⟨SandboxSample.obligation, [], 0⟩
        SandboxSample.inputs
      s.obligation.status = .writtenOff ∧ s.obligation.totalRepaidMinor = 538 ∧
        posted SandboxSample.hashId s .writeOffLoss = 500 := by
  refine ⟨sandbox_conserved_along SandboxSample.accountsApart SandboxSample.accepted
    SandboxSample.inputs ?_, by decide +kernel⟩
  refine ⟨?_, ?_, ?_, ?_, ?_, ?_, ?_, trivial⟩ <;> decide +kernel

end Credit
end IpoOne
