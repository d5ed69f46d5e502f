import IpoOne.Credit.Conservation

/-!
# The states of an obligation on the sandbox rail

`ObligationTransitions` of `state-machines.js` lists the changes of status an obligation may go
through.  The functions of the rail do not consult it: servicing derives the status from the days
past due and from the balance alone.

`servicing_respects_iff` says which commands of a run leave the list.  There are two: servicing that
is advanced on an obligation that was written off, and a payment of a defaulted obligation that
covers the rows of 90 days and more but not all that is late.
-/

set_option autoImplicit false

namespace IpoOne
namespace Credit

open Fallible

/-- `ObligationTransitions` -/
def obligationTransitions : ObligationStatus → List ObligationStatus
  | .created => [.active, .closed]
  | .active => [.partiallyRepaid, .fullyRepaid, .delinquent, .overdue, .defaulted, .restructured,
      .repurchased, .writtenOff, .closed]
  | .partiallyRepaid => [.fullyRepaid, .delinquent, .overdue, .defaulted, .restructured,
      .repurchased, .writtenOff, .closed]
  | .fullyRepaid => [.closed]
  | .overdue => [.partiallyRepaid, .fullyRepaid, .defaulted, .closed]
  | .delinquent => [.active, .partiallyRepaid, .fullyRepaid, .defaulted, .restructured,
      .repurchased, .writtenOff, .closed]
  | .defaulted => [.active, .partiallyRepaid, .fullyRepaid, .restructured, .repurchased,
      .writtenOff, .closed]
  | .restructured => [.partiallyRepaid, .fullyRepaid, .delinquent, .defaulted, .repurchased,
      .writtenOff, .closed]
  | .repurchased => [.partiallyRepaid, .fullyRepaid, .delinquent, .defaulted, .restructured,
      .writtenOff, .closed]
  | .writtenOff => [.closed]
  | .closed => []

/-- No change of status, or one that is listed. -/
def Listed (before after : ObligationStatus) : Prop :=
  after = before ∨ after ∈ obligationTransitions before

instance (before after : ObligationStatus) : Decidable (Listed before after) :=
  inferInstanceAs (Decidable (_ ∨ _))

/-! ## Rows that are late -/

section Late

variable {H : Type}

/-- The whole days a row is past due. -/
def dueDays (row : Installment H) (now : ℕ) : ℕ := (now - row.dueAt) / dayMs

theorem dueDays_mono {row other : Installment H} {now later : ℕ} (hdue : row.dueAt ≤ other.dueAt)
    (hle : now ≤ later) : dueDays other now ≤ dueDays row later :=
  Nat.div_le_div_right (by omega)

theorem earlier_le (row other : Installment H) :
    (earlier row other).dueAt ≤ row.dueAt ∧ (earlier row other).dueAt ≤ other.dueAt := by
  rw [earlier]
  split <;> omega

theorem foldl_earlier_le (rest : List (Installment H)) (row : Installment H) :
    (rest.foldl earlier row).dueAt ≤ row.dueAt ∧
      ∀ other ∈ rest, (rest.foldl earlier row).dueAt ≤ other.dueAt := by
  induction rest generalizing row with
  | nil => exact ⟨le_rfl, List.forall_mem_nil _⟩
  | cons other rest ih =>
    obtain ⟨hhead, htail⟩ := ih (earlier row other)
    obtain ⟨hrow, hother⟩ := earlier_le row other
    exact ⟨hhead.trans hrow, List.forall_mem_cons.2 ⟨hhead.trans hother, htail⟩⟩

/-- The oldest unpaid row is due first. -/
theorem oldestUnpaid_le {rows : List (Installment H)} {oldest row : Installment H}
    (h : oldestUnpaid rows = some oldest) (hmem : row ∈ rows)
    (hpos : 0 < installmentOutstandingMinor row) : oldest.dueAt ≤ row.dueAt := by
  have hunpaid : row ∈ rows.filter fun row ↦ 0 < installmentOutstandingMinor row :=
    List.mem_filter.2 ⟨hmem, decide_eq_true hpos⟩
  rw [oldestUnpaid] at h
  split at h
  · cases h
  · rename_i first rest hfilter
    rw [hfilter] at hunpaid
    obtain ⟨hfirst, hrest⟩ := foldl_earlier_le rest first
    rw [← Option.some.inj h]
    rcases List.mem_cons.1 hunpaid with rfl | hin
    · exact hfirst
    · exact hrest row hin

/-- Everything that is late by 90 days is paid, and something that is late by a day is not. -/
def Relapses (rows : List (Installment H)) (now : ℕ) : Prop :=
  (∀ row ∈ rows, 0 < installmentOutstandingMinor row →
      dueDays row now < sandboxServicingDefaultDpd) ∧
    ∃ row ∈ rows, 0 < installmentOutstandingMinor row ∧ 1 ≤ dueDays row now

theorem relapses_iff {rows : List (Installment H)} {oldest : Installment H} {now : ℕ}
    (h : oldestUnpaid rows = some oldest) :
    Relapses rows now ↔
      1 ≤ dueDays oldest now ∧ dueDays oldest now < sandboxServicingDefaultDpd := by
  obtain ⟨hmem, hpos⟩ := oldestUnpaid_eq_some h
  constructor
  · rintro ⟨hrecent, row, hrow, hunpaid, hlate⟩
    exact ⟨hlate.trans (dueDays_mono (oldestUnpaid_le h hrow hunpaid) le_rfl),
      hrecent oldest hmem hpos⟩
  · rintro ⟨hlate, hrecent⟩
    refine ⟨fun row hrow hunpaid ↦ ?_, oldest, hmem, hpos, hlate⟩
    exact (dueDays_mono (oldestUnpaid_le h hrow hunpaid) le_rfl).trans_lt hrecent

theorem classificationForDpd_eq_defaulted {daysPastDue : ℕ} :
    classificationForDpd daysPastDue = .defaulted ↔ sandboxServicingDefaultDpd ≤ daysPastDue := by
  rw [classificationForDpd, sandboxServicingGraceDays, sandboxServicingDefaultDpd]
  split_ifs <;> simp only [false_iff, true_iff, not_le] <;> omega

/-- The status of an obligation that is late. -/
theorem pastDueServicing_status (oldest : Installment H) (now : ℕ) :
    (pastDueServicing oldest now).status
      = if sandboxServicingDefaultDpd ≤ dueDays oldest now then .defaulted else .delinquent := by
  by_cases h : sandboxServicingDefaultDpd ≤ dueDays oldest now
  · rw [if_pos h]
    exact if_pos (classificationForDpd_eq_defaulted.2 h)
  · rw [if_neg h]
    exact if_neg (mt classificationForDpd_eq_defaulted.1 h)

end Late

/-! ## What holds of every reachable obligation -/

section Invariant

variable {H : Type}

/-- The statuses of an executed obligation. -/
def executedStatuses : List ObligationStatus :=
  [.active, .partiallyRepaid, .fullyRepaid, .delinquent, .defaulted, .restructured, .repurchased,
    .writtenOff]

/-- What the status of an obligation says about its balance and its rows. -/
structure Serviceable (s : SandboxState H) : Prop where
  reckoned : Reckoned s.obligation
  settled : s.obligation.status = .fullyRepaid ↔ totalOutstanding s.obligation = 0
  repaid_nonneg : 0 ≤ s.obligation.totalRepaidMinor
  repaid : s.obligation.status = .partiallyRepaid → 0 < s.obligation.totalRepaidMinor
  started : s.obligation.executionStatus = .pending ∧ s.obligation.status = .created ∨
    s.obligation.executionStatus = .executed ∧ s.obligation.status ∈ executedStatuses
  resolved : s.obligation.status ∈ [.restructured, .repurchased] →
    s.obligation.servicingClassification ∈ [.restructured, .repurchased]
  defaulted : s.obligation.status = .defaulted →
    ∃ oldest, oldestUnpaid s.obligation.installments = some oldest ∧
      sandboxServicingDefaultDpd ≤ dueDays oldest s.clock

variable {s : SandboxState H}

theorem Serviceable.mem_executedStatuses (h : Serviceable s)
    (hexecuted : s.obligation.executionStatus = .executed) :
    s.obligation.status ∈ executedStatuses := by
  rcases h.started with ⟨hpending, _⟩ | ⟨_, hstatus⟩
  · rw [hpending] at hexecuted
    cases hexecuted
  · exact hstatus

theorem basePerformingStatus_eq {obligation : Obligation H}
    (hstatus : obligation.status ∉ [.restructured, .repurchased]) :
    basePerformingStatus obligation
      = if totalOutstanding obligation = 0 then .fullyRepaid
        else if 0 < obligation.totalRepaidMinor then .partiallyRepaid else .active := by
  simp only [basePerformingStatus, hstatus, false_and, if_false]

/-- The statuses of an obligation that is in time. -/
theorem Serviceable.basePerformingStatus_mem (h : Serviceable s)
    (hexecuted : s.obligation.executionStatus = .executed) :
    basePerformingStatus s.obligation ∈ executedStatuses ∧
      (s.obligation.status ≠ .writtenOff →
        Listed s.obligation.status (basePerformingStatus s.obligation)) := by
  by_cases hresolved : s.obligation.status ∈ [.restructured, .repurchased]
  · -- a resolution stands as long as nothing is late
    have h0 : totalOutstanding s.obligation ≠ 0 := by
      intro h0
      rw [h.settled.2 h0] at hresolved
      exact absurd hresolved (by decide)
    have hsame : basePerformingStatus s.obligation = s.obligation.status := by
      rw [basePerformingStatus, if_neg h0, if_pos ⟨hresolved, h.resolved hresolved⟩]
    rw [hsame]
    exact ⟨h.mem_executedStatuses hexecuted, fun _ ↦ .inl rfl⟩
  · have hmem := h.mem_executedStatuses hexecuted
    have hsettled := h.settled
    have hrepaid := h.repaid
    rw [basePerformingStatus_eq hresolved]
    generalize s.obligation.status = status at *
    split_ifs with h0 hpos
    · rw [hsettled.2 h0]
      decide
    · have hne : status ≠ .fullyRepaid := fun hstatus ↦ h0 (hsettled.1 hstatus)
      revert hne hresolved hmem
      cases status <;> decide
    · have hne : status ≠ .fullyRepaid := fun hstatus ↦ h0 (hsettled.1 hstatus)
      have hne' : status ≠ .partiallyRepaid := fun hstatus ↦ hpos (hrepaid hstatus)
      revert hne hne' hresolved hmem
      cases status <;> decide

/-- The statuses of an obligation that is late. -/
theorem Serviceable.pastDueServicing_listed (h : Serviceable s)
    (hexecuted : s.obligation.executionStatus = .executed) {now : ℕ} (hclock : s.clock ≤ now)
    {oldest : Installment H} (hfound : oldestUnpaid s.obligation.installments = some oldest)
    (hwritten : s.obligation.status ≠ .writtenOff) :
    Listed s.obligation.status (pastDueServicing oldest now).status := by
  have hne : s.obligation.status ≠ .fullyRepaid := by
    intro hstatus
    rw [(h.reckoned.oldestUnpaid_eq_none_iff).2 (h.settled.1 hstatus)] at hfound
    cases hfound
  rw [pastDueServicing_status]
  by_cases hdefaulted : s.obligation.status = .defaulted
  · -- the days past due only grow
    obtain ⟨oldest', hfound', hlate⟩ := h.defaulted hdefaulted
    rw [hfound] at hfound'
    cases hfound'
    rw [if_pos (hlate.trans (dueDays_mono le_rfl hclock)), hdefaulted]
    exact .inl rfl
  · have hmem := h.mem_executedStatuses hexecuted
    generalize s.obligation.status = status at *
    split_ifs
    · revert hne hwritten hmem
      cases status <;> decide
    · revert hne hwritten hmem hdefaulted
      cases status <;> decide

/-- What the status of an obligation that is in time says. -/
theorem basePerformingStatus_facts (obligation : Obligation H) :
    basePerformingStatus obligation ∈ executedStatuses ∧
      (basePerformingStatus obligation = .partiallyRepaid → 0 < obligation.totalRepaidMinor) ∧
      (basePerformingStatus obligation ∈ [.restructured, .repurchased] →
        obligation.status ∈ [.restructured, .repurchased] ∧
          obligation.servicingClassification ∈ [.restructured, .repurchased]) ∧
      basePerformingStatus obligation ≠ .defaulted := by
  rw [basePerformingStatus]
  split_ifs with h0 hresolved hpos
  · refine ⟨by decide, (fun h ↦ by cases h), fun hmem ↦ absurd hmem (by decide),
      (fun h ↦ by cases h)⟩
  · refine ⟨?_, fun hstatus ↦ ?_, fun _ ↦ hresolved, fun hstatus ↦ ?_⟩
    · have hmem := hresolved.1
      generalize obligation.status = status at *
      revert hmem
      cases status <;> decide
    · rw [hstatus] at hresolved
      exact absurd hresolved.1 (by decide)
    · rw [hstatus] at hresolved
      exact absurd hresolved.1 (by decide)
  · exact ⟨by decide, fun _ ↦ hpos, fun hmem ↦ absurd hmem (by decide), (fun h ↦ by cases h)⟩
  · exact ⟨by decide, (fun h ↦ by cases h), fun hmem ↦ absurd hmem (by decide),
      (fun h ↦ by cases h)⟩

/-- Servicing that is derived leaves an obligation whose status says what it is to say. -/
theorem Derivation.serviceable {obligation : Obligation H} {now : ℕ}
    {derived : DerivedServicing H} (hd : Derivation obligation now derived)
    (hreckoned : Reckoned obligation) (hexecuted : obligation.executionStatus = .executed)
    (hrepaid : 0 ≤ obligation.totalRepaidMinor)
    (ledgerTransactions : List (LedgerTransaction H)) :
    Serviceable ⟨serviced obligation derived now, ledgerTransactions, now⟩ := by
  have hsettled := hd.status_eq_fullyRepaid_iff hreckoned
  obtain ⟨hmem, hpartly, hresolved, hnever⟩ := basePerformingStatus_facts obligation
  cases hd with
  | current oldest found timely eq =>
    subst eq
    refine ⟨hreckoned.serviced _ now, hsettled, hrepaid, hpartly, .inr ⟨hexecuted, hmem⟩,
      fun hstatus ↦ ?_, fun hstatus ↦ absurd hstatus hnever⟩
    obtain ⟨hbefore, hclass⟩ := hresolved hstatus
    show (if _ then _ else _) ∈ _
    rw [if_pos hbefore]
    exact hclass
  | pastDue oldest found late eq =>
    subst eq
    have hstatus := pastDueServicing_status oldest now
    refine ⟨hreckoned.serviced _ now, hsettled, hrepaid, ?_, .inr ⟨hexecuted, ?_⟩, ?_, ?_⟩
    · show (pastDueServicing oldest now).status = _ → _
      rw [hstatus]
      split_ifs <;> exact nofun
    · show (pastDueServicing oldest now).status ∈ _
      rw [hstatus]
      split_ifs <;> decide
    · show (pastDueServicing oldest now).status ∈ _ → _
      rw [hstatus]
      split_ifs <;> exact fun hmem ↦ absurd hmem (by decide)
    · show (pastDueServicing oldest now).status = _ → _
      rw [hstatus]
      split_ifs with hdays
      · exact fun _ ↦ ⟨oldest, found, hdays⟩
      · exact nofun

/-- Something has been repaid after a payment. -/
theorem Serviceable.totalRepaid_pos {hashId : SandboxPreimage H → H} (h : Serviceable s)
    {amountMinor : ℤ} {actorId : String} {now : ℕ} {result : SandboxRepayment H}
    {accrual : SimpleAccrual H}
    (hrepaid : Repaid hashId s.obligation amountMinor actorId now result accrual) :
    0 < accrual.obligation.totalRepaidMinor
      + (applyPayment accrual.obligation amountMinor).total := by
  have haccrued := accrueSimpleInterest_ok hrepaid.accrued
  obtain ⟨hfee, hinterest, hprincipal⟩ :=
    applyPayment_bounds (h.reckoned.accrue haccrued).1 hrepaid.positive
  obtain ⟨lastAccruedAt, remainder, heq⟩ := haccrued.eq
  have hbefore : accrual.obligation.totalRepaidMinor = s.obligation.totalRepaidMinor := by
    rw [heq]
  have happlied := hrepaid.applied
  have hnonneg := h.repaid_nonneg
  rw [Applied.total] at happlied ⊢
  omega

/-- A payment leaves an obligation whose status says what it is to say. -/
theorem Serviceable.repay {hashId : SandboxPreimage H → H} (h : Serviceable s) {amountMinor : ℤ}
    {actorId : String} {now : ℕ} {result : SandboxRepayment H} {accrual : SimpleAccrual H}
    (hrepaid : Repaid hashId s.obligation amountMinor actorId now result accrual)
    (ledgerTransactions : List (LedgerTransaction H)) :
    Serviceable ⟨result.obligation, ledgerTransactions, now⟩ := by
  obtain ⟨hcurrent, _⟩ := h.reckoned.accrue (accrueSimpleInterest_ok hrepaid.accrued)
  have hreckoned := hcurrent.repay hrepaid.positive now
  have hpos := h.totalRepaid_pos hrepaid
  obtain ⟨derived, hexecuted, hderivation, _, ⟨_, hnext⟩ | ⟨_, _, hnext⟩⟩ :=
    applySandboxServicingAfterRepayment_ok hrepaid.serviced
  · rw [hnext]
    exact hderivation.serviceable hreckoned hexecuted hpos.le ledgerTransactions
  · rw [hnext]
    obtain ⟨hmem, _, hresolved, hnever⟩ := basePerformingStatus_facts
      (updatedByRepayment accrual.obligation (applyPayment accrual.obligation amountMinor)
        (rowsAfter accrual.obligation.installments
          (applyPayment accrual.obligation amountMinor)) now)
    refine ⟨hreckoned.serviced _ now, basePerformingStatus_eq_fullyRepaid, hpos.le, fun _ ↦ hpos,
      .inr ⟨hexecuted, hmem⟩, fun hstatus ↦ ?_, fun hstatus ↦ absurd hstatus hnever⟩
    -- a payment clears the status of a resolution
    refine absurd (hresolved hstatus).1 ?_
    simp only [updatedByRepayment]
    split <;> decide

end Invariant

/-! ## Whole runs -/

section Runs

variable {H : Type} [DecidableEq H] {hashId : SandboxPreimage H → H} {s : SandboxState H}

omit [DecidableEq H] in
/-- A resolution leaves an obligation that owes what it owed. -/
theorem Serviceable.resolution (h : Serviceable s) (status : ObligationStatus)
    (classification : ServicingClassification) {changed : Obligation H}
    {resolutionType : SandboxServicingResolution} {reasonCode : String} {now : ℕ}
    {allowed : List ObligationStatus} (hallowed : s.obligation.status ∈ allowed)
    (hrepaid : .fullyRepaid ∉ allowed) (hreckoned : Reckoned changed)
    (hexecuted : changed.executionStatus = .executed)
    (htotal : totalOutstanding changed = totalOutstanding s.obligation)
    (hsame : changed.totalRepaidMinor = s.obligation.totalRepaidMinor)
    (hstatus : status ∈ [.restructured, .repurchased, .writtenOff])
    (hclass : status ∈ [.restructured, .repurchased] →
      classification ∈ [.restructured, .repurchased])
    (ledgerTransactions : List (LedgerTransaction H)) :
    Serviceable ⟨Credit.resolved changed status classification resolutionType reasonCode now,
      ledgerTransactions, now⟩ := by
  have hnot : status ≠ .fullyRepaid ∧ status ≠ .partiallyRepaid ∧ status ≠ .defaulted ∧
      status ∈ executedStatuses := by
    revert hstatus
    cases status <;> decide
  refine ⟨⟨hreckoned.rows_ne, hreckoned.within, hreckoned.scheduled, hreckoned.fees,
    hreckoned.total⟩, iff_of_false hnot.1 fun h0 ↦ ?_, hsame ▸ h.repaid_nonneg,
    fun hpartly ↦ absurd hpartly hnot.2.1, .inr ⟨hexecuted, hnot.2.2.2⟩, hclass,
    fun hdefaulted ↦ absurd hdefaulted hnot.2.2.1⟩
  have h0' : totalOutstanding s.obligation = 0 := htotal.symm.trans h0
  rw [h.settled.2 h0'] at hallowed
  exact hrepaid hallowed

/-- **Every command keeps the invariant**, if time does not run backwards. -/
theorem Serviceable.perform (h : Serviceable s) {command : SandboxCommand} {now : ℕ}
    (hclock : s.clock ≤ now) {next : Obligation H} {transactions : List (LedgerTransaction H)}
    (hok : perform hashId s.obligation now command = .ok (next, transactions))
    (ledgerTransactions : List (LedgerTransaction H)) :
    Serviceable ⟨next, ledgerTransactions, now⟩ := by
  have hr := h.reckoned
  cases perform_ok hok with
  | execute call =>
    obtain ⟨hcreated, _, _, _, _, rfl⟩ := executeSandboxObligation_ok call
    refine ⟨⟨hr.rows_ne, hr.within, hr.scheduled, hr.fees, hr.total⟩, iff_of_false nofun ?_,
      h.repaid_nonneg, nofun, .inr ⟨rfl, show ObligationStatus.active ∈ _ by decide⟩,
      fun hmem ↦ absurd hmem (show ObligationStatus.active ∉ _ by decide), nofun⟩
    intro h0
    have hstatus := h.settled.2 h0
    rw [hcreated] at hstatus
    cases hstatus
  | repay call =>
    obtain ⟨accrual, hrepaid⟩ := postSandboxRepayment_ok call
    exact h.repay hrepaid ledgerTransactions
  | advance call =>
    obtain ⟨derived, hexecuted, hderivation, ⟨rfl, _⟩ | ⟨rfl, _⟩⟩ := advanceSandboxServicing_ok call
    · refine ⟨hr, h.settled, h.repaid_nonneg, h.repaid, h.started, h.resolved, fun hdefaulted ↦ ?_⟩
      obtain ⟨oldest, hfound, hlate⟩ := h.defaulted hdefaulted
      exact ⟨oldest, hfound, hlate.trans (dueDays_mono le_rfl hclock)⟩
    · exact hderivation.serviceable hr hexecuted h.repaid_nonneg ledgerTransactions
  | restructure call =>
    obtain ⟨hexecuted, hstatus, row, ⟨dueAt, rfl⟩, rfl⟩ := restructureSandboxObligation_ok call
    refine h.resolution .restructured .restructured hstatus (by decide) ?_ ?_ ?_ ?_ (by decide)
      (fun _ ↦ by decide) ledgerTransactions
    · exact hr.reschedule hashId dueAt
    · exact hexecuted
    · rfl
    · rfl
  | repurchase call =>
    obtain ⟨hexecuted, hstatus, rfl⟩ := repurchaseSandboxObligation_ok call
    refine h.resolution .repurchased .repurchased hstatus (by decide) ?_ ?_ ?_ ?_ (by decide)
      (fun _ ↦ by decide) ledgerTransactions
    · exact ⟨hr.rows_ne, hr.within, hr.scheduled, hr.fees, hr.total⟩
    · exact hexecuted
    · rfl
    · rfl
  | writeOff call post =>
    obtain ⟨hexecuted, hstatus, _, rfl⟩ := writeOffSandboxObligation_ok call
    refine h.resolution .writtenOff .writtenOff hstatus (by decide) ?_ ?_ ?_ ?_ (by decide)
      (fun hmem ↦ absurd hmem (by decide)) ledgerTransactions
    · exact ⟨hr.rows_ne, hr.within, hr.scheduled, hr.fees, hr.total⟩
    · exact hexecuted
    · rfl
    · rfl

theorem Serviceable.step (h : Serviceable s) {input : SandboxInput} (hclock : s.clock ≤ input.now) :
    Serviceable (sandboxStep hashId s input) := by
  rw [sandboxStep]
  split
  · rename_i next transactions hok
    exact h.perform hclock hok _
  · exact h

/-- The step goes through a change of status that is listed, and nothing happens any more to an
obligation that is written off. -/
structure Respects (hashId : SandboxPreimage H → H) (s : SandboxState H) (input : SandboxInput) :
    Prop where
  listed : Listed s.obligation.status (sandboxStep hashId s input).obligation.status
  final : s.obligation.status = .writtenOff →
    (sandboxStep hashId s input).obligation.status = .writtenOff ∧
      (sandboxStep hashId s input).ledgerTransactions = s.ledgerTransactions

/-- The commands that leave the list: servicing of an obligation that is written off, and a payment
of a defaulted one that covers all that is late by 90 days, and not all that is late by a day. -/
def LeavesList (obligation : Obligation H) (now : ℕ) : SandboxCommand → Prop
  | .advance _ => obligation.status = .writtenOff
  | .repay amountMinor _ _ => obligation.status = .defaulted ∧
      ∃ accrual, accrueSimpleInterest obligation now = .ok accrual ∧
        Relapses (rowsAfter accrual.obligation.installments
          (applyPayment accrual.obligation amountMinor)) now
  | _ => False

/-- The command is refused, or it is none of these. -/
def StaysListed (hashId : SandboxPreimage H → H) (s : SandboxState H) (input : SandboxInput) :
    Prop :=
  (∃ result, perform hashId s.obligation input.now input.command = .ok result) →
    ¬ LeavesList s.obligation input.now input.command

/-- **Servicing.**  It leaves the list exactly if the obligation is written off. -/
theorem Serviceable.advance_listed_iff (h : Serviceable s) {now : ℕ} (hclock : s.clock ≤ now)
    {actorId : String} {next : Obligation H} {changed : Bool}
    (call : advanceSandboxServicing s.obligation actorId now = .ok (next, changed)) :
    Listed s.obligation.status next.status ↔ s.obligation.status ≠ .writtenOff := by
  obtain ⟨derived, hexecuted, hderivation, hnext⟩ := advanceSandboxServicing_ok call
  have hstatus : next.status = derived.status := by
    rcases hnext with ⟨rfl, hsame⟩ | ⟨rfl, _⟩
    · exact hsame.symm
    · rfl
  have hperforming := h.basePerformingStatus_mem hexecuted
  rw [hstatus]
  constructor
  · intro hlisted hwritten
    rw [hwritten] at hlisted
    have hmem : derived.status ∈ executedStatuses := by
      cases hderivation with
      | current oldest found timely eq =>
        rw [eq]
        exact hperforming.1
      | pastDue oldest found late eq =>
        rw [eq, pastDueServicing_status]
        split_ifs <;> decide
    have hne := hderivation.status_ne_writtenOff
    generalize derived.status = status at *
    revert hlisted hmem hne
    cases status <;> decide
  · intro hwritten
    cases hderivation with
    | current oldest found timely eq =>
      rw [eq]
      exact hperforming.2 hwritten
    | pastDue oldest found late eq =>
      rw [eq]
      exact h.pastDueServicing_listed hexecuted hclock found hwritten

omit [DecidableEq H] in
/-- An obligation that is not late has no row that is. -/
theorem not_relapses {rows : List (Installment H)} {oldest : Option (Installment H)} {now : ℕ}
    (hfound : oldestUnpaid rows = oldest) (htimely : ∀ row ∈ oldest, dueDays row now = 0) :
    ¬ Relapses rows now := by
  cases oldest with
  | none =>
    rintro ⟨_, row, hrow, hunpaid, _⟩
    exact absurd (oldestUnpaid_eq_none hfound hrow) (by omega)
  | some row =>
    rw [relapses_iff hfound, htimely row rfl]
    omega

omit [DecidableEq H] in
/-- **Payments.**  A payment leaves the list exactly if it takes a defaulted obligation back to
where it is late by less than 90 days. -/
theorem Repaid.listed_iff {amountMinor : ℤ} {actorId : String} {now : ℕ}
    {result : SandboxRepayment H} {accrual : SimpleAccrual H} {obligation : Obligation H}
    (h : Repaid hashId obligation amountMinor actorId now result accrual)
    (hexecuted : obligation.status ∈ executedStatuses)
    (hpos : 0 < accrual.obligation.totalRepaidMinor
      + (applyPayment accrual.obligation amountMinor).total) :
    Listed obligation.status result.obligation.status ↔
      ¬ (obligation.status = .defaulted ∧
        Relapses (rowsAfter accrual.obligation.installments
          (applyPayment accrual.obligation amountMinor)) now) := by
  have hrepayable := h.repayable
  have hadverse : obligation.status = .defaulted → wasAdverse obligation := by
    intro hstatus
    refine .inl ?_
    rw [hstatus]
    decide
  obtain ⟨derived, _, hderivation, _, hnext⟩ := applySandboxServicingAfterRepayment_ok h.serviced
  -- a payment after which nothing is late, or that cures
  have hbase : result.obligation.status = basePerformingStatus
      (updatedByRepayment accrual.obligation (applyPayment accrual.obligation amountMinor)
        (rowsAfter accrual.obligation.installments
          (applyPayment accrual.obligation amountMinor)) now) →
      Listed obligation.status result.obligation.status := by
    intro hstatus
    rw [hstatus, basePerformingStatus_eq (by simp only [updatedByRepayment]; split <;> decide),
      if_pos (show 0 < (updatedByRepayment _ _ _ _).totalRepaidMinor from hpos)]
    generalize obligation.status = status at *
    split_ifs
    · revert hrepayable
      cases status <;> decide
    · revert hrepayable
      cases status <;> decide
  cases hderivation with
  | current oldest found timely eq =>
    have htimely : ∀ row ∈ oldest, dueDays row now = 0 := by
      intro row hrow
      rw [dueDays, Nat.sub_eq_zero_of_le (timely row hrow), Nat.zero_div]
    refine iff_of_true (hbase ?_) fun hrelapse ↦ not_relapses found htimely hrelapse.2
    rcases hnext with ⟨_, hnext⟩ | ⟨_, _, hnext⟩
    · rw [hnext, eq]
      rfl
    · rw [hnext]
      rfl
  | pastDue oldest found late eq =>
    have hdays : derived.daysPastDue = dueDays oldest now := by
      rw [eq]
      rfl
    have hfound : oldestUnpaid (rowsAfter accrual.obligation.installments
      (applyPayment accrual.obligation amountMinor)) = some oldest := found
    rcases hnext with ⟨hnot, hnext⟩ | ⟨_, h0, hnext⟩
    · have hstatus : result.obligation.status = (pastDueServicing oldest now).status := by
        rw [hnext, eq]
        rfl
      rw [hstatus, pastDueServicing_status, relapses_iff hfound]
      by_cases hdefaulted : obligation.status = .defaulted
      · have hlate : derived.daysPastDue ≠ 0 := fun h0 ↦ hnot ⟨hadverse hdefaulted, h0⟩
        rw [hdays] at hlate
        rw [hdefaulted]
        split_ifs with hdue
        · exact iff_of_true (.inl rfl) fun hrelapse ↦ absurd hdue (by omega)
        · exact iff_of_false (by decide) fun hstays ↦ hstays ⟨rfl, by omega, by omega⟩
      · refine iff_of_true ?_ fun hrelapse ↦ hdefaulted hrelapse.1
        generalize obligation.status = status at *
        split_ifs
        · revert hrepayable hdefaulted
          cases status <;> decide
        · revert hrepayable hdefaulted hexecuted
          cases status <;> decide
    · refine iff_of_true (hbase ?_) fun hrelapse ↦ ?_
      · rw [hnext]
        rfl
      · rw [relapses_iff hfound, ← hdays, h0] at hrelapse
        omega

/-- **One command.** -/
theorem Serviceable.listed_iff (h : Serviceable s) {command : SandboxCommand} {now : ℕ}
    (hclock : s.clock ≤ now) {next : Obligation H} {transactions : List (LedgerTransaction H)}
    (hok : Credit.perform hashId s.obligation now command = .ok (next, transactions)) :
    Listed s.obligation.status next.status ↔ ¬ LeavesList s.obligation now command := by
  cases perform_ok hok with
  | execute call =>
    obtain ⟨hcreated, _, _, _, _, rfl⟩ := executeSandboxObligation_ok call
    rw [hcreated]
    exact iff_of_true (show Listed .created .active by decide) id
  | repay call =>
    obtain ⟨accrual, hrepaid⟩ := postSandboxRepayment_ok call
    rw [hrepaid.listed_iff (h.mem_executedStatuses hrepaid.executed) (h.totalRepaid_pos hrepaid),
      LeavesList, hrepaid.accrued]
    simp
  | advance call => exact h.advance_listed_iff hclock call
  | restructure call =>
    obtain ⟨_, hstatus, _, _, rfl⟩ := restructureSandboxObligation_ok call
    refine iff_of_true ?_ id
    show Listed s.obligation.status .restructured
    generalize s.obligation.status = status at *
    revert hstatus
    cases status <;> decide
  | repurchase call =>
    obtain ⟨_, hstatus, rfl⟩ := repurchaseSandboxObligation_ok call
    refine iff_of_true ?_ id
    show Listed s.obligation.status .repurchased
    generalize s.obligation.status = status at *
    revert hstatus
    cases status <;> decide
  | writeOff call post =>
    obtain ⟨_, hstatus, _, rfl⟩ := writeOffSandboxObligation_ok call
    refine iff_of_true ?_ id
    show Listed s.obligation.status .writtenOff
    generalize s.obligation.status = status at *
    revert hstatus
    cases status <;> decide

/-- An obligation that is written off is only ever serviced. -/
theorem perform_writtenOff {obligation next : Obligation H}
    (hwritten : obligation.status = .writtenOff) {command : SandboxCommand} {now : ℕ}
    {transactions : List (LedgerTransaction H)}
    (hok : perform hashId obligation now command = .ok (next, transactions)) :
    ∃ actorId, command = .advance actorId := by
  cases perform_ok hok with
  | execute call =>
    obtain ⟨hcreated, _⟩ := executeSandboxObligation_ok call
    rw [hwritten] at hcreated
    cases hcreated
  | repay call =>
    obtain ⟨accrual, hrepaid⟩ := postSandboxRepayment_ok call
    exact absurd (hwritten ▸ hrepaid.repayable) (by decide)
  | advance call => exact ⟨_, rfl⟩
  | restructure call =>
    obtain ⟨_, hstatus, _⟩ := restructureSandboxObligation_ok call
    exact absurd (hwritten ▸ hstatus) (by decide)
  | repurchase call =>
    obtain ⟨_, hstatus, _⟩ := repurchaseSandboxObligation_ok call
    exact absurd (hwritten ▸ hstatus) (by decide)
  | writeOff call post =>
    obtain ⟨_, hstatus, _⟩ := writeOffSandboxObligation_ok call
    exact absurd (hwritten ▸ hstatus) (by decide)

theorem Serviceable.respects_iff (h : Serviceable s) {input : SandboxInput}
    (hclock : s.clock ≤ input.now) : Respects hashId s input ↔ StaysListed hashId s input := by
  rw [StaysListed]
  constructor
  · rintro ⟨hlisted, _⟩ ⟨⟨next, transactions⟩, hok⟩
    rw [← h.listed_iff hclock hok]
    rwa [sandboxStep, hok] at hlisted
  · intro hstays
    have hresult : ∀ result,
        Credit.perform hashId s.obligation input.now input.command = .ok result →
        Listed s.obligation.status result.1.status ∧ s.obligation.status ≠ .writtenOff := by
      rintro ⟨next, transactions⟩ hok
      refine ⟨(h.listed_iff hclock hok).2 (hstays ⟨_, hok⟩), fun hwritten ↦ ?_⟩
      obtain ⟨actorId, hadvance⟩ := perform_writtenOff hwritten hok
      refine hstays ⟨_, hok⟩ ?_
      rw [hadvance]
      exact hwritten
    cases hok : Credit.perform hashId s.obligation input.now input.command with
    | ok result =>
      obtain ⟨hlisted, hwritten⟩ := hresult result hok
      refine ⟨?_, fun hsame ↦ absurd hsame hwritten⟩
      rw [sandboxStep, hok]
      exact hlisted
    | error e =>
      have hsame : sandboxStep hashId s input = s := by rw [sandboxStep, hok]
      exact ⟨by rw [hsame]; exact .inl rfl, fun hwritten ↦ by rw [hsame]; exact ⟨hwritten, rfl⟩⟩

/-- **When servicing respects the state machine.**  From an accepted offer on, and over any sequence
of commands in the order of their times, every change of status is listed, and nothing happens to an
obligation after it is written off, exactly if no command that is carried out is one of the two that
leave the list. -/
theorem servicing_respects_iff {obligationId : String} {offer : CreditOffer} {now : ℕ}
    {obligation : Obligation H}
    (haccepted : createAcceptedOfferObligation hashId obligationId offer now = .ok obligation)
    (inputs : List SandboxInput)
    (htimes : Run.Steps (sandboxStep hashId) (fun s input ↦ s.clock ≤ input.now)
      ⟨obligation, [], now⟩ inputs) :
    Run.Steps (sandboxStep hashId) (Respects hashId) ⟨obligation, [], now⟩ inputs ↔
      Run.Steps (sandboxStep hashId) (StaysListed hashId) ⟨obligation, [], now⟩ inputs := by
  obtain ⟨hreckoned, hpos, hprincipal, hinterest, hfees, hpending, hcreated⟩ :=
    createAcceptedOfferObligation_reckoned haccepted
  have hrepaid : obligation.totalRepaidMinor = 0 := by
    simp only [createAcceptedOfferObligation, bind_eq_ok, pure_eq_ok] at haccepted
    obtain ⟨_, _, rfl⟩ := haccepted
    rfl
  refine Run.steps_iff_steps (I := Serviceable) (fun t input ht hclock _ ↦ ht.step hclock)
    (fun t input ht hclock ↦ ht.respects_iff hclock) inputs ⟨hreckoned, iff_of_false ?_ ?_,
      hrepaid.ge, fun hstatus ↦ ?_, .inl ⟨hpending, hcreated⟩, fun hstatus ↦ ?_,
      fun hstatus ↦ ?_⟩ htimes
  · rw [hcreated]
    decide
  · rw [totalOutstanding]
    dsimp only
    omega
  · rw [hcreated] at hstatus
    cases hstatus
  · rw [hcreated] at hstatus
    exact absurd hstatus (by decide)
  · rw [hcreated] at hstatus
    cases hstatus

end Runs

namespace SandboxSample

/-- The loan of the sample, up to `inputs`. -/
def after (inputs : List SandboxInput) : SandboxState (List ℕ) :=
  Run.run (sandboxStep hashId) ⟨obligation, [], 0⟩ inputs

/-- Nothing is paid until the first row is 95 days past due, and then just that row. -/
def lateInputs : List SandboxInput :=
  [⟨0, .execute adapterReceipt⟩, ⟨125 * dayMs, .advance "worker"⟩]

/-- The payment of that row. -/
def latePayment : SandboxInput := ⟨125 * dayMs, .repay 625 .syntheticBank "payer"⟩

/-- Servicing of the loan that is written off. -/
def afterLoss : SandboxInput := ⟨201 * dayMs, .advance "worker"⟩

end SandboxSample

/-- The loan that is written off in the end respects the state machine. -/
theorem servicing_respects_loss :
    Run.Steps (sandboxStep SandboxSample.hashId) (Respects SandboxSample.hashId)
        ⟨SandboxSample.obligation, [], 0⟩ SandboxSample.inputs ∧
      (SandboxSample.after SandboxSample.inputs).obligation.status = .writtenOff := by
  refine ⟨(servicing_respects_iff SandboxSample.accepted SandboxSample.inputs ?_).2 ?_,
    by decide +kernel⟩
  · refine ⟨?_, ?_, ?_, ?_, ?_, ?_, ?_, trivial⟩ <;> decide +kernel
  · refine ⟨fun _ ↦ id, fun _ hleaves ↦ ?_, fun _ hleaves ↦ ?_, fun _ ↦ id, fun _ hleaves ↦ ?_,
      fun _ hleaves ↦ ?_, fun _ ↦ id, trivial⟩
    · exact absurd hleaves.1 (by decide +kernel)
    · rw [LeavesList] at hleaves
      exact absurd hleaves (by decide +kernel)
    · exact absurd hleaves.1 (by decide +kernel)
    · rw [LeavesList] at hleaves
      exact absurd hleaves (by decide +kernel)

/-- Servicing takes the loan that is written off back to defaulted, and it is written off again,
with the loss of 500 posted twice; and a payment takes a defaulted loan back to delinquent. -/
theorem servicing_leaves_machine :
    ¬ Run.Steps (sandboxStep SandboxSample.hashId) (Respects SandboxSample.hashId)
        ⟨SandboxSample.obligation, [], 0⟩ (SandboxSample.inputs ++ [SandboxSample.afterLoss]) ∧
      (let s := SandboxSample.after (SandboxSample.inputs ++ [SandboxSample.afterLoss])
        let t := SandboxSample.after (SandboxSample.inputs ++ [SandboxSample.afterLoss,
          ⟨201 * dayMs, .writeOff SandboxSample.context⟩])
        s.obligation.status = .defaulted ∧ t.obligation.status = .writtenOff ∧
          posted SandboxSample.hashId t .writeOffLoss = 1000) ∧
      (SandboxSample.after SandboxSample.lateInputs).obligation.status = .defaulted ∧
      (SandboxSample.after
        (SandboxSample.lateInputs ++ [SandboxSample.latePayment])).obligation.status
        = .delinquent ∧
      .delinquent ∉ obligationTransitions .defaulted := by
  refine ⟨fun hsteps ↦ ?_, by decide +kernel, by decide +kernel, by decide +kernel, by decide⟩
  obtain ⟨_, _, _, _, _, _, _, hlast, _⟩ := hsteps
  exact absurd hlast.listed (by decide +kernel)

end Credit
end IpoOne
