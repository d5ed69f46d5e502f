import IpoOne.Credit.Record
import Mathlib

/-!
# The schedule of an obligation

The loops over the rows of a schedule that both rails of credit have: interest is added to the first
row that is not paid, a payment is spread over the rows from the first on, and every row then gets
the status its amounts give it.

`outstanding` is what a schedule says is still owed of one component.  The lemmas say how each loop
changes it, and that a payment of no more than that is always spread completely.
-/

set_option autoImplicit false

namespace IpoOne
namespace Credit

variable {H : Type}

/-- The component of a row that `allocateAcrossInstallments` is asked for. -/
inductive Component where
  | fee
  | interest
  | principal
  deriving DecidableEq, Repr

namespace Component

/-- What a row schedules of a component. -/
def scheduled : Component → Installment H → ℤ
  | fee, row => row.scheduledFeeMinor
  | interest, row => row.scheduledInterestMinor
  | principal, row => row.scheduledPrincipalMinor

/-- What a row was paid of a component. -/
def paid : Component → Installment H → ℤ
  | fee, row => row.paidFeeMinor
  | interest, row => row.paidInterestMinor
  | principal, row => row.paidPrincipalMinor

/-- Pays a row's component. -/
def pay : Component → Installment H → ℤ → Installment H
  | fee, row, applied => { row with paidFeeMinor := row.paidFeeMinor + applied }
  | interest, row, applied => { row with paidInterestMinor := row.paidInterestMinor + applied }
  | principal, row, applied => { row with paidPrincipalMinor := row.paidPrincipalMinor + applied }

/-- What a row still asks for. -/
def due (c : Component) (row : Installment H) : ℤ := c.scheduled row - c.paid row

end Component

/-- The loop of `allocateAcrossInstallments`, with what is left in the end. -/
def allocateRows (component : Component) : List (Installment H) → ℤ → List (Installment H) × ℤ
  | [], remaining => ([], remaining)
  | row :: rest, remaining =>
    if remaining = 0 then (row :: rest, 0)
    else
      let applied := min remaining (component.scheduled row - component.paid row)
      let (rows, left) := allocateRows component rest (remaining - applied)
      (component.pay row applied :: rows, left)

/-- The interest that has accrued goes to the first row that is not paid, or else to the last. -/
def addInterest (interestAccrued : ℤ) : List (Installment H) → List (Installment H)
  | [] => []
  | row :: rest =>
    if row.status ≠ .paid ∨ rest = [] then
      { row with scheduledInterestMinor := row.scheduledInterestMinor + interestAccrued } :: rest
    else row :: addInterest interestAccrued rest

/-- The status a row has by what is paid of it. -/
def rowStatus (row : Installment H) : InstallmentStatus :=
  let scheduled :=
    row.scheduledPrincipalMinor + row.scheduledInterestMinor + row.scheduledFeeMinor
  let paid := row.paidPrincipalMinor + row.paidInterestMinor + row.paidFeeMinor
  if paid = 0 then .scheduled else if paid = scheduled then .paid else .partlyPaid

/-- Every row gets the status it has by what is paid of it. -/
def updateStatuses (rows : List (Installment H)) : List (Installment H) :=
  rows.map fun row ↦ { row with status := rowStatus row }

/-! ## What a schedule asks for -/

/-- What is still owed of a component, according to the schedule. -/
def outstanding (c : Component) (rows : List (Installment H)) : ℤ := (rows.map c.due).sum

/-- Nothing has been paid that was not asked for. -/
def WithinSchedule (rows : List (Installment H)) : Prop :=
  ∀ row ∈ rows, ∀ c : Component, 0 ≤ c.paid row ∧ c.paid row ≤ c.scheduled row

section Rows

variable {c d : Component} {row : Installment H} {rows : List (Installment H)} {amount : ℤ}

@[simp] theorem outstanding_nil : outstanding c ([] : List (Installment H)) = 0 := rfl

@[simp] theorem outstanding_cons :
    outstanding c (row :: rows) = c.due row + outstanding c rows := by
  rw [outstanding, List.map_cons, List.sum_cons, outstanding]

theorem withinSchedule_cons :
    WithinSchedule (row :: rows) ↔
      (∀ c : Component, 0 ≤ c.paid row ∧ c.paid row ≤ c.scheduled row) ∧ WithinSchedule rows :=
  List.forall_mem_cons

theorem WithinSchedule.outstanding_nonneg (h : WithinSchedule rows) (c : Component) :
    0 ≤ outstanding c rows := by
  refine List.sum_nonneg fun x hx ↦ ?_
  obtain ⟨row, hrow, rfl⟩ := List.mem_map.1 hx
  exact Int.sub_nonneg_of_le (h row hrow c).2

theorem scheduled_pay (applied : ℤ) : d.scheduled (c.pay row applied) = d.scheduled row := by
  cases c <;> cases d <;> rfl

theorem paid_pay_self (applied : ℤ) : c.paid (c.pay row applied) = c.paid row + applied := by
  cases c <;> rfl

theorem paid_pay_of_ne (h : d ≠ c) (applied : ℤ) :
    d.paid (c.pay row applied) = d.paid row := by
  cases c <;> cases d <;> first | rfl | exact absurd rfl h

/-- **A payment takes off the schedule what is not left of it.** -/
theorem outstanding_allocateRows (rows : List (Installment H)) (amount : ℤ) :
    outstanding c (allocateRows c rows amount).1 + amount
      = outstanding c rows + (allocateRows c rows amount).2 := by
  induction rows generalizing amount with
  | nil => rfl
  | cons row rest ih =>
    rw [allocateRows]
    split
    · rename_i h0
      rw [h0]
    · have hrest := ih (amount - min amount (c.scheduled row - c.paid row))
      simp only [outstanding_cons, Component.due, scheduled_pay, paid_pay_self]
      omega

/-- The other components are not touched. -/
theorem outstanding_allocateRows_of_ne (h : d ≠ c) (rows : List (Installment H)) (amount : ℤ) :
    outstanding d (allocateRows c rows amount).1 = outstanding d rows := by
  induction rows generalizing amount with
  | nil => rfl
  | cons row rest ih =>
    rw [allocateRows]
    split
    · rfl
    · simp only [outstanding_cons, Component.due, scheduled_pay, paid_pay_of_ne h, ih]

/-- **A payment of no more than what is owed is spread completely**, and within the schedule. -/
theorem allocateRows_complete (h : WithinSchedule rows) (hpos : 0 ≤ amount)
    (hle : amount ≤ outstanding c rows) :
    (allocateRows c rows amount).2 = 0 ∧ WithinSchedule (allocateRows c rows amount).1 := by
  induction rows generalizing amount with
  | nil =>
    have h0 : amount = 0 := le_antisymm hle hpos
    exact ⟨h0, h⟩
  | cons row rest ih =>
    obtain ⟨hrow, hrest⟩ := withinSchedule_cons.1 h
    have hc := hrow c
    rw [outstanding_cons, Component.due] at hle
    rw [allocateRows]
    split
    · exact ⟨rfl, h⟩
    · have hnonneg := hrest.outstanding_nonneg c
      have hpos' : 0 ≤ amount - min amount (c.scheduled row - c.paid row) := by omega
      obtain ⟨hleft, hwithin⟩ := ih hrest hpos' (by omega)
      refine ⟨hleft, withinSchedule_cons.2 ⟨fun d ↦ ?_, hwithin⟩⟩
      rw [scheduled_pay]
      by_cases hd : d = c
      · subst hd
        rw [paid_pay_self]
        omega
      · rw [paid_pay_of_ne hd]
        exact hrow d

theorem outstanding_updateStatuses (rows : List (Installment H)) :
    outstanding c (updateStatuses rows) = outstanding c rows := by
  rw [outstanding, updateStatuses, List.map_map, outstanding]
  refine congrArg List.sum (List.map_congr_left fun row _ ↦ ?_)
  cases c <;> rfl

theorem withinSchedule_updateStatuses (h : WithinSchedule rows) :
    WithinSchedule (updateStatuses rows) := by
  intro row hrow c
  obtain ⟨row, hmem, rfl⟩ := List.mem_map.1 hrow
  cases c
  · exact h row hmem .fee
  · exact h row hmem .interest
  · exact h row hmem .principal

theorem outstanding_addInterest (hrows : rows ≠ []) (amount : ℤ) :
    outstanding .interest (addInterest amount rows) = outstanding .interest rows + amount := by
  induction rows with
  | nil => exact absurd rfl hrows
  | cons row rest ih =>
    rw [addInterest]
    split
    · simp only [outstanding_cons, Component.due, Component.scheduled, Component.paid]
      omega
    · rename_i hnext
      rw [outstanding_cons, outstanding_cons, ih fun hnil ↦ hnext (.inr hnil)]
      omega

theorem outstanding_addInterest_of_ne (h : d ≠ .interest) (rows : List (Installment H))
    (amount : ℤ) : outstanding d (addInterest amount rows) = outstanding d rows := by
  induction rows with
  | nil => rfl
  | cons row rest ih =>
    rw [addInterest]
    split
    · cases d
      · rfl
      · exact absurd rfl h
      · rfl
    · rw [outstanding_cons, outstanding_cons, ih]

theorem withinSchedule_addInterest (h : WithinSchedule rows) (hpos : 0 ≤ amount) :
    WithinSchedule (addInterest amount rows) := by
  induction rows with
  | nil => exact h
  | cons row rest ih =>
    obtain ⟨hrow, hrest⟩ := withinSchedule_cons.1 h
    rw [addInterest]
    split
    · refine withinSchedule_cons.2 ⟨fun c ↦ ?_, hrest⟩
      have hc := hrow c
      cases c <;> simp only [Component.paid, Component.scheduled] at hc ⊢ <;> omega
    · exact withinSchedule_cons.2 ⟨hrow, ih hrest⟩

theorem allocateRows_ne_nil (hrows : rows ≠ []) (amount : ℤ) :
    (allocateRows c rows amount).1 ≠ [] := by
  cases rows with
  | nil => exact hrows
  | cons row rest =>
    rw [allocateRows]
    split <;> exact List.cons_ne_nil _ _

theorem addInterest_ne_nil (hrows : rows ≠ []) (amount : ℤ) : addInterest amount rows ≠ [] := by
  cases rows with
  | nil => exact hrows
  | cons row rest =>
    rw [addInterest]
    split <;> exact List.cons_ne_nil _ _

/-- **A schedule asks for nothing exactly if every row is paid in full.** -/
theorem WithinSchedule.outstanding_eq_zero_iff (h : WithinSchedule rows) :
    outstanding c rows = 0 ↔ ∀ row ∈ rows, c.paid row = c.scheduled row := by
  induction rows with
  | nil => exact iff_of_true rfl (List.forall_mem_nil _)
  | cons row rest ih =>
    obtain ⟨hrow, hrest⟩ := withinSchedule_cons.1 h
    have hc := hrow c
    have hnonneg := hrest.outstanding_nonneg c
    rw [outstanding_cons, Component.due, List.forall_mem_cons, ← ih hrest]
    omega

end Rows

end Credit
end IpoOne
