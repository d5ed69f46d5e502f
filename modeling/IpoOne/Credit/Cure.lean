import IpoOne.Credit.Additivity

/-!
# Cures

A payment of an obligation that is late cures it where everything that is past due is paid.
`applySandboxServicingAfterRepayment` asks something else: that the days past due come to 0, and
these are whole days.

`cured_iff` says when a cure leaves nothing overdue: unless something is overdue by less than a day
and nothing by more.
-/

set_option autoImplicit false

namespace IpoOne
namespace Credit

open Fallible

section Cure

variable {H : Type}

/-- Something is overdue, and nothing by a day. -/
def OverdueWithinADay (rows : List (Installment H)) (now : ℕ) : Prop :=
  (∃ row ∈ rows, 0 < installmentOutstandingMinor row ∧ row.dueAt < now) ∧
    ∀ row ∈ rows, 0 < installmentOutstandingMinor row → now < row.dueAt + dayMs

instance (rows : List (Installment H)) (now : ℕ) : Decidable (OverdueWithinADay rows now) :=
  inferInstanceAs (Decidable (_ ∧ _))

/-- A cure leaves no row that was due before `now` unpaid. -/
def CureSettles (next : Obligation H) (now : ℕ) : Prop :=
  next.servicingClassification = .cured →
    ∀ row ∈ next.installments, row.dueAt < now → ¬ 0 < installmentOutstandingMinor row

theorem dueDays_eq_zero {row : Installment H} {now : ℕ} :
    dueDays row now = 0 ↔ now < row.dueAt + dayMs := by
  have hday : 0 < dayMs := by decide
  rw [dueDays, Nat.div_eq_zero_iff_lt hday]
  omega

instance (next : Obligation H) (now : ℕ) : Decidable (CureSettles next now) :=
  inferInstanceAs (Decidable (_ → _))

/-- What is overdue shows in the oldest unpaid row. -/
theorem overdueWithinADay_iff {rows : List (Installment H)} {oldest : Installment H} {now : ℕ}
    (h : oldestUnpaid rows = some oldest) :
    OverdueWithinADay rows now ↔ oldest.dueAt < now ∧ dueDays oldest now = 0 := by
  obtain ⟨hmem, hpos⟩ := oldestUnpaid_eq_some h
  rw [dueDays_eq_zero]
  constructor
  · rintro ⟨⟨row, hrow, hunpaid, hlate⟩, hday⟩
    exact ⟨(oldestUnpaid_le h hrow hunpaid).trans_lt hlate, hday oldest hmem hpos⟩
  · rintro ⟨hlate, hday⟩
    refine ⟨⟨oldest, hmem, hpos, hlate⟩, fun row hrow hunpaid ↦ ?_⟩
    have := oldestUnpaid_le h hrow hunpaid
    omega

/-- Nothing that is unpaid is overdue. -/
theorem not_overdue {rows : List (Installment H)} {oldest : Option (Installment H)} {now : ℕ}
    (h : oldestUnpaid rows = oldest) (htimely : ∀ row ∈ oldest, now ≤ row.dueAt)
    {row : Installment H} (hrow : row ∈ rows) (hlate : row.dueAt < now) :
    ¬ 0 < installmentOutstandingMinor row := by
  intro hunpaid
  cases oldest with
  | none =>
    have := oldestUnpaid_eq_none h hrow
    omega
  | some oldest =>
    have := htimely oldest rfl
    have := oldestUnpaid_le h hrow hunpaid
    omega

/-- **When a cure leaves nothing overdue.**  A delinquent or defaulted obligation is repaid and
serviced: if that cures it then nothing that was due before is unpaid, exactly if it is not the case
that something is overdue and nothing by a day. -/
theorem cured_iff {previous repaid next : Obligation H} {actorId : String} {now : ℕ}
    (hadverse : previous.status ∈ [.delinquent, .defaulted])
    (h : applySandboxServicingAfterRepayment previous repaid actorId now = .ok next) :
    CureSettles next now ↔ ¬ OverdueWithinADay repaid.installments now := by
  have hwas : wasAdverse previous := .inl hadverse
  obtain ⟨derived, _, hderivation, _, hnext⟩ := applySandboxServicingAfterRepayment_ok h
  cases hderivation with
  | current oldest found timely eq =>
    -- nothing is overdue at all
    refine iff_of_true (fun _ row hrow hlate ↦ ?_) ?_
    · have hrows : next.installments = repaid.installments := by
        rcases hnext with ⟨_, rfl⟩ | ⟨_, _, rfl⟩ <;> rfl
      rw [hrows] at hrow
      exact not_overdue found timely hrow hlate
    · rintro ⟨⟨row, hrow, hunpaid, hlate⟩, _⟩
      exact not_overdue found timely hrow hlate hunpaid
  | pastDue oldest found late eq =>
    have hdays : derived.daysPastDue = dueDays oldest now := by
      rw [eq]
      rfl
    rw [overdueWithinADay_iff found, ← hdays]
    rcases hnext with ⟨hnot, rfl⟩ | ⟨_, hzero, rfl⟩
    · -- it is not cured, as it is late by a day
      refine iff_of_true (fun hcured ↦ ?_) fun hday ↦ hnot ⟨hwas, hday.2⟩
      have hclass : classificationForDpd ((now - oldest.dueAt) / dayMs) = .cured := by
        rw [eq] at hcured
        exact hcured
      rw [classificationForDpd] at hclass
      split_ifs at hclass
    · -- it is cured, and the oldest row is overdue
      obtain ⟨hmem, hpos⟩ := oldestUnpaid_eq_some found
      exact iff_of_false (fun hsettles ↦ hsettles rfl oldest hmem late hpos)
        fun hnot ↦ hnot ⟨late, hzero⟩

end Cure

namespace SandboxSample

/-- The loan of the sample, an hour after its first row was due. -/
def hourLate : ℕ := 30 * dayMs + 3600000

/-- The loan is paid out, and advanced an hour after its row fell due. -/
def hourLateInputs : List SandboxInput :=
  [⟨0, .execute adapterReceipt⟩, ⟨hourLate, .advance "worker"⟩]

/-- The loan that is an hour late. -/
def hourLateLoan : Obligation (List ℕ) := (after hourLateInputs).obligation

end SandboxSample

/-- The first row and the interest of 30 days are paid an hour late, which settles what is due. -/
theorem cured_iff_settled :
    ∃ result, postSandboxRepayment SandboxSample.hashId SandboxSample.hourLateLoan 530
      .syntheticBank
        "payer" SandboxSample.hourLate = .ok result ∧
      result.obligation.servicingClassification = .cured ∧
      CureSettles result.obligation SandboxSample.hourLate := by
  have hok : (postSandboxRepayment SandboxSample.hashId SandboxSample.hourLateLoan 530
      .syntheticBank "payer" SandboxSample.hourLate).isOk = true := by decide +kernel
  obtain ⟨result, hresult⟩ := isOk_iff.1 hok
  have hcured : (postSandboxRepayment SandboxSample.hashId SandboxSample.hourLateLoan 530
      .syntheticBank "payer" SandboxSample.hourLate).map
      (fun result ↦ (result.obligation.servicingClassification,
        decide (OverdueWithinADay result.obligation.installments SandboxSample.hourLate)))
      = .ok (.cured, false) := by decide +kernel
  rw [hresult] at hcured
  obtain ⟨hclass, hdue⟩ := Prod.mk.inj (Except.ok.inj hcured)
  obtain ⟨accrual, hrepaid⟩ := postSandboxRepayment_ok hresult
  refine ⟨result, hresult, hclass, (cured_iff (by decide +kernel) hrepaid.serviced).2 ?_⟩
  obtain ⟨_, _, _, _, hrows⟩ := hrepaid.books
  have hnot := of_decide_eq_false hdue
  rw [hrows] at hnot
  exact hnot

/-- An hour late, the loan is delinquent; a payment of 1 cures it, and 529 are still overdue. -/
theorem cured_while_overdue :
    SandboxSample.hourLateLoan.status = .delinquent ∧
      ∃ result, postSandboxRepayment SandboxSample.hashId SandboxSample.hourLateLoan 1
          .syntheticBank "payer" SandboxSample.hourLate = .ok result ∧
        result.obligation.servicingClassification = .cured ∧
        (∃ row ∈ result.obligation.installments, row.dueAt < SandboxSample.hourLate ∧
          installmentOutstandingMinor row = 529) ∧
        ¬ CureSettles result.obligation SandboxSample.hourLate := by
  refine ⟨by decide +kernel, ?_⟩
  have hok : (postSandboxRepayment SandboxSample.hashId SandboxSample.hourLateLoan 1
      .syntheticBank "payer" SandboxSample.hourLate).isOk = true := by decide +kernel
  obtain ⟨result, hresult⟩ := isOk_iff.1 hok
  have hfacts : (postSandboxRepayment SandboxSample.hashId SandboxSample.hourLateLoan 1
      .syntheticBank "payer" SandboxSample.hourLate).map
      (fun result ↦ decide (result.obligation.servicingClassification = .cured ∧
        (∃ row ∈ result.obligation.installments, row.dueAt < SandboxSample.hourLate ∧
          installmentOutstandingMinor row = 529) ∧
        ¬ CureSettles result.obligation SandboxSample.hourLate)) = .ok true := by decide +kernel
  rw [hresult] at hfacts
  exact ⟨result, hresult, of_decide_eq_true (Except.ok.inj hfacts)⟩

end Credit
end IpoOne
