import IpoOne.Credit.Servicing

/-!
# Interest by whole days

`accrueSimpleInterest` counts whole days since the last accrual and divides by the days of a year,
and it carries both what is left of the day and what is left of the division.  So it does not matter
how often an obligation is touched on the way:

* `accrue_then_accrue` — an accrual before another one changes nothing.
* `accrual_path_independent` — nor does a whole sequence of them.
-/

set_option autoImplicit false

namespace IpoOne
namespace Credit

open Fallible

/-! ## Carrying what is left -/

section Carry

variable {d r x y : ℤ}

theorem tmod_carry (hr : 0 ≤ r) (hx : 0 ≤ x) (hy : 0 ≤ y) :
    ((r + x).tmod d + y).tmod d = (r + (x + y)).tmod d := by
  have hrest : 0 ≤ (r + x).tmod d := Int.tmod_nonneg _ (by omega)
  rw [Int.tmod_eq_emod_of_nonneg (by omega), Int.tmod_eq_emod_of_nonneg (by omega),
    Int.tmod_eq_emod_of_nonneg (by omega), Int.emod_add_emod, add_assoc]

theorem tdiv_carry (hr : 0 ≤ r) (hx : 0 ≤ x) (hy : 0 ≤ y) (hd : 0 < d) :
    (r + x).tdiv d + ((r + x).tmod d + y).tdiv d = (r + (x + y)).tdiv d := by
  have h₁ := Int.mul_tdiv_add_tmod (r + x) d
  have h₂ := Int.mul_tdiv_add_tmod ((r + x).tmod d + y) d
  have h₃ := Int.mul_tdiv_add_tmod (r + (x + y)) d
  rw [tmod_carry hr hx hy] at h₂
  have hsum : d * ((r + x).tdiv d + ((r + x).tmod d + y).tdiv d) = d * (r + (x + y)).tdiv d := by
    rw [Int.mul_add]
    omega
  exact Int.eq_of_mul_eq_mul_left hd.ne' hsum

end Carry

/-- Whole units counted from where whole units were counted to before. -/
theorem div_carry {s t u d : ℕ} (hd : 0 < d) (hst : s ≤ t) (htu : t ≤ u) :
    (t - s) / d + (u - (s + (t - s) / d * d)) / d = (u - s) / d := by
  have hle := Nat.div_mul_le_self (t - s) d
  have hsplit : u - s = u - (s + (t - s) / d * d) + (t - s) / d * d := by omega
  rw [hsplit, Nat.add_mul_div_right _ _ hd, add_comm]

section Accrual

variable {H : Type} {obligation : Obligation H}

/-! ## What an accrual comes to -/

/-- What is divided by the days of a year. -/
def accrualNumerator (obligation : Obligation H) (elapsedDays : ℕ) : ℤ :=
  obligation.interestAccrualRemainder
    + obligation.outstandingPrincipalMinor * obligation.annualRateBps * elapsedDays

/-- The obligation with interest credited to it. -/
def credited (obligation : Obligation H) (interest remainder : ℤ) (lastAccruedAt now : ℕ) :
    Obligation H :=
  { obligation with
    accruedInterestMinor := obligation.accruedInterestMinor + interest
    outstandingInterestMinor := obligation.outstandingInterestMinor + interest
    interestAccrualRemainder := remainder
    lastAccruedAt := some lastAccruedAt
    installments :=
      if 0 < interest then addInterest interest obligation.installments else obligation.installments
    updatedAt := now }

/-- What an accrual since `start` returns. -/
def accruedSince (obligation : Obligation H) (start now : ℕ) : SimpleAccrual H :=
  let elapsedDays := (now - start) / dayMs
  let accruedInterest := (accrualNumerator obligation elapsedDays).tdiv actual365Denominator
  { obligation := credited obligation accruedInterest
      ((accrualNumerator obligation elapsedDays).tmod actual365Denominator)
      (start + elapsedDays * dayMs) now
    elapsedDays
    accruedInterestMinor := accruedInterest }

/-- Interest that has nowhere to go. -/
def noInstallments : DomainError where
  code := "TypeError"
  message := "Cannot read properties of undefined (reading 'scheduledInterestMinor')"

/-- The conditions under which interest accrues since `start`. -/
structure AccruesFrom (obligation : Obligation H) (start : ℕ) : Prop where
  sandboxOnly : obligation.sandboxOnly = true
  productionFundsMoved : obligation.productionFundsMoved = false
  executed : obligation.executionStatus = .executed
  lastAccruedAt : obligation.lastAccruedAt = some start
  remainder_nonneg : 0 ≤ obligation.interestAccrualRemainder
  remainder_lt : obligation.interestAccrualRemainder < actual365Denominator

variable {start now : ℕ}

theorem AccruesFrom.accrueSimpleInterest (h : AccruesFrom obligation start) (hnow : start ≤ now) :
    accrueSimpleInterest obligation now =
      if 0 < (accruedSince obligation start now).accruedInterestMinor ∧
          obligation.installments = [] then .error noInstallments
      else .ok (accruedSince obligation start now) := by
  obtain ⟨honly, hmoved, hexecuted, hlast, hnonneg, hlt⟩ := h
  have hshared : assertSharedObligation obligation = .ok () := by
    rw [assertSharedObligation, throwIf_eq_ok]
    simp [honly, hmoved]
  have hremainder : ¬ (obligation.interestAccrualRemainder < 0 ∨
      actual365Denominator ≤ obligation.interestAccrualRemainder) := by omega
  unfold Credit.accrueSimpleInterest
  rw [hshared, hexecuted, hlast]
  simp only [throwIf, failIf, if_neg (not_lt.2 hnow), if_neg hremainder, bind, Except.bind]
  split
  · rename_i e he
    split at he
    · rename_i hrows
      rw [← Except.error.inj he]
      exact (if_pos hrows).symm
    · cases he
  · rename_i he
    split at he
    · cases he
    · rename_i hrows
      rw [if_neg (show ¬ (0 < (accruedSince obligation start now).accruedInterestMinor ∧
        obligation.installments = []) from hrows), ← hexecuted]
      rfl

theorem AccruesFrom.eq_ok_iff (h : AccruesFrom obligation start) (hnow : start ≤ now)
    {accrual : SimpleAccrual H} :
    Credit.accrueSimpleInterest obligation now = .ok accrual ↔
      (0 < (accruedSince obligation start now).accruedInterestMinor →
        obligation.installments ≠ []) ∧ accrual = accruedSince obligation start now := by
  rw [h.accrueSimpleInterest hnow]
  split
  · rename_i hrows
    exact iff_of_false nofun fun hok ↦ hok.1 hrows.1 hrows.2
  · rename_i hrows
    refine ⟨fun hok ↦ ⟨fun hpos hnil ↦ hrows ⟨hpos, hnil⟩, (Except.ok.inj hok).symm⟩, ?_⟩
    rintro ⟨_, rfl⟩
    rfl

theorem accrues_of_ok {accrual : SimpleAccrual H}
    (h : accrueSimpleInterest obligation now = .ok accrual) :
    ∃ start, start ≤ now ∧ AccruesFrom obligation start := by
  simp only [accrueSimpleInterest, assertSharedObligation, bind_eq_ok, throwIf_eq_ok, pure_eq_ok,
    not_or, not_not, not_lt, not_le] at h
  obtain ⟨_, ⟨honly, hmoved⟩, start, hstart, _, hnow, _, ⟨hnonneg, hlt⟩, _, hrows, rfl⟩ := h
  split at hstart
  · rename_i hexecuted hlast
    cases hstart
    exact ⟨start, hnow, honly, hmoved, hexecuted, hlast, hnonneg, hlt⟩
  · cases hstart

/-! ## One accrual before another -/

/-- An accrual that is carried out leaves an obligation that accrues from where it got to. -/
theorem AccruesFrom.after (h : AccruesFrom obligation start)
    (hprincipal : 0 ≤ obligation.outstandingPrincipalMinor)
    (now : ℕ) :
    AccruesFrom (accruedSince obligation start now).obligation
      (start + (now - start) / dayMs * dayMs) := by
  have hnumerator : 0 ≤ accrualNumerator obligation ((now - start) / dayMs) := by
    have := Int.mul_nonneg (Int.mul_nonneg hprincipal (Int.natCast_nonneg obligation.annualRateBps))
      (Int.natCast_nonneg ((now - start) / dayMs))
    have := h.remainder_nonneg
    rw [accrualNumerator]
    omega
  exact ⟨h.sandboxOnly, h.productionFundsMoved, h.executed, rfl, Int.tmod_nonneg _ hnumerator,
    Int.tmod_lt_of_pos _ (by decide)⟩

theorem addInterest_addInterest (x y : ℤ) (rows : List (Installment H)) :
    addInterest y (addInterest x rows) = addInterest (x + y) rows := by
  induction rows with
  | nil => rfl
  | cons row rest ih =>
    by_cases hrow : row.status ≠ .paid ∨ rest = []
    · rw [addInterest, if_pos hrow, addInterest, if_pos hrow, addInterest, if_pos hrow,
        Int.add_assoc]
    · have hrest : addInterest x rest ≠ [] := addInterest_ne_nil (fun hnil ↦ hrow (.inr hnil)) x
      rw [addInterest, if_neg hrow, addInterest, if_neg (by tauto), ih, addInterest, if_neg hrow]

theorem credited_installments_eq_nil (interest remainder : ℤ) (last now : ℕ) :
    (credited obligation interest remainder last now).installments = [] ↔
      obligation.installments = [] := by
  rw [credited]
  split
  · refine ⟨fun h ↦ by_contra fun hne ↦ addInterest_ne_nil hne interest h, fun h ↦ ?_⟩
    rw [h, addInterest]
  · rfl

/-- Interest credited twice is credited once. -/
theorem credited_credited {x y : ℤ} (hx : 0 ≤ x) (hy : 0 ≤ y) (r s : ℤ) (first last t now : ℕ) :
    credited (credited obligation x r first t) y s last now
      = credited obligation (x + y) s last now := by
  have hrows : (credited (credited obligation x r first t) y s last now).installments
      = (credited obligation (x + y) s last now).installments := by
    simp only [credited]
    rcases hx.eq_or_lt with rfl | hx
    · simp only [lt_irrefl, if_false, zero_add]
    · rcases hy.eq_or_lt with rfl | hy
      · simp only [lt_irrefl, if_false, add_zero]
      · rw [if_pos hy, if_pos hx, if_pos (by omega), addInterest_addInterest]
  simp only [credited] at hrows ⊢
  rw [hrows, Int.add_assoc, Int.add_assoc]

/-- What two accruals in a row come to is what one of them comes to. -/
theorem accruedInterest_carry (h : AccruesFrom obligation start)
    (hprincipal : 0 ≤ obligation.outstandingPrincipalMinor) {t : ℕ} (ht : start ≤ t)
    (hnow : t ≤ now) :
    let first := accruedSince obligation start t
    let second := accruedSince first.obligation (start + (t - start) / dayMs * dayMs) now
    let once := accruedSince obligation start now
    first.accruedInterestMinor + second.accruedInterestMinor = once.accruedInterestMinor ∧
      second.obligation.interestAccrualRemainder = once.obligation.interestAccrualRemainder ∧
      0 ≤ first.accruedInterestMinor ∧ 0 ≤ second.accruedInterestMinor := by
  intro first second once
  have hdays := div_carry (d := dayMs) (by decide) ht hnow
  have hrate : 0 ≤ obligation.outstandingPrincipalMinor * obligation.annualRateBps :=
    Int.mul_nonneg hprincipal (Int.natCast_nonneg _)
  have hx := Int.mul_nonneg hrate (Int.natCast_nonneg ((t - start) / dayMs))
  have hy := Int.mul_nonneg hrate
    (Int.natCast_nonneg ((now - (start + (t - start) / dayMs * dayMs)) / dayMs))
  have hr := h.remainder_nonneg
  have hrest := Int.tmod_nonneg actual365Denominator (Int.add_nonneg hr hx)
  have hsum := Int.mul_add (obligation.outstandingPrincipalMinor * obligation.annualRateBps)
    ((t - start) / dayMs : ℕ) ((now - (start + (t - start) / dayMs * dayMs)) / dayMs : ℕ)
  rw [← Int.natCast_add, hdays] at hsum
  refine ⟨?_, ?_, Int.tdiv_nonneg (Int.add_nonneg hr hx) (by decide),
    Int.tdiv_nonneg (Int.add_nonneg hrest hy) (by decide)⟩
  · have hcarry := tdiv_carry (d := actual365Denominator) hr hx hy (by decide)
    rw [← hsum] at hcarry
    exact hcarry
  · have hcarry := tmod_carry (d := actual365Denominator) hr hx hy
    rw [← hsum] at hcarry
    exact hcarry

/-- **Two accruals are one.** -/
theorem accruedSince_accruedSince (h : AccruesFrom obligation start)
    (hprincipal : 0 ≤ obligation.outstandingPrincipalMinor) {t : ℕ} (ht : start ≤ t)
    (hnow : t ≤ now) :
    (accruedSince (accruedSince obligation start t).obligation
        (start + (t - start) / dayMs * dayMs) now).obligation
      = (accruedSince obligation start now).obligation := by
  obtain ⟨hinterest, hremainder, hfirst, hsecond⟩ := accruedInterest_carry h hprincipal ht hnow
  have hlast : start + (t - start) / dayMs * dayMs
      + (now - (start + (t - start) / dayMs * dayMs)) / dayMs * dayMs
        = start + (now - start) / dayMs * dayMs := by
    rw [Nat.add_assoc, ← Nat.add_mul, div_carry (by decide) ht hnow]
  refine (credited_credited hfirst hsecond _ _ _ _ _ _).trans ?_
  rw [hinterest, hlast]
  exact congrArg (credited obligation _ · _ _) hremainder

/-! ## Sequences of accruals -/

/-- Interest accrues at each of the instants in turn: the obligation in the end, and all the
interest that has accrued. -/
def accrueEach (obligation : Obligation H) : List ℕ → Domain (Obligation H × ℤ)
  | [] => pure (obligation, 0)
  | t :: rest => do
    let accrual ← accrueSimpleInterest obligation t
    let (final, total) ← accrueEach accrual.obligation rest
    pure (final, accrual.accruedInterestMinor + total)

/-- What is compared of an accrual: the obligation, and the interest that has accrued. -/
def SimpleAccrual.outcome (accrual : SimpleAccrual H) : Obligation H × ℤ :=
  (accrual.obligation, accrual.accruedInterestMinor)

/-- **One accrual before another.** -/
theorem accrue_then_accrue {t : ℕ} (hprincipal : 0 ≤ obligation.outstandingPrincipalMinor)
    (hstart : ∀ start ∈ obligation.lastAccruedAt, start ≤ t) (hnow : t ≤ now)
    (x : Obligation H × ℤ) :
    (∃ first second, accrueSimpleInterest obligation t = .ok first ∧
        accrueSimpleInterest first.obligation now = .ok second ∧
        x = (second.obligation, first.accruedInterestMinor + second.accruedInterestMinor)) ↔
      ∃ once, accrueSimpleInterest obligation now = .ok once ∧ x = once.outcome := by
  by_cases haccrues : ∃ start, AccruesFrom obligation start
  · obtain ⟨start, h⟩ := haccrues
    have ht : start ≤ t := hstart start h.lastAccruedAt
    have hlater : start + (t - start) / dayMs * dayMs ≤ now := by
      have := Nat.div_mul_le_self (t - start) dayMs
      omega
    obtain ⟨hinterest, _, hfirst, hsecond⟩ := accruedInterest_carry h hprincipal ht hnow
    have hobligation := accruedSince_accruedSince h hprincipal ht hnow
    have hnil : ∀ interest remainder last now,
        (credited obligation interest remainder last now).installments = [] ↔
          obligation.installments = [] := credited_installments_eq_nil
    constructor
    · rintro ⟨first, second, hok, hok', rfl⟩
      obtain ⟨hrows, rfl⟩ := (h.eq_ok_iff ht).1 hok
      obtain ⟨hrows', rfl⟩ := ((h.after hprincipal t).eq_ok_iff hlater).1 hok'
      refine ⟨_, (h.eq_ok_iff (ht.trans hnow)).2 ⟨fun hpos hnone ↦ ?_, rfl⟩,
        Prod.ext hobligation hinterest⟩
      have hfirst0 : ¬ 0 < (accruedSince obligation start t).accruedInterestMinor :=
        fun hlt ↦ hrows hlt hnone
      exact hrows' (by omega) ((hnil _ _ _ _).2 hnone)
    · rintro ⟨once, hok, rfl⟩
      obtain ⟨hrows, rfl⟩ := (h.eq_ok_iff (ht.trans hnow)).1 hok
      refine ⟨_, _, (h.eq_ok_iff ht).2 ⟨fun hpos ↦ hrows (by omega), rfl⟩,
        ((h.after hprincipal t).eq_ok_iff hlater).2 ⟨fun hpos hnone ↦ ?_, rfl⟩,
        Prod.ext hobligation.symm hinterest.symm⟩
      exact hrows (by omega) ((hnil _ _ _ _).1 hnone)
  · refine iff_of_false ?_ ?_
    · rintro ⟨_, _, h, _⟩
      obtain ⟨start, _, h⟩ := accrues_of_ok h
      exact haccrues ⟨start, h⟩
    · rintro ⟨_, h, _⟩
      obtain ⟨start, _, h⟩ := accrues_of_ok h
      exact haccrues ⟨start, h⟩

/-- **It does not matter how often an obligation is touched.** -/
theorem accrueEach_iff (hprincipal : 0 ≤ obligation.outstandingPrincipalMinor)
    (instants : List ℕ) (hsorted : (instants ++ [now]).Pairwise (· ≤ ·))
    (hstart : ∀ start ∈ obligation.lastAccruedAt, ∀ t ∈ instants, start ≤ t)
    (x : Obligation H × ℤ) :
    accrueEach obligation (instants ++ [now]) = .ok x ↔
      ∃ once, accrueSimpleInterest obligation now = .ok once ∧ x = once.outcome := by
  induction instants generalizing obligation x with
  | nil =>
    simp only [List.nil_append, accrueEach, bind_eq_ok, pure_eq_ok, Prod.exists, Prod.mk.injEq]
    constructor
    · rintro ⟨once, hok, _, _, ⟨rfl, rfl⟩, rfl⟩
      exact ⟨once, hok, by rw [SimpleAccrual.outcome, Int.add_zero]⟩
    · rintro ⟨once, hok, rfl⟩
      exact ⟨once, hok, _, 0, ⟨rfl, rfl⟩, by rw [SimpleAccrual.outcome, Int.add_zero]⟩
  | cons t rest ih =>
    rw [List.cons_append, List.pairwise_cons] at hsorted
    obtain ⟨hfirst, hsorted⟩ := hsorted
    have hnow : t ≤ now := hfirst now (List.mem_append_right rest (List.mem_singleton_self now))
    rw [← accrue_then_accrue hprincipal (fun start hs ↦ hstart start hs t List.mem_cons_self) hnow]
    rw [List.cons_append, accrueEach]
    simp only [bind_eq_ok, pure_eq_ok, Prod.exists]
    -- the accrual at `t` leaves the principal, and gets no further than `t`
    have hrest : ∀ {first : SimpleAccrual H}, accrueSimpleInterest obligation t = .ok first →
        ∀ y, accrueEach first.obligation (rest ++ [now]) = .ok y ↔
          ∃ once, accrueSimpleInterest first.obligation now = .ok once ∧ y = once.outcome := by
      intro first hok y
      obtain ⟨start, hle, h⟩ := accrues_of_ok hok
      obtain ⟨_, rfl⟩ := (h.eq_ok_iff hle).1 hok
      have hlater : ∀ start' ∈ (accruedSince obligation start t).obligation.lastAccruedAt,
          ∀ u ∈ rest, start' ≤ u := by
        intro start' hstart' u hu
        rw [← Option.some.inj hstart']
        have := Nat.div_mul_le_self (t - start) dayMs
        have := hfirst u (List.mem_append_left _ hu)
        omega
      exact @ih (accruedSince obligation start t).obligation hprincipal hsorted hlater y
    constructor
    · rintro ⟨first, hok, final, total, hok', rfl⟩
      obtain ⟨second, hsecond, houtcome⟩ := (hrest hok (final, total)).1 hok'
      obtain ⟨rfl, rfl⟩ := Prod.mk.inj houtcome
      exact ⟨first, second, hok, hsecond, rfl⟩
    · rintro ⟨first, second, hok, hok', rfl⟩
      exact ⟨first, hok, _, _, (hrest hok _).2 ⟨second, hok', rfl⟩, rfl⟩

end Accrual

/-! ## On the rail -/

section Runs

variable {H : Type} [DecidableEq H] {hashId : SandboxPreimage H → H}

/-- Every command keeps the totals and the rows in step. -/
theorem Reckoned.perform {obligation next : Obligation H} (h : Reckoned obligation)
    {command : SandboxCommand} {now : ℕ} {transactions : List (LedgerTransaction H)}
    (hok : perform hashId obligation now command = .ok (next, transactions)) : Reckoned next := by
  cases perform_ok hok with
  | execute call =>
    obtain ⟨_, _, _, _, _, rfl⟩ := executeSandboxObligation_ok call
    exact ⟨h.rows_ne, h.within, h.scheduled, h.fees, h.total⟩
  | repay call =>
    obtain ⟨accrual, hrepaid⟩ := postSandboxRepayment_ok call
    obtain ⟨hcurrent, _⟩ := h.accrue (accrueSimpleInterest_ok hrepaid.accrued)
    obtain ⟨hreckoned, _, derived, _, _, hnext⟩ := hrepaid.obligation_eq hcurrent
    rw [hnext]
    exact hreckoned.serviced derived now
  | advance call =>
    obtain ⟨derived, _, _, ⟨rfl, _⟩ | ⟨rfl, _⟩⟩ := advanceSandboxServicing_ok call
    · exact h
    · exact h.serviced derived now
  | restructure call =>
    obtain ⟨_, _, row, ⟨dueAt, rfl⟩, rfl⟩ := restructureSandboxObligation_ok call
    have hnext := h.reschedule hashId dueAt
    exact ⟨hnext.rows_ne, hnext.within, hnext.scheduled, hnext.fees, hnext.total⟩
  | repurchase call =>
    obtain ⟨_, _, rfl⟩ := repurchaseSandboxObligation_ok call
    exact ⟨h.rows_ne, h.within, h.scheduled, h.fees, h.total⟩
  | writeOff call post =>
    obtain ⟨_, _, _, rfl⟩ := writeOffSandboxObligation_ok call
    exact ⟨h.rows_ne, h.within, h.scheduled, h.fees, h.total⟩

/-- An obligation on the rail: what any commands make of an accepted offer. -/
inductive OnRail (hashId : SandboxPreimage H → H) (obligation : Obligation H) : Prop
  | intro {obligationId : String} {offer : CreditOffer} {now : ℕ} {accepted : Obligation H}
      (accept : createAcceptedOfferObligation hashId obligationId offer now = .ok accepted)
      (inputs : List SandboxInput)
      (run : (Run.run (sandboxStep hashId) ⟨accepted, [], now⟩ inputs).obligation = obligation)

/-- **The totals and the rows of an obligation on the rail are in step.** -/
theorem OnRail.reckoned {obligation : Obligation H} (h : OnRail hashId obligation) :
    Reckoned obligation := by
  obtain ⟨accept, inputs, rfl⟩ := h
  refine Run.run_induct (P := fun s : SandboxState H ↦ Reckoned s.obligation) ?_
    (createAcceptedOfferObligation_reckoned accept).1 inputs
  intro s input hs
  rw [sandboxStep]
  split
  · rename_i next transactions hok
    exact hs.perform hok
  · exact hs

end Runs

/-- **Simple interest does not depend on the path.**  For an obligation on the rail and instants in
order, none before its last accrual, accruing at each of them in turn comes to what accruing at the
last one comes to: the same obligation, with the same interest, remainder and last accrual, and the
same interest accrued altogether. -/
theorem accrual_path_independent {H : Type} [DecidableEq H] {hashId : SandboxPreimage H → H}
    {obligation : Obligation H} (h : OnRail hashId obligation) (instants : List ℕ) (now : ℕ)
    (hsorted : (instants ++ [now]).Pairwise (· ≤ ·))
    (hstart : ∀ start ∈ obligation.lastAccruedAt, ∀ t ∈ instants, start ≤ t)
    (final : Obligation H) (total : ℤ) :
    accrueEach obligation (instants ++ [now]) = .ok (final, total) ↔
      ∃ once, accrueSimpleInterest obligation now = .ok once ∧ final = once.obligation ∧
        total = once.accruedInterestMinor := by
  rw [accrueEach_iff (h.reckoned.owed_nonneg .principal) instants hsorted hstart]
  simp only [SimpleAccrual.outcome, Prod.mk.injEq]

namespace SandboxSample

/-- The loan of the sample, when it has been paid out. -/
def running : Obligation (List ℕ) := (after [⟨0, .execute adapterReceipt⟩]).obligation

theorem running_onRail : OnRail hashId running := ⟨accepted, _, rfl⟩

end SandboxSample

/-- Four and a half days of interest on 1000, a day and a half at a time. -/
theorem accrual_path_independent_loan :
    ∃ final total, accrueEach SandboxSample.running
      ([36 * 3600000, 72 * 3600000] ++ [108 * 3600000]) = .ok (final, total) ∧ total = 4 := by
  have hok : (accrueSimpleInterest SandboxSample.running (108 * 3600000)).isOk = true := by
    decide +kernel
  obtain ⟨once, honce⟩ := isOk_iff.1 hok
  have htotal : (accrueSimpleInterest SandboxSample.running (108 * 3600000)).map
      SimpleAccrual.accruedInterestMinor = .ok 4 := by decide +kernel
  rw [honce] at htotal
  have hstart : SandboxSample.running.lastAccruedAt = some 0 := by decide +kernel
  refine ⟨once.obligation, once.accruedInterestMinor, (accrual_path_independent
    SandboxSample.running_onRail _ _ (by decide) (fun start hs t _ ↦ ?_) _ _).2
      ⟨once, honce, rfl, rfl⟩, Except.ok.inj htotal⟩
  rw [hstart] at hs
  exact (Option.some.inj hs) ▸ Nat.zero_le t

end Credit
end IpoOne
