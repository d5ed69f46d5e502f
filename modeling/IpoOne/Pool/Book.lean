import IpoOne.Lib.Rounding
import Mathlib

/-!
# The books of a lending pool

What a secured lending pool is, before any contract: suppliers own the pool's net claim in supply
shares, borrowers owe its performing debt in debt shares, and every movement of money is one of nine
kinds of `Entry`.  `Book.post` books an entry, and `Book.Allows` says when an entry may be booked:
which way its shares are rounded, whose shares they are, and that nobody is paid what is not there.

Everything the pool promises its users is proved here, one entry at a time.

* `Valid.post` — the books stay balanced: the accounts add up to the totals, the performing debt is
  worth at least one asset per debt share, and an account that has been written off owes no shares.
* `claim_post` — what an entry does to the suppliers' claim, and `rate_post` — no entry but a
  write-off lowers the claim per supply share.
* `quote_other`, `quote_borrow` and `quote_repay` — no entry of one borrower raises what another one
  owes, a loan adds at least its amount, and a borrower is never forgiven more than was paid.

Accounts are an arbitrary type.  The claim is an integer, since nothing here stops a write-off from
exceeding it.
-/

set_option autoImplicit false

namespace IpoOne

open Rounding

/-- The accounting state of a lending pool. -/
structure Book (A : Type) where
  cash : ℕ
  gross : ℕ
  reserves : ℕ
  bad : ℕ
  supplyTotal : ℕ
  debtTotal : ℕ
  supplyOf : A → ℕ
  collateralOf : A → ℕ
  debtOf : A → ℕ
  badOf : A → ℕ

/-- A movement of money or collateral. -/
inductive Entry (A : Type) where
  /-- Interest on the performing debt, part of it for the reserve. -/
  | accrue (interest reserve : ℕ)
  /-- A supplier pays in and gets shares. -/
  | deposit (account : A) (assets shares : ℕ)
  /-- A supplier is paid out and gives up shares. -/
  | withdraw (account : A) (assets shares : ℕ)
  /-- Collateral goes into a position. -/
  | pledge (account : A) (assets : ℕ)
  /-- Collateral leaves a position. -/
  | release (account : A) (assets : ℕ)
  /-- A borrower is paid out and owes shares. -/
  | borrow (account : A) (assets shares : ℕ)
  /-- `assets` are paid for an account, which burns `shares` and reduces the debt by `reduced`; the
  rest is kept by the reserve. -/
  | repay (account : A) (assets shares reduced : ℕ)
  /-- All of an account's debt becomes bad debt. -/
  | writeOff (account : A) (assets : ℕ)
  /-- Bad debt is paid back after all. -/
  | recover (account : A) (assets : ℕ)

namespace Book

variable {A : Type}

/-- Debt that still accrues interest. -/
def performing (b : Book A) : ℕ := b.gross - b.bad

/-- What belongs to the suppliers. -/
def claim (b : Book A) : ℤ := b.cash + b.gross - b.reserves - b.bad

/-- What an account owes for its debt shares, rounded up. -/
def quote (b : Book A) (account : A) : ℕ := quoteUp (b.debtOf account) b.performing b.debtTotal

/-- When an entry may be booked. -/
def Allows (b : Book A) : Entry A → Prop
  | .accrue interest reserve => reserve ≤ interest ∧ (b.performing = 0 → interest = 0)
  | .deposit _ assets shares =>
    b.supplyTotal = 0 ∨ 0 ≤ b.claim ∧ shares * b.claim ≤ assets * b.supplyTotal
  | .withdraw account assets shares =>
    assets ≤ b.cash ∧ shares ≤ b.supplyOf account ∧ shares ≤ b.supplyTotal ∧
      0 < b.supplyTotal ∧ 0 ≤ b.claim ∧ assets * b.supplyTotal ≤ shares * b.claim
  | .pledge _ _ => True
  | .release account assets => assets ≤ b.collateralOf account
  | .borrow account assets shares =>
    assets ≤ b.cash ∧ 0 < assets ∧ b.bad ≤ b.gross ∧ b.badOf account = 0 ∧
      (b.debtTotal = 0 ∧ shares = assets ∨
        0 < b.debtTotal ∧ 0 < b.performing ∧
          shares = quoteUp assets b.debtTotal b.performing)
  | .repay account assets shares reduced =>
    b.bad ≤ b.gross ∧ 0 < b.debtTotal ∧ 0 < shares ∧ shares ≤ b.debtOf account ∧
      shares ≤ b.debtTotal ∧ reduced = quoteUp shares b.performing b.debtTotal ∧
      reduced ≤ assets
  | .writeOff account assets =>
    b.bad ≤ b.gross ∧ 0 < b.debtTotal ∧ b.debtOf account ≤ b.debtTotal ∧
      assets = b.quote account
  | .recover account assets =>
    b.debtOf account = 0 ∧ assets ≤ b.badOf account ∧ assets ≤ b.bad ∧ assets ≤ b.gross

variable [DecidableEq A]

/-- Book an entry. -/
def post (b : Book A) : Entry A → Book A
  | .accrue interest reserve =>
    { b with gross := b.gross + interest, reserves := b.reserves + reserve }
  | .deposit account assets shares =>
    { b with
      cash := b.cash + assets
      supplyTotal := b.supplyTotal + shares
      supplyOf := Function.update b.supplyOf account (b.supplyOf account + shares) }
  | .withdraw account assets shares =>
    { b with
      cash := b.cash - assets
      supplyTotal := b.supplyTotal - shares
      supplyOf := Function.update b.supplyOf account (b.supplyOf account - shares) }
  | .pledge account assets =>
    { b with collateralOf :=
        Function.update b.collateralOf account (b.collateralOf account + assets) }
  | .release account assets =>
    { b with collateralOf :=
        Function.update b.collateralOf account (b.collateralOf account - assets) }
  | .borrow account assets shares =>
    { b with
      cash := b.cash - assets
      gross := b.gross + assets
      debtTotal := b.debtTotal + shares
      debtOf := Function.update b.debtOf account (b.debtOf account + shares) }
  | .repay account assets shares reduced =>
    { b with
      cash := b.cash + assets
      gross := b.gross - reduced
      reserves := b.reserves + (assets - reduced)
      debtTotal := b.debtTotal - shares
      debtOf := Function.update b.debtOf account (b.debtOf account - shares) }
  | .writeOff account assets =>
    { b with
      debtTotal := b.debtTotal - b.debtOf account
      debtOf := Function.update b.debtOf account 0
      bad := b.bad + assets
      badOf := Function.update b.badOf account (b.badOf account + assets) }
  | .recover account assets =>
    { b with
      cash := b.cash + assets
      gross := b.gross - assets
      bad := b.bad - assets
      badOf := Function.update b.badOf account (b.badOf account - assets) }

/-- The book after a list of entries, each of which was allowed when it was booked. -/
def Posts : Book A → List (Entry A) → Book A → Prop
  | b, [], b' => b' = b
  | b, e :: rest, b' => b.Allows e ∧ Posts (b.post e) rest b'

/-! ## What an entry does to the performing debt -/

section Performing

variable {b : Book A} {account : A} {assets shares reduced : ℕ}

theorem performing_accrue (hbad : b.bad ≤ b.gross) (interest reserve : ℕ) :
    (b.post (.accrue interest reserve)).performing = b.performing + interest := by
  simp only [performing, post]; omega

theorem performing_borrow (hbad : b.bad ≤ b.gross) :
    (b.post (.borrow account assets shares)).performing = b.performing + assets := by
  simp only [performing, post]; omega

theorem performing_repay :
    (b.post (.repay account assets shares reduced)).performing = b.performing - reduced := by
  simp only [performing, post]; omega

theorem performing_writeOff :
    (b.post (.writeOff account assets)).performing = b.performing - assets := by
  simp only [performing, post]; omega

theorem performing_recover (hbad : assets ≤ b.bad) :
    (b.post (.recover account assets)).performing = b.performing := by
  simp only [performing, post]; omega

end Performing

/-! ## The books stay balanced -/

/-- The accounting invariant. -/
structure Valid [Fintype A] (b : Book A) : Prop where
  /-- The accounts' supply shares add up to the total. -/
  supply_sum : ∑ a, b.supplyOf a = b.supplyTotal
  /-- The accounts' debt shares add up to the total. -/
  debt_sum : ∑ a, b.debtOf a = b.debtTotal
  /-- The accounts' bad debt adds up to the total. -/
  bad_sum : ∑ a, b.badOf a = b.bad
  /-- Bad debt is part of the gross debt. -/
  bad_le : b.bad ≤ b.gross
  /-- A debt share is worth at least one asset. -/
  solvent : b.debtTotal ≤ b.performing
  /-- Without debt shares there is no performing debt. -/
  empty : b.debtTotal = 0 → b.performing = 0
  /-- An account with bad debt owes no shares. -/
  exclusive : ∀ a, b.badOf a = 0 ∨ b.debtOf a = 0

theorem sum_update [Fintype A] (f : A → ℕ) (a : A) (v : ℕ) :
    ∑ x, Function.update f a v x + f a = ∑ x, f x + v := by
  rw [Finset.sum_update_of_mem (Finset.mem_univ a), Finset.sdiff_singleton_eq_erase, add_assoc,
    Finset.sum_erase_add _ _ (Finset.mem_univ a), add_comm]

theorem update_cases (f : A → ℕ) (a x : A) (v : ℕ) :
    (x = a ∧ Function.update f a v x = v) ∨ (x ≠ a ∧ Function.update f a v x = f x) := by
  by_cases h : x = a
  · subst h; exact .inl ⟨rfl, Function.update_self ..⟩
  · exact .inr ⟨h, Function.update_of_ne h ..⟩

section Valid

variable [Fintype A] {b : Book A}

omit [DecidableEq A] in
theorem Valid.supplyOf_le (hv : b.Valid) (a : A) : b.supplyOf a ≤ b.supplyTotal := by
  rw [← hv.supply_sum]
  exact Finset.single_le_sum (fun _ _ ↦ Nat.zero_le _) (Finset.mem_univ a)

omit [DecidableEq A] in
theorem Valid.debtOf_le (hv : b.Valid) (a : A) : b.debtOf a ≤ b.debtTotal := by
  rw [← hv.debt_sum]
  exact Finset.single_le_sum (fun _ _ ↦ Nat.zero_le _) (Finset.mem_univ a)

omit [DecidableEq A] in
theorem Valid.badOf_le (hv : b.Valid) (a : A) : b.badOf a ≤ b.bad := by
  rw [← hv.bad_sum]
  exact Finset.single_le_sum (fun _ _ ↦ Nat.zero_le _) (Finset.mem_univ a)

omit [DecidableEq A] in
theorem Valid.performing_pos (hv : b.Valid) {a : A} (h : 0 < b.debtOf a) :
    0 < b.debtTotal ∧ 0 < b.performing := by
  have hle := hv.debtOf_le a
  have hs := hv.solvent
  omega

/-- A new borrower's shares keep the debt side in balance. -/
theorem Valid.post_borrow (hv : b.Valid) {account : A} {assets shares : ℕ}
    (ha : b.Allows (.borrow account assets shares)) :
    (b.post (.borrow account assets shares)).Valid := by
  obtain ⟨_, hpos, hbad, hclean, hshares⟩ := ha
  have hsolvent : b.debtTotal + shares ≤ b.performing + assets := by
    rcases hshares with ⟨h0, rfl⟩ | ⟨_, hP, rfl⟩
    · have := hv.solvent; omega
    · exact mint_solvent hP hv.solvent
  constructor
  · exact hv.supply_sum
  · have := sum_update b.debtOf account (b.debtOf account + shares)
    have := hv.debt_sum
    simp only [post]; omega
  · exact hv.bad_sum
  · simp only [post]; omega
  · rw [performing_borrow hbad]; exact hsolvent
  · intro h0
    exfalso
    have hzero : b.debtTotal + shares = 0 := h0
    rcases hshares with ⟨_, rfl⟩ | ⟨hT, _⟩ <;> omega
  · intro x
    simp only [post]
    rcases update_cases b.debtOf account x (b.debtOf account + shares) with ⟨rfl, _⟩ | ⟨_, h⟩
    · exact .inl hclean
    · rw [h]; exact hv.exclusive x

omit [DecidableEq A] in
/-- Burning shares at their rounded-up value keeps the debt side in balance, whether the money
came in or the debt went bad.  `P'` and `T'` are the performing debt and the shares afterwards. -/
theorem Valid.burn (hv : b.Valid) {shares P' T' : ℕ} (hT : 0 < b.debtTotal)
    (hle : shares ≤ b.debtTotal) (hP' : P' = b.performing - quoteUp shares b.performing b.debtTotal)
    (hT' : T' = b.debtTotal - shares) : T' ≤ P' ∧ (T' = 0 → P' = 0) := by
  subst hP' hT'
  refine ⟨burn_solvent hT hle hv.solvent, fun h0 ↦ ?_⟩
  have hall : shares = b.debtTotal := by omega
  rw [hall, quoteUp_self _ hT]
  exact Nat.sub_self _

theorem Valid.post_repay (hv : b.Valid) {account : A} {assets shares reduced : ℕ}
    (ha : b.Allows (.repay account assets shares reduced)) :
    (b.post (.repay account assets shares reduced)).Valid := by
  obtain ⟨hbad, hT, _, hle, hleT, rfl, _⟩ := ha
  have hpot := quoteUp_le_pot (P := b.performing) hleT hT
  have hperf : b.performing = b.gross - b.bad := rfl
  obtain ⟨hsolvent, hempty⟩ := hv.burn hT hleT rfl rfl
  constructor
  · exact hv.supply_sum
  · have := sum_update b.debtOf account (b.debtOf account - shares)
    have := hv.debt_sum
    simp only [post]; omega
  · exact hv.bad_sum
  · simp only [post]; omega
  · rw [performing_repay]; exact hsolvent
  · rw [performing_repay]; exact hempty
  · intro x
    simp only [post]
    rcases update_cases b.debtOf account x (b.debtOf account - shares) with ⟨rfl, _⟩ | ⟨_, h⟩
    · rcases hv.exclusive x with h | h
      · exact .inl h
      · omega
    · rw [h]; exact hv.exclusive x

theorem Valid.post_writeOff (hv : b.Valid) {account : A} {assets : ℕ}
    (ha : b.Allows (.writeOff account assets)) : (b.post (.writeOff account assets)).Valid := by
  obtain ⟨hbad, hT, hle, rfl⟩ := ha
  have hpot : b.quote account ≤ b.performing := quoteUp_le_pot hle hT
  have hperf : b.performing = b.gross - b.bad := rfl
  obtain ⟨hsolvent, hempty⟩ := hv.burn hT hle rfl rfl
  constructor
  · exact hv.supply_sum
  · have := sum_update b.debtOf account 0
    have := hv.debt_sum
    simp only [post]; omega
  · have := sum_update b.badOf account (b.badOf account + b.quote account)
    have := hv.bad_sum
    simp only [post]; omega
  · simp only [post]; omega
  · rw [performing_writeOff]; exact hsolvent
  · rw [performing_writeOff]; exact hempty
  · intro x
    simp only [post]
    rcases update_cases b.debtOf account x 0 with ⟨rfl, h⟩ | ⟨hne, h⟩
    · exact .inr h
    · rw [h, Function.update_of_ne hne]; exact hv.exclusive x

/-- **The books stay balanced.** -/
theorem Valid.post (hv : b.Valid) {e : Entry A} (ha : b.Allows e) : (b.post e).Valid := by
  cases e with
  | accrue interest reserve =>
    have hperf := performing_accrue hv.bad_le interest reserve
    refine ⟨hv.supply_sum, hv.debt_sum, hv.bad_sum, ?_, ?_, ?_, hv.exclusive⟩
    · have := hv.bad_le
      simp only [Book.post]; omega
    · have := hv.solvent
      rw [hperf]; simp only [Book.post]; omega
    · intro h0
      have hP := hv.empty h0
      rw [hperf, ha.2 hP, hP]
  | deposit account assets shares =>
    have := sum_update b.supplyOf account (b.supplyOf account + shares)
    have := hv.supply_sum
    exact ⟨by simp only [Book.post]; omega, hv.debt_sum, hv.bad_sum, hv.bad_le, hv.solvent,
      hv.empty, hv.exclusive⟩
  | withdraw account assets shares =>
    obtain ⟨_, hle, _⟩ := ha
    have := sum_update b.supplyOf account (b.supplyOf account - shares)
    have := hv.supply_sum
    exact ⟨by simp only [Book.post]; omega, hv.debt_sum, hv.bad_sum, hv.bad_le, hv.solvent,
      hv.empty, hv.exclusive⟩
  | pledge account assets =>
    exact ⟨hv.supply_sum, hv.debt_sum, hv.bad_sum, hv.bad_le, hv.solvent, hv.empty, hv.exclusive⟩
  | release account assets =>
    exact ⟨hv.supply_sum, hv.debt_sum, hv.bad_sum, hv.bad_le, hv.solvent, hv.empty, hv.exclusive⟩
  | borrow account assets shares => exact hv.post_borrow ha
  | repay account assets shares reduced => exact hv.post_repay ha
  | writeOff account assets => exact hv.post_writeOff ha
  | recover account assets =>
    obtain ⟨_, hacc, hbad, hgross⟩ := ha
    have hsum := sum_update b.badOf account (b.badOf account - assets)
    have hbadsum := hv.bad_sum
    have hle := hv.bad_le
    have hperf : (b.post (.recover account assets)).performing = b.performing :=
      performing_recover hbad
    refine ⟨hv.supply_sum, hv.debt_sum, ?_, ?_, ?_, ?_, fun x ↦ ?_⟩
    · simp only [Book.post]; omega
    · simp only [Book.post]; omega
    · rw [hperf]; exact hv.solvent
    · rw [hperf]; exact hv.empty
    · simp only [Book.post]
      rcases update_cases b.badOf account x (b.badOf account - assets) with ⟨rfl, h⟩ | ⟨_, h⟩
      · rcases hv.exclusive x with h' | h'
        · left; rw [h]; omega
        · exact .inr h'
      · rw [h]; exact hv.exclusive x

theorem Valid.posts {b' : Book A} {es : List (Entry A)} (hv : b.Valid)
    (h : b.Posts es b') : b'.Valid := by
  induction es generalizing b with
  | nil => exact (show b' = b from h) ▸ hv
  | cons e rest ih => exact ih (hv.post h.1) h.2

end Valid

/-! ## The suppliers' claim -/

/-- What an entry adds to the suppliers' claim. -/
def gain : Entry A → ℤ
  | .accrue interest reserve => interest - reserve
  | .deposit _ assets _ => assets
  | .withdraw _ assets _ => -assets
  | .pledge _ _ => 0
  | .release _ _ => 0
  | .borrow _ _ _ => 0
  | .repay _ _ _ _ => 0
  | .writeOff _ assets => -assets
  | .recover _ assets => assets

omit [DecidableEq A] in
/-- A repayment never reduces the debt by more than there is. -/
theorem Allows.reduced_le {b : Book A} {account : A} {assets shares reduced : ℕ}
    (ha : b.Allows (.repay account assets shares reduced)) : reduced ≤ b.performing := by
  obtain ⟨_, hT, _, _, hleT, rfl, _⟩ := ha
  exact quoteUp_le_pot hleT hT

/-- **What an entry does to the claim.**  Money that is lent or paid back changes its form only. -/
theorem claim_post {b : Book A} {e : Entry A} (ha : b.Allows e) :
    (b.post e).claim = b.claim + gain e := by
  cases e with
  | accrue interest reserve => simp only [claim, post, gain]; omega
  | deposit account assets shares => simp only [claim, post, gain]; omega
  | withdraw account assets shares =>
    obtain ⟨hcash, _⟩ := ha
    simp only [claim, post, gain]; omega
  | pledge account assets => simp only [claim, post, gain]; omega
  | release account assets => simp only [claim, post, gain]; omega
  | borrow account assets shares =>
    obtain ⟨hcash, _⟩ := ha
    simp only [claim, post, gain]; omega
  | repay account assets shares reduced =>
    have hle := ha.reduced_le
    obtain ⟨_, _, _, _, _, _, hpaid⟩ := ha
    simp only [performing] at hle
    simp only [claim, post, gain]; omega
  | writeOff account assets => simp only [claim, post, gain]; omega
  | recover account assets =>
    obtain ⟨_, _, hbad, hgross⟩ := ha
    simp only [claim, post, gain]; omega

/-- The claim per supply share is no lower in `b'` than in `b`. -/
def RateLe (b b' : Book A) : Prop := b.claim * b'.supplyTotal ≤ b'.claim * b.supplyTotal

omit [DecidableEq A] in
theorem RateLe.trans {b₁ b₂ b₃ : Book A} (hpos : 0 < b₂.supplyTotal) (h₁ : RateLe b₁ b₂)
    (h₂ : RateLe b₂ b₃) : RateLe b₁ b₃ := by
  unfold RateLe at *
  have h : (b₁.claim * b₃.supplyTotal) * b₂.supplyTotal
      ≤ (b₃.claim * b₁.supplyTotal) * b₂.supplyTotal := by
    calc (b₁.claim * b₃.supplyTotal) * b₂.supplyTotal
        = (b₁.claim * b₂.supplyTotal) * b₃.supplyTotal := by ring
      _ ≤ (b₂.claim * b₁.supplyTotal) * b₃.supplyTotal :=
          mul_le_mul_of_nonneg_right h₁ (by positivity)
      _ = (b₂.claim * b₃.supplyTotal) * b₁.supplyTotal := by ring
      _ ≤ (b₃.claim * b₂.supplyTotal) * b₁.supplyTotal :=
          mul_le_mul_of_nonneg_right h₂ (by positivity)
      _ = (b₃.claim * b₁.supplyTotal) * b₂.supplyTotal := by ring
  exact le_of_mul_le_mul_right h (by exact_mod_cast hpos)

omit [DecidableEq A] in
/-- An entry that leaves the supply shares alone and does not lower the claim keeps the rate. -/
theorem rateLe_of_gain {b b' : Book A} (htotal : b'.supplyTotal = b.supplyTotal)
    (hclaim : b.claim ≤ b'.claim) : RateLe b b' := by
  unfold RateLe
  rw [htotal]
  exact mul_le_mul_of_nonneg_right hclaim (by positivity)

/-- **No entry but a write-off lowers the claim per supply share.** -/
theorem rate_post {b : Book A} {e : Entry A} (ha : b.Allows e) (hpos : 0 < b.supplyTotal)
    (hwrite : ∀ account assets, e ≠ .writeOff account assets) : RateLe b (b.post e) := by
  have hclaim := claim_post ha
  cases e with
  | accrue interest reserve =>
    obtain ⟨hle, _⟩ := ha
    refine rateLe_of_gain rfl ?_
    simp only [gain] at hclaim
    omega
  | deposit account assets shares =>
    rcases ha with h0 | ⟨_, hshares⟩
    · omega
    · unfold RateLe
      rw [hclaim]
      simp only [gain, post]
      push_cast
      nlinarith
  | withdraw account assets shares =>
    obtain ⟨_, _, hle, _, _, hshares⟩ := ha
    unfold RateLe
    rw [hclaim]
    simp only [gain, post]
    push_cast [hle]
    nlinarith
  | pledge account assets => exact rateLe_of_gain rfl (by simp only [gain] at hclaim; omega)
  | release account assets => exact rateLe_of_gain rfl (by simp only [gain] at hclaim; omega)
  | borrow account assets shares => exact rateLe_of_gain rfl (by simp only [gain] at hclaim; omega)
  | repay account assets shares reduced =>
    exact rateLe_of_gain rfl (by simp only [gain] at hclaim; omega)
  | writeOff account assets => exact absurd rfl (hwrite account assets)
  | recover account assets => exact rateLe_of_gain rfl (by simp only [gain] at hclaim; omega)

/-- **No entry but a write-off takes the claim below zero.**  A supplier is paid out of the
claim. -/
theorem claim_nonneg_post {b : Book A} {e : Entry A} (ha : b.Allows e) (hclaim : 0 ≤ b.claim)
    (hwrite : ∀ account assets, e ≠ .writeOff account assets) : 0 ≤ (b.post e).claim := by
  rw [claim_post ha]
  cases e with
  | accrue interest reserve =>
    obtain ⟨hle, _⟩ := ha
    simp only [gain]
    omega
  | withdraw account assets shares =>
    obtain ⟨_, _, hle, hpos, _, hrate⟩ := ha
    have hle' : (shares : ℤ) ≤ b.supplyTotal := by exact_mod_cast hle
    have hpos' : (0 : ℤ) < b.supplyTotal := by exact_mod_cast hpos
    have hassets : (assets : ℤ) ≤ b.claim := by
      refine le_of_mul_le_mul_right ?_ hpos'
      calc (assets : ℤ) * b.supplyTotal ≤ shares * b.claim := hrate
        _ ≤ b.supplyTotal * b.claim := mul_le_mul_of_nonneg_right hle' hclaim
        _ = b.claim * b.supplyTotal := mul_comm _ _
    simp only [gain]
    omega
  | writeOff account assets => exact absurd rfl (hwrite account assets)
  | deposit | pledge | release | borrow | repay | recover => simp only [gain]; omega

/-! ## What borrowers owe -/

section Quotes

variable [Fintype A] {b : Book A}

/-- The account whose debt shares an entry changes. -/
def debtor : Entry A → Option A
  | .borrow account _ _ => some account
  | .repay account _ _ _ => some account
  | .writeOff account _ => some account
  | _ => none

omit [Fintype A] in
theorem debtOf_post {e : Entry A} {a : A} (ha : debtor e ≠ some a) :
    (b.post e).debtOf a = b.debtOf a := by
  cases e <;> simp only [debtor, ne_eq, Option.some.injEq] at ha <;> simp only [post]
  all_goals exact Function.update_of_ne (Ne.symm ha) ..

/-- Apart from interest, nothing raises the price of a debt share. -/
theorem Valid.price_post (hv : b.Valid) {e : Entry A} (ha : b.Allows e)
    (hacc : ∀ interest reserve, e ≠ .accrue interest reserve) :
    (b.post e).performing * b.debtTotal ≤ b.performing * (b.post e).debtTotal := by
  cases e with
  | accrue interest reserve => exact absurd rfl (hacc interest reserve)
  | deposit account assets shares => exact le_rfl
  | withdraw account assets shares => exact le_rfl
  | pledge account assets => exact le_rfl
  | release account assets => exact le_rfl
  | borrow account assets shares =>
    obtain ⟨_, _, _, _, hshares⟩ := ha
    rw [performing_borrow hv.bad_le]
    rcases hshares with ⟨h0, rfl⟩ | ⟨_, hP, rfl⟩
    · simp [h0]
    · exact mint_price hP
  | repay account assets shares reduced =>
    obtain ⟨_, hT, _, _, hleT, rfl, _⟩ := ha
    rw [performing_repay]
    exact burn_price hT hleT
  | writeOff account assets =>
    obtain ⟨_, hT, hle, rfl⟩ := ha
    rw [performing_writeOff]
    exact burn_price hT hle
  | recover account assets =>
    obtain ⟨_, _, hbad, hgross⟩ := ha
    rw [performing_recover hbad]
    exact le_rfl

/-- **No entry of one borrower raises what another one owes.** -/
theorem Valid.quote_other (hv : b.Valid) {e : Entry A} (ha : b.Allows e)
    (hacc : ∀ interest reserve, e ≠ .accrue interest reserve) {a : A} (hne : debtor e ≠ some a) :
    (b.post e).quote a ≤ b.quote a := by
  unfold quote
  rw [debtOf_post hne]
  rcases Nat.eq_zero_or_pos (b.debtOf a) with h0 | hpos
  · rw [h0, quoteUp_zero, quoteUp_zero]
  · have hpos' : 0 < (b.post e).debtOf a := by rw [debtOf_post hne]; exact hpos
    exact quoteUp_le_of_price (hv.performing_pos hpos).1 ((hv.post ha).performing_pos hpos').1
      (hv.price_post ha hacc)

omit [DecidableEq A] in
theorem Valid.mints (hv : b.Valid) {account : A} {assets shares : ℕ}
    (ha : b.Allows (.borrow account assets shares)) :
    Mints b.performing b.debtTotal assets shares := by
  obtain ⟨_, _, _, _, ⟨h0, rfl⟩ | hrounded⟩ := ha
  · exact .inl ⟨h0, hv.empty h0, rfl⟩
  · exact .inr hrounded

/-- **A loan adds at least its amount to what the borrower owes.** -/
theorem Valid.quote_borrow (hv : b.Valid) {account : A} {assets shares : ℕ}
    (ha : b.Allows (.borrow account assets shares)) :
    b.quote account + assets ≤ (b.post (.borrow account assets shares)).quote account := by
  have h := le_quoteUp_loan (hv.debtOf_le account) ha.2.1 (hv.mints ha)
  simp only [quote, performing_borrow ha.2.2.1]
  simp only [Book.post, Function.update_self]
  exact h

/-- **When the first loan of an account adds exactly its amount.**  It does if nobody owes anything,
or if the shares minted for it did not have to be rounded. -/
theorem Valid.quote_opening (hv : b.Valid) {account : A} {assets shares : ℕ}
    (ha : b.Allows (.borrow account assets shares)) (hfree : b.debtOf account = 0) :
    (b.post (.borrow account assets shares)).quote account = assets ↔
      b.debtTotal = 0 ∨ b.performing ∣ assets * b.debtTotal := by
  obtain ⟨_, hpos, hbad, _, hshares⟩ := ha
  simp only [quote, performing_borrow hbad]
  simp only [Book.post, Function.update_self, hfree, Nat.zero_add]
  rcases hshares with ⟨h0, rfl⟩ | ⟨hT, hP, rfl⟩
  · rw [hv.empty h0, h0, Nat.zero_add, quoteUp_self _ hpos]
    exact iff_of_true rfl (.inl rfl)
  · rw [quoteUp_mint_eq_iff hP hT, or_iff_right hT.ne']

/-- **When the debt after a loan stays within a limit** that the debt before and the loan are
within. -/
theorem Valid.quote_borrow_le_iff (hv : b.Valid) {account : A} {assets shares limit : ℕ}
    (ha : b.Allows (.borrow account assets shares)) (hlimit : b.quote account + assets ≤ limit) :
    (b.post (.borrow account assets shares)).quote account ≤ limit ↔
      MintWithin (b.debtOf account) b.performing b.debtTotal assets limit := by
  have h := quoteUp_loan_le_iff (hv.debtOf_le account) ha.2.1 (hv.mints ha) hlimit
  simp only [quote, performing_borrow ha.2.2.1]
  simp only [Book.post, Function.update_self]
  exact h

/-- **A repayment forgives the borrower no more than the debt it removes.** -/
theorem Valid.quote_repay (hv : b.Valid) {account : A} {assets shares reduced : ℕ}
    (ha : b.Allows (.repay account assets shares reduced)) :
    b.quote account ≤ (b.post (.repay account assets shares reduced)).quote account + reduced := by
  have hprice := hv.price_post ha (by simp)
  have hle := hv.debtOf_le account
  have hred := ha.reduced_le
  obtain ⟨hbad, hT, _, hsle, hleT, hreduced, _⟩ := ha
  rw [performing_repay] at hprice
  simp only [quote, performing_repay]
  simp only [Book.post, Function.update_self] at hprice ⊢
  rcases Nat.eq_zero_or_pos (b.debtTotal - shares) with h0 | hT'
  · -- the last shares are burned for the whole pot
    have hall : shares = b.debtTotal := by omega
    have hs : b.debtOf account = b.debtTotal := by omega
    rw [hs, quoteUp_self _ hT, hreduced, hall, quoteUp_self _ hT]
    omega
  · obtain ⟨o, ho⟩ : ∃ o, b.debtTotal = o + b.debtOf account :=
      ⟨b.debtTotal - b.debtOf account, by omega⟩
    have ho' : b.debtTotal - shares = o + (b.debtOf account - shares) := by omega
    rw [ho'] at hprice hT' ⊢
    rw [ho] at hprice hT ⊢
    have h := quoteUp_add_le hT hT' hprice
    omega

end Quotes

end Book
end IpoOne
