import IpoOne.Pool.Rate

/-!
# What the invariants of the reference model say

`assertPoolReferenceInvariants` runs before and after every transition.  `Balanced` is what it
checks of a state that the contract checks by other means or not at all: every number is a
`uint256`, no position has more debt shares than there are, and debt and debt shares become empty
together (`balanced_of_ok`).

The arithmetic of the reference model is the one of the contract where its operands are unsigned
(`mulDivDown_eq_ok`, `mulDivUp_eq_ok`), and a position is found where it was changed
(`find_modifyPosition`).
-/

set_option autoImplicit false

namespace IpoOne
namespace Reference

open Fallible Rounding

/-! ## Unsigned integers -/

/-- The values that `assertReferenceUint` takes. -/
def IsUint (value : ℤ) : Prop := 0 ≤ value ∧ value ≤ maxModelUint

theorem assertReferenceUint_eq_ok {name : String} {value r : ℤ} {positive : Bool} :
    assertReferenceUint name value positive = .ok r ↔
      r = value ∧ IsUint value ∧ (positive = true → 0 < value) := by
  simp only [assertReferenceUint, bind_eq_ok, failIf_eq_ok, pure_eq_ok, IsUint]
  constructor
  · rintro ⟨_, hguard, rfl⟩
    refine ⟨rfl, by omega, fun hpos ↦ ?_⟩
    simp only [hpos, true_and] at hguard
    omega
  · rintro ⟨rfl, ⟨hnonneg, hmax⟩, hpos⟩
    refine ⟨(), ?_, rfl⟩
    rintro (hneg | hlarge | ⟨hp, hzero⟩)
    · omega
    · omega
    · have := hpos hp
      omega

theorem mulDivDown_eq_ok {left right denominator q : ℤ} :
    mulDivDown left right denominator = .ok q ↔
      IsUint left ∧ IsUint right ∧ IsUint denominator ∧ 0 < denominator ∧
        q = (left.toNat * right.toNat / denominator.toNat : ℕ) := by
  simp only [mulDivDown, bind_eq_ok, pure_eq_ok, assertReferenceUint_eq_ok, Bool.false_eq_true,
    false_implies, and_true, true_implies]
  constructor
  · rintro ⟨l, ⟨rfl, hl⟩, r, ⟨rfl, hr⟩, d, ⟨rfl, hd, hpos⟩, rfl⟩
    refine ⟨hl, hr, hd, hpos, ?_⟩
    rw [Int.tdiv_eq_ediv_of_nonneg (mul_nonneg hl.1 hr.1)]
    push_cast [Int.toNat_of_nonneg hl.1, Int.toNat_of_nonneg hr.1, Int.toNat_of_nonneg hd.1]
    rfl
  · rintro ⟨hl, hr, hd, hpos, rfl⟩
    refine ⟨_, ⟨rfl, hl⟩, _, ⟨rfl, hr⟩, _, ⟨rfl, hd, hpos⟩, ?_⟩
    rw [Int.tdiv_eq_ediv_of_nonneg (mul_nonneg hl.1 hr.1)]
    push_cast [Int.toNat_of_nonneg hl.1, Int.toNat_of_nonneg hr.1, Int.toNat_of_nonneg hd.1]
    rfl

theorem mulDivUp_eq_ok {left right denominator q : ℤ} :
    mulDivUp left right denominator = .ok q ↔
      IsUint left ∧ IsUint right ∧ IsUint denominator ∧ 0 < denominator ∧
        q = (quoteUp left.toNat right.toNat denominator.toNat : ℕ) := by
  simp only [mulDivUp, bind_eq_ok, pure_eq_ok, mulDivDown_eq_ok]
  have hround : ∀ (hl : 0 ≤ left) (hr : 0 ≤ right) (hd : 0 < denominator),
      (if left = 0 ∨ right = 0 ∨ (left * right).tmod denominator = 0
        then ((left.toNat * right.toNat / denominator.toNat : ℕ) : ℤ)
        else ((left.toNat * right.toNat / denominator.toNat : ℕ) : ℤ) + 1)
      = (quoteUp left.toNat right.toNat denominator.toNat : ℕ) := by
    intro hl hr hd
    have hd' : 0 < denominator.toNat := by omega
    rw [quoteUp_eq _ _ hd']
    have hmod : (left * right).tmod denominator = 0 ↔
        left.toNat * right.toNat % denominator.toNat = 0 := by
      rw [Int.tmod_eq_emod_of_nonneg (mul_nonneg hl hr)]
      have : ((left.toNat * right.toNat % denominator.toNat : ℕ) : ℤ)
          = left * right % denominator := by
        push_cast [Int.toNat_of_nonneg hl, Int.toNat_of_nonneg hr, Int.toNat_of_nonneg hd.le]
        rfl
      omega
    have hexact : (left = 0 ∨ right = 0 ∨ (left * right).tmod denominator = 0) ↔
        left.toNat * right.toNat % denominator.toNat = 0 := by
      rw [hmod]
      constructor
      · rintro (rfl | rfl | h)
        · simp
        · simp
        · exact h
      · exact fun h ↦ .inr (.inr h)
    simp only [hexact]
    split <;> simp
  constructor
  · rintro ⟨_, ⟨hl, hr, hd, hpos, rfl⟩, rfl⟩
    exact ⟨hl, hr, hd, hpos, hround hl.1 hr.1 hpos⟩
  · rintro ⟨hl, hr, hd, hpos, rfl⟩
    exact ⟨_, ⟨hl, hr, hd, hpos, rfl⟩, hround hl.1 hr.1 hpos⟩

/-! ## Positions -/

theorem mutablePosition_any (state : State) (id : String) :
    (mutablePosition state id).positions.any (fun position ↦ position.accountId = id) = true := by
  unfold mutablePosition
  split
  · assumption
  · simp [emptyPoolReferencePosition]

/-- Making room for a position leaves what is found of it. -/
theorem find_mutablePosition (state : State) (id : String) :
    findPoolReferencePosition (mutablePosition state id) id
      = findPoolReferencePosition state id := by
  unfold mutablePosition
  split
  · rfl
  · rename_i hnone
    have hfind : state.positions.find? (fun position ↦ position.accountId = id) = none := by
      rw [List.find?_eq_none]
      intro position hmem hid
      exact hnone (List.any_eq_true.2 ⟨position, hmem, hid⟩)
    simp [findPoolReferencePosition, hfind, emptyPoolReferencePosition]

/-- A position is found as it was changed. -/
theorem find_modifyPosition {id : String} {f : Position → Position} {positions : List Position}
    (hany : positions.any (fun position ↦ position.accountId = id) = true)
    (hf : ∀ position, (f position).accountId = position.accountId) :
    (modifyPosition id f positions).find? (fun position ↦ position.accountId = id) =
      (positions.find? fun position ↦ position.accountId = id).map f := by
  induction positions with
  | nil => simp at hany
  | cons position rest ih =>
    unfold modifyPosition
    by_cases hid : position.accountId = id
    · simp [hid, hf]
    · simp only [List.any_cons, hid, decide_false, Bool.false_or] at hany
      simp [hid, ih hany]

/-- What is found of an account whose position was made room for and changed. -/
theorem find_modified {state final : State} {id : String} {f : Position → Position}
    (hpositions : final.positions = modifyPosition id f (mutablePosition state id).positions)
    (hf : ∀ position, (f position).accountId = position.accountId) :
    findPoolReferencePosition final id = f (findPoolReferencePosition state id) := by
  have hany := mutablePosition_any state id
  obtain ⟨position, hfind⟩ : ∃ position, (mutablePosition state id).positions.find?
      (fun position ↦ position.accountId = id) = some position := by
    rw [← Option.isSome_iff_exists, List.find?_isSome]
    simpa using hany
  rw [← find_mutablePosition state id]
  unfold findPoolReferencePosition
  rw [hpositions, find_modifyPosition hany hf, hfind]
  rfl

/-! ## Invariants -/

/-- The numbers of a position are unsigned. -/
structure Position.Unsigned (position : Position) : Prop where
  supplyShares : IsUint position.supplyShares
  collateralAssets : IsUint position.collateralAssets
  debtShares : IsUint position.debtShares
  badDebtAssets : IsUint position.badDebtAssets

/-- What `assertPoolReferenceInvariants` has checked. -/
structure Balanced (state : State) : Prop where
  cash : IsUint state.cashAssets
  gross : IsUint state.grossDebtAssets
  reserves : IsUint state.reservesAssets
  bad : IsUint state.badDebtAssets
  debtTotal : IsUint state.totalDebtShares
  lastAccruedAt : IsUint state.lastAccruedAt
  bad_le : state.badDebtAssets ≤ state.grossDebtAssets
  positions : ∀ position ∈ state.positions, position.Unsigned
  debtShares_le : ∀ position ∈ state.positions, position.debtShares ≤ state.totalDebtShares
  empty : poolReferencePerformingDebtAssets state = 0 ↔ state.totalDebtShares = 0
  solvent : state.totalDebtShares ≤ poolReferencePerformingDebtAssets state

theorem tally_ok {state : State} {claim : ℤ} {positions : List Position} {t t' : Tally}
    (h : positions.foldlM (tallyPosition state claim) t = .ok t') :
    (∀ position ∈ positions, position.Unsigned) ∧
      t'.debtShares = t.debtShares + (positions.map Position.debtShares).sum := by
  induction positions generalizing t with
  | nil =>
    rw [List.foldlM_nil, pure_eq_ok] at h
    subst h
    simp
  | cons position rest ih =>
    rw [List.foldlM_cons] at h
    obtain ⟨next, hnext, hrest⟩ := bind_eq_ok.1 h
    obtain ⟨hunsigned, hsum⟩ := ih hrest
    simp only [tallyPosition, bind_eq_ok, assertReferenceUint_eq_ok, pure_eq_ok] at hnext
    obtain ⟨_, _, _, _, _, ⟨_, hsupply, _⟩, _, ⟨_, hcollateral, _⟩, _, ⟨_, hdebt, _⟩, _,
      ⟨_, hbad, _⟩, _, _, rfl⟩ := hnext
    refine ⟨?_, ?_⟩
    · intro other hother
      rcases List.mem_cons.1 hother with rfl | hother
      · exact ⟨hsupply, hcollateral, hdebt, hbad⟩
      · exact hunsigned other hother
    · rw [hsum, List.map_cons, List.sum_cons]
      ring

theorem balanced_of_ok {state : State} (h : assertPoolReferenceInvariants state = .ok ()) :
    Balanced state := by
  simp only [assertPoolReferenceInvariants, bind_eq_ok, assertReferenceUint_eq_ok, invalidIf_eq_ok,
    not_or, not_not, not_lt] at h
  obtain ⟨_, ⟨_, hcash, _⟩, _, ⟨_, hgross, _⟩, _, ⟨_, hreserves, _⟩, _, ⟨_, hbad, _⟩, _, _, _,
    ⟨_, hdebtTotal, _⟩, _, ⟨_, hlast, _⟩, _, _, _, _, _, hle, t, ht, _, ⟨_, hdebt, _⟩, _, hempty, _,
    hsolvent, _⟩ := h
  obtain ⟨hunsigned, hsum⟩ := tally_ok ht
  refine
    { cash := hcash, gross := hgross, reserves := hreserves, bad := hbad, debtTotal := hdebtTotal
      lastAccruedAt := hlast, bad_le := hle, positions := hunsigned, debtShares_le := ?_
      empty := hempty, solvent := hsolvent }
  intro position hmem
  have hnonneg : ∀ shares ∈ state.positions.map Position.debtShares, (0 : ℤ) ≤ shares := by
    intro shares hshares
    obtain ⟨other, hother, rfl⟩ := List.mem_map.1 hshares
    exact (hunsigned other hother).debtShares.1
  have hsingle := List.single_le_sum hnonneg _ (List.mem_map_of_mem hmem)
  rw [zero_add] at hsum
  rw [← hdebt, hsum]
  exact hsingle

/-- What is found of an account is a position, or empty. -/
theorem Balanced.find {state : State} (hb : Balanced state) (id : String) :
    (findPoolReferencePosition state id).Unsigned ∧
      (findPoolReferencePosition state id).debtShares ≤ state.totalDebtShares := by
  unfold findPoolReferencePosition
  cases hfind : state.positions.find? fun position ↦ position.accountId = id with
  | none =>
    have hzero : IsUint 0 := ⟨le_rfl, by decide⟩
    exact ⟨⟨hzero, hzero, hzero, hzero⟩, hb.debtTotal.1⟩
  | some position =>
    have hmem := List.mem_of_find?_eq_some hfind
    exact ⟨hb.positions position hmem, hb.debtShares_le position hmem⟩

theorem Balanced.performing {state : State} (hb : Balanced state) :
    IsUint (poolReferencePerformingDebtAssets state) := by
  have hle := hb.bad_le
  have hbad := hb.bad.1
  have hgross := hb.gross.2
  unfold IsUint poolReferencePerformingDebtAssets
  omega

/-- The debt of an account can be quoted: its shares of the performing debt, rounded up. -/
theorem Balanced.quote {state : State} (hb : Balanced state) (id : String) :
    positionPerformingDebtAssets state (findPoolReferencePosition state id) =
      .ok (quoteUp (findPoolReferencePosition state id).debtShares.toNat
        (poolReferencePerformingDebtAssets state).toNat state.totalDebtShares.toNat : ℕ) := by
  obtain ⟨hunsigned, hle⟩ := hb.find id
  generalize findPoolReferencePosition state id = position at hunsigned hle ⊢
  have hshares := hunsigned.debtShares
  unfold positionPerformingDebtAssets
  split
  · rename_i hzero
    rw [hzero]
    simp [pure, Except.pure]
  · rename_i hpos
    have htotal : 0 < state.totalDebtShares := by
      have := hshares.1
      omega
    simp only
    split
    · rename_i hall
      have htotal' : 0 < state.totalDebtShares.toNat := by omega
      rw [hall, quoteUp_self _ htotal', Int.toNat_of_nonneg hb.performing.1]
      rfl
    · exact mulDivUp_eq_ok.2 ⟨hshares, hb.performing, hb.debtTotal, htotal, rfl⟩

/-- No account is quoted above the performing debt. -/
theorem Balanced.quote_le {state : State} (hb : Balanced state) (id : String) :
    quoteUp (findPoolReferencePosition state id).debtShares.toNat
        (poolReferencePerformingDebtAssets state).toNat state.totalDebtShares.toNat ≤
      (poolReferencePerformingDebtAssets state).toNat := by
  obtain ⟨-, hle⟩ := hb.find id
  rcases Nat.eq_zero_or_pos state.totalDebtShares.toNat with hzero | htotal
  · rw [show (findPoolReferencePosition state id).debtShares.toNat = 0 by omega, quoteUp_zero]
    exact Nat.zero_le _
  · exact quoteUp_le_pot (by omega) htotal

end Reference
end IpoOne
