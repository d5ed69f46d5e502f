import IpoOne.RiskGuardian.Snapshot

/-!
# Enforcing a risk snapshot

A snapshot is enforced by the admission of single actions and by the protective plan.

* `riskSnapshot_enforceable_iff` — a created snapshot is enforceable exactly if the reasons of the
  caller and of the restrictions are at most five different ones: five reasons of the caller and one
  restriction make `assertRiskSnapshot` refuse what `createHyperliquidTestnetRiskSnapshot` built.
* `freshness_agrees_iff` — the plan agrees with the freshness that the admission computes at the
  time of the evaluation, except where the venue state has become stale since its receipt, and in a
  settlement, whose plan is empty.
-/

set_option autoImplicit false

namespace IpoOne
namespace RiskGuardian

open Fallible
open Reconciliation (ActionKind RiskState riskRank iso)

/-! ## A sample -/

namespace Sample

/-- Hashes that are nothing but constants. -/
def prims : Primitives ℕ Unit where
  hashId := Preimage.ctorIdx
  slice := id

/-- An open order that does not increase the risk. -/
def order : OpenOrder where
  assetIndex := 0
  orderId := 1
  cloid := none
  riskIncreasing := false

/-- An observation at 1000, with one open order that does not increase the risk. -/
def venueInput : VenueInput ℕ where
  facilityId := "facility"
  facilityHash := 1
  sourceInfoSnapshotHash := 2
  observedAtMs := 1000
  maximumAgeMs := 5000
  openOrders := [order]
  positions := []

/-- The venue state that is received at 2000. -/
def venue : VenueState ℕ where
  toVenueCore := venueInput.core 1000 2000
  venueStateHash := 0

/-- What the snapshot is built from, with the given reasons and kill switch. -/
def riskInput (reasonCodes : List String) (riskIncreasingKillSwitchOpen : Bool) : RiskInput ℕ where
  facilityId := "facility"
  facilityHash := 1
  facilityVersion := 1
  venueState := venue
  evaluatedRiskState := .reduceOnly
  riskPolicyVersion := riskPolicyVersionFixture
  riskPolicyHash := 3
  reasonCodes
  riskIncreasingKillSwitchOpen
  externalWriteState := .reconciled

/-- The snapshot of the input. -/
def snapshot (input : RiskInput ℕ) (evaluated : ℕ) : RiskSnapshot ℕ where
  toRiskCore := input.core evaluated
  riskSnapshotHash := 1

/-- One reason of the caller. -/
def oneReason : List String := ["margin_low"]

/-- Five reasons of the caller. -/
def fiveReasons : List String :=
  ["margin_low", "exposure_high", "liquidation_near", "oracle_delayed", "manual_review"]

theorem venue_created : createHyperliquidTestnetVenueState prims venueInput 2000 = .ok venue := by
  decide +kernel

end Sample

section Enforceable

variable {H A : Type} [DecidableEq H] (prims : Primitives H A)

/-- The snapshot is accepted, every action at every time gets its admission, and the plan is made
for every bounded key. -/
structure Enforceable (venue : VenueState H) (snapshot : RiskSnapshot H) : Prop where
  accepted : assertRiskSnapshot prims snapshot = .ok ()
  admission : ∀ (actionKind : ActionKind) (action : Action A) (serverNowMs : Option ℕ),
    (∀ now ∈ serverNowMs, 1 ≤ now ∧ now ≤ 8640000000000000) → ∃ admission,
      evaluateHyperliquidExecutionRiskAdmission prims snapshot actionKind action serverNowMs
        = .ok admission
  plan : ∀ idempotencyKey : String,
    8 ≤ utf16Length idempotencyKey → utf16Length idempotencyKey ≤ 256 → ∃ draft,
      createHyperliquidProtectiveControlDraft prims snapshot venue idempotencyKey = .ok draft

variable {prims}

theorem iso_eq_ok {value : ℕ} (h : value ≤ 8640000000000000) : iso value = .ok value := by
  rw [iso, throwIf, failIf, if_neg (by omega)]
  rfl

theorem positiveInteger_eq_ok {name : String} {value : ℕ} (hpos : 1 ≤ value)
    (hle : value ≤ 8640000000000000) : positiveInteger name value = .ok () := by
  rw [positiveInteger, invalidInput, throwIf_eq_ok, not_or, not_not, not_lt, isSafeInteger]
  exact ⟨by omega, hpos⟩

omit [DecidableEq H] in
theorem plannedRawActions_length_le {risk : RiskCore H} {venue : VenueCore H}
    (horders : venue.openOrders.length ≤ maxOpenOrders)
    (hpositions : venue.positions.length ≤ maxPositions) :
    (plannedRawActions risk venue).length ≤ maxProtectiveActions := by
  have hfilter := List.length_filter_le
    (fun order : OpenOrder ↦ order.riskIncreasing || venue.freshness ≠ .fresh) venue.openOrders
  unfold plannedRawActions
  rw [maxOpenOrders] at horders
  rw [maxPositions] at hpositions
  rw [show maxProtectiveActions = 71 from rfl]
  cases risk.effectiveRiskState with
  | normal | settlement => exact Nat.zero_le 71
  | warning => exact show 1 ≤ 71 by decide
  | reduceOnly =>
    simp only [List.length_map]
    omega
  | flatten =>
    simp only [List.length_append, List.length_map]
    omega

theorem admission_ok {snapshot : RiskSnapshot H}
    (haccepted : assertRiskSnapshot prims snapshot = .ok ())
    (hevaluated : snapshot.serverEvaluatedAt ≤ 8640000000000000) (actionKind : ActionKind)
    (action : Action A) {serverNowMs : Option ℕ}
    (hnow : ∀ now ∈ serverNowMs, 1 ≤ now ∧ now ≤ 8640000000000000) : ∃ admission,
      evaluateHyperliquidExecutionRiskAdmission prims snapshot actionKind action serverNowMs
        = .ok admission := by
  have hchecked : serverNowMs.forM (positiveInteger "serverNowMs") = .ok () := by
    cases serverNowMs with
    | none => rfl
    | some now => exact positiveInteger_eq_ok (hnow now rfl).1 (hnow now rfl).2
  have hle : serverNowMs.getD snapshot.serverEvaluatedAt ≤ 8640000000000000 := by
    cases serverNowMs with
    | none => exact hevaluated
    | some now => exact (hnow now rfl).2
  simp only [evaluateHyperliquidExecutionRiskAdmission, bind_eq_ok]
  exact ⟨_, (), haccepted, (), hchecked, _, iso_eq_ok hle, rfl⟩

/-- A created venue state and a snapshot of it that is accepted have their plan. -/
theorem draft_ok {venueInput : VenueInput H} {received : ℕ} {riskInput : RiskInput H}
    {evaluated : ℕ} {snapshot : RiskSnapshot H}
    (hvenue : createHyperliquidTestnetVenueState prims venueInput received
      = .ok riskInput.venueState)
    (hsnapshot : createHyperliquidTestnetRiskSnapshot prims riskInput evaluated = .ok snapshot)
    (haccepted : assertRiskSnapshot prims snapshot = .ok ()) {idempotencyKey : String}
    (hmin : 8 ≤ utf16Length idempotencyKey) (hmax : utf16Length idempotencyKey ≤ 256) :
    ∃ draft, createHyperliquidProtectiveControlDraft prims snapshot riskInput.venueState
      idempotencyKey = .ok draft := by
  obtain ⟨-, horders, hpositions, hcore, hassert⟩ := createVenueState_ok prims hvenue
  obtain ⟨-, -, -, hfacility, hhash, -, -, -, -, rfl⟩ := createRiskSnapshot_ok prims hsnapshot
  have hlength : (plannedRawActions (riskInput.core evaluated)
      riskInput.venueState.toVenueCore).length ≤ maxProtectiveActions := by
    rw [hcore]
    exact plannedRawActions_length_le horders hpositions
  simp only [createHyperliquidProtectiveControlDraft, bind_eq_ok, throwIf_eq_ok, not_or, not_not,
    not_lt]
  exact ⟨_, (), haccepted, (), hassert, (), ⟨hfacility.symm, hhash.symm, rfl⟩, (), ⟨hmin, hmax⟩,
    (), hlength, rfl⟩

/-- A snapshot can be enforced exactly if there are at most five different reasons. -/
theorem riskSnapshot_enforceable_iff {venueInput : VenueInput H} {received : ℕ}
    {riskInput : RiskInput H} {evaluated : ℕ} {snapshot : RiskSnapshot H}
    (hvenue : createHyperliquidTestnetVenueState prims venueInput received
      = .ok riskInput.venueState)
    (hsnapshot : createHyperliquidTestnetRiskSnapshot prims riskInput evaluated = .ok snapshot) :
    Enforceable prims riskInput.venueState snapshot ↔
      (riskInput.reasonCodes ++ requiredReasons
        (receiptFreshness venueInput.observedAtMs received venueInput.maximumAgeMs)
        riskInput.riskIncreasingKillSwitchOpen riskInput.externalWriteState).toFinset.card ≤ 5 := by
  have hcore := (createVenueState_ok prims hvenue).2.2.2.1
  have hfreshness : riskInput.venueState.freshness =
      receiptFreshness venueInput.observedAtMs received venueInput.maximumAgeMs := by
    rw [hcore]
    rfl
  rw [← hfreshness, ← assertRiskSnapshot_created prims hsnapshot]
  constructor
  · intro henforceable
    exact henforceable.accepted
  · intro haccepted
    obtain ⟨-, -, -, -, -, -, -, -, hevaluated, hcreated⟩ := createRiskSnapshot_ok prims hsnapshot
    exact
      { accepted := haccepted
        admission := fun actionKind action serverNowMs hnow ↦
          admission_ok haccepted (by rw [hcreated]; exact hevaluated) actionKind action hnow
        plan := fun _ hmin hmax ↦ draft_ok hvenue hsnapshot haccepted hmin hmax }

/-- One reason of the caller, and a closed kill switch. -/
theorem riskSnapshot_enforceable_one :
    Enforceable Sample.prims Sample.venue
      (Sample.snapshot (Sample.riskInput Sample.oneReason false) 3000) := by
  have hsnapshot : createHyperliquidTestnetRiskSnapshot Sample.prims
      (Sample.riskInput Sample.oneReason false) 3000 =
        .ok (Sample.snapshot (Sample.riskInput Sample.oneReason false) 3000) := by
    decide +kernel
  exact (riskSnapshot_enforceable_iff Sample.venue_created hsnapshot).2 (by decide +kernel)

/-- Five reasons of the caller, and a closed kill switch: the snapshot is built, and refused. -/
theorem riskSnapshot_refused :
    createHyperliquidTestnetVenueState Sample.prims Sample.venueInput 2000 = .ok Sample.venue ∧
      createHyperliquidTestnetRiskSnapshot Sample.prims (Sample.riskInput Sample.fiveReasons false)
        3000 = .ok (Sample.snapshot (Sample.riskInput Sample.fiveReasons false) 3000) ∧
      assertRiskSnapshot Sample.prims
          (Sample.snapshot (Sample.riskInput Sample.fiveReasons false) 3000) =
        .error
          { code := "invalid_hyperliquid_risk_guardian_input"
            message := "reasonCodes must be a closed unique set" } ∧
      ¬ Enforceable Sample.prims Sample.venue
        (Sample.snapshot (Sample.riskInput Sample.fiveReasons false) 3000) := by
  refine ⟨Sample.venue_created, by decide +kernel, by decide +kernel, fun henforceable ↦ ?_⟩
  have hrefused : assertRiskSnapshot Sample.prims
      (Sample.snapshot (Sample.riskInput Sample.fiveReasons false) 3000) ≠ .ok () := by
    decide +kernel
  exact hrefused henforceable.accepted

end Enforceable

/-! ## Freshness -/

section Freshness

variable {H : Type}

/-- The plan agrees with the freshness that the admission computes at the time of the evaluation: an
order is left standing only while the observation is within its age, and data that are not fresh
restrict the state and cancel every order. -/
structure FreshnessAgrees (venue : VenueCore H) (risk : RiskCore H) : Prop where
  standing : risk.effectiveRiskState = .reduceOnly → ∀ order ∈ venue.openOrders,
    order.cancel ∉ plannedRawActions risk venue →
      venue.observedAt ≤ risk.serverEvaluatedAt ∧
        risk.serverEvaluatedAt - venue.observedAt ≤ venue.maximumAgeMs
  restrictive : currentFreshness risk risk.serverEvaluatedAt ≠ .fresh →
    riskRank .reduceOnly ≤ riskRank risk.effectiveRiskState ∧
      ∀ order ∈ venue.openOrders, order.cancel ∈ plannedRawActions risk venue

/-- The observation is not of the future, and within its age. -/
def VenueInput.FreshAt (input : VenueInput H) (now : ℕ) : Prop :=
  input.observedAtMs ≤ now ∧ now - input.observedAtMs ≤ input.maximumAgeMs

instance (input : VenueInput H) (now : ℕ) : Decidable (input.FreshAt now) :=
  inferInstanceAs (Decidable (_ ∧ _))

/-- The caller restricts the trading to at least `reduceOnly`, apart from the freshness. -/
def RiskInput.Restricts (input : RiskInput H) : Prop :=
  input.evaluatedRiskState = .reduceOnly ∨ input.riskIncreasingKillSwitchOpen = false ∨
    input.externalWriteState = .unknown

instance (input : RiskInput H) : Decidable input.Restricts :=
  inferInstanceAs (Decidable (_ ∨ _ ∨ _))

/-- Where the plan agrees with the freshness at the time of the evaluation: the observation is
fresh at the receipt and still at the evaluation; or the orders are cancelled in any case. -/
def PlanFresh (venueInput : VenueInput H) (received : ℕ) (riskInput : RiskInput H)
    (evaluated : ℕ) : Prop :=
  (venueInput.FreshAt received ∧ venueInput.FreshAt evaluated) ∨
  riskInput.evaluatedRiskState = .flatten ∨
  (riskInput.evaluatedRiskState = .settlement ∧ venueInput.openOrders = []) ∨
  (riskRank riskInput.evaluatedRiskState ≤ riskRank .reduceOnly ∧
    (venueInput.FreshAt received →
      riskInput.Restricts ∧ ∀ order ∈ venueInput.openOrders, order.riskIncreasing = true))

theorem receiptFreshness_eq_fresh {observedAtMs serverReceivedAtMs maximumAgeMs : ℕ} :
    receiptFreshness observedAtMs serverReceivedAtMs maximumAgeMs = .fresh ↔
      observedAtMs ≤ serverReceivedAtMs ∧ serverReceivedAtMs - observedAtMs ≤ maximumAgeMs := by
  unfold receiptFreshness
  split
  · simp only [reduceCtorEq, false_iff, not_and]
    omega
  split
  · simp only [reduceCtorEq, false_iff, not_and]
    omega
  · simp only [true_iff]
    omega

theorem currentFreshness_eq_fresh {snapshot : RiskCore H} {now : ℕ} :
    currentFreshness snapshot now = .fresh ↔ snapshot.freshness = .fresh ∧
      snapshot.venueObservedAt ≤ now ∧
        now - snapshot.venueObservedAt ≤ snapshot.venueMaximumAgeMs := by
  unfold currentFreshness
  split
  · simp only [reduceCtorEq, false_iff, not_and]
    omega
  split
  · simp only [reduceCtorEq, false_iff, not_and]
    omega
  · constructor
    · intro hfresh
      exact ⟨hfresh, by omega, by omega⟩
    · rintro ⟨hfresh, -⟩
      exact hfresh

/-- An order is cancelled exactly if one with its identity is among those that are. -/
theorem cancel_mem_map {orders kept : List OpenOrder}
    (hnodup : (orders.map OpenOrder.orderId).Nodup)
    (hkept : kept ⊆ orders) {order : OpenOrder} (horder : order ∈ orders) :
    order.cancel ∈ kept.map OpenOrder.cancel ↔ order ∈ kept := by
  constructor
  · intro hmem
    obtain ⟨other, hother, hcancel⟩ := List.mem_map.1 hmem
    have hid : other.orderId = order.orderId := by
      simp only [OpenOrder.cancel, RawAction.cancel.injEq] at hcancel
      exact hcancel.2.1
    rwa [← List.inj_on_of_nodup_map hnodup (hkept hother) horder hid]
  · exact List.mem_map_of_mem

/-- When the plan cancels every open order. -/
theorem cancels_all_iff {venue : VenueCore H} {risk : RiskCore H}
    (hnodup : (venue.openOrders.map OpenOrder.orderId).Nodup) :
    (∀ order ∈ venue.openOrders, order.cancel ∈ plannedRawActions risk venue) ↔
      risk.effectiveRiskState = .flatten ∨ venue.openOrders = [] ∨
        (risk.effectiveRiskState = .reduceOnly ∧
          (venue.freshness = .fresh → ∀ order ∈ venue.openOrders,
            order.riskIncreasing = true)) := by
  unfold plannedRawActions
  cases risk.effectiveRiskState with
  | normal | settlement => simp [List.eq_nil_iff_forall_not_mem]
  | warning => simp [List.eq_nil_iff_forall_not_mem, OpenOrder.cancel]
  | flatten =>
    simp only [true_or, iff_true]
    intro order horder
    exact List.mem_append_left _ (List.mem_map_of_mem horder)
  | reduceOnly =>
    simp only [reduceCtorEq, false_or, true_and]
    constructor
    · intro hall
      right
      intro hfresh order horder
      have hmem := (cancel_mem_map hnodup ((List.filter_subset_self _)) horder).1
          (hall order horder)
      simpa [hfresh] using (List.mem_filter.1 hmem).2
    · intro hcases order horder
      refine (cancel_mem_map hnodup ((List.filter_subset_self _)) horder).2
        (List.mem_filter.2 ⟨horder, ?_⟩)
      rcases hcases with hnil | hincreasing
      · rw [hnil] at horder
        cases horder
      · by_cases hfresh : venue.freshness = .fresh
        · simp [hincreasing hfresh order horder]
        · simp [hfresh]

theorem requiredEffectiveState_eq (freshness : HyperliquidRiskFreshness) (switchOpen : Bool)
    (write : HyperliquidExternalWriteState) (evaluated : RiskState) :
    requiredEffectiveState freshness switchOpen write evaluated =
      if freshness ≠ .fresh ∨ switchOpen = false ∨ write = .unknown
      then mostRestrictive evaluated .reduceOnly else evaluated := by
  cases freshness <;> cases switchOpen <;> cases write <;> cases evaluated <;> rfl

/-- An order that is left standing needs no condition of its own. -/
theorem freshnessAgrees_iff {venue : VenueCore H} {risk : RiskCore H}
    (hobserved : risk.venueObservedAt = venue.observedAt)
    (hage : risk.venueMaximumAgeMs = venue.maximumAgeMs) :
    FreshnessAgrees venue risk ↔ (currentFreshness risk risk.serverEvaluatedAt ≠ .fresh →
      riskRank .reduceOnly ≤ riskRank risk.effectiveRiskState ∧
        ∀ order ∈ venue.openOrders, order.cancel ∈ plannedRawActions risk venue) := by
  constructor
  · intro hagrees
    exact hagrees.restrictive
  · intro hrestrictive
    refine ⟨fun _ order horder hstanding ↦ ?_, hrestrictive⟩
    by_cases hfresh : currentFreshness risk risk.serverEvaluatedAt = .fresh
    · have hwithin := (currentFreshness_eq_fresh.1 hfresh).2
      rwa [hobserved, hage] at hwithin
    · exact absurd ((hrestrictive hfresh).2 order horder) hstanding

/-- The effective state that the restrictions leave, case by case of the evaluated one: `none` and
`increasing` stand for what the open orders are. -/
theorem restricted_iff {state : RiskState} {received evaluated restricts none increasing : Prop}
    [Decidable received] [Decidable restricts] (hrestricts : state = .reduceOnly → restricts)
    (hnone : none → increasing) {effective : RiskState}
    (heffective : effective =
      if ¬ received ∨ restricts then mostRestrictive state .reduceOnly else state) :
    (¬ (received ∧ evaluated) → riskRank .reduceOnly ≤ riskRank effective ∧
        (effective = .flatten ∨ none ∨ (effective = .reduceOnly ∧ (received → increasing)))) ↔
      (received ∧ evaluated) ∨ state = .flatten ∨ (state = .settlement ∧ none) ∨
        (riskRank state ≤ riskRank .reduceOnly ∧ (received → restricts ∧ increasing)) := by
  by_cases hr : ¬ received ∨ restricts
  · rw [if_pos hr] at heffective
    cases state <;> simp [heffective, mostRestrictive, riskRank] <;> tauto
  · rw [if_neg hr] at heffective
    cases state <;> simp [heffective, riskRank] <;> tauto

variable {A : Type} [DecidableEq H] {prims : Primitives H A}

/-- The plan agrees with the freshness at the evaluation exactly under `PlanFresh`. -/
theorem freshness_agrees_iff {venueInput : VenueInput H} {received : ℕ} {riskInput : RiskInput H}
    {evaluated : ℕ} {snapshot : RiskSnapshot H}
    (hvenue : createHyperliquidTestnetVenueState prims venueInput received
      = .ok riskInput.venueState)
    (hsnapshot : createHyperliquidTestnetRiskSnapshot prims riskInput evaluated = .ok snapshot) :
    FreshnessAgrees riskInput.venueState.toVenueCore snapshot.toRiskCore ↔
      PlanFresh venueInput received riskInput evaluated := by
  obtain ⟨hnodup, -, -, hcore, -⟩ := createVenueState_ok prims hvenue
  obtain ⟨-, -, -, -, -, -, -, -, -, rfl⟩ := createRiskSnapshot_ok prims hsnapshot
  have hreceipt : riskInput.venueState.freshness = .fresh ↔ venueInput.FreshAt received := by
    rw [hcore]
    exact receiptFreshness_eq_fresh
  have hcurrent : currentFreshness (riskInput.core evaluated) evaluated = .fresh ↔
      venueInput.FreshAt received ∧ venueInput.FreshAt evaluated := by
    rw [currentFreshness_eq_fresh, ← hreceipt]
    simp only [RiskInput.core, VenueInput.FreshAt, hcore, VenueInput.core]
  have horders : riskInput.venueState.openOrders = venueInput.openOrders := by
    rw [hcore]
    rfl
  have heffective : (riskInput.core evaluated).effectiveRiskState =
      if ¬ venueInput.FreshAt received ∨ riskInput.Restricts
      then mostRestrictive riskInput.evaluatedRiskState .reduceOnly
      else riskInput.evaluatedRiskState := by
    refine (requiredEffectiveState_eq ..).trans ?_
    by_cases hreduce : riskInput.evaluatedRiskState = .reduceOnly
    · rw [hreduce, show mostRestrictive .reduceOnly .reduceOnly = .reduceOnly from rfl, ite_self,
        ite_self]
    · simp only [RiskInput.Restricts, hreduce, false_or, Ne, hreceipt]
  rw [freshnessAgrees_iff rfl rfl, cancels_all_iff (by rw [horders]; exact hnodup)]
  show (currentFreshness (riskInput.core evaluated) evaluated ≠ .fresh → _) ↔ _
  rw [Ne, hcurrent, horders, hreceipt, heffective, PlanFresh]
  have hnone : venueInput.openOrders = [] →
      ∀ order ∈ venueInput.openOrders, order.riskIncreasing = true := by
    intro hnil order horder
    rw [hnil] at horder
    cases horder
  exact restricted_iff (fun hreduce ↦ .inl hreduce) hnone rfl

/-- The observation is fresh at the receipt and at the evaluation. -/
theorem freshness_agrees_fresh :
    FreshnessAgrees Sample.venue.toVenueCore
      (Sample.snapshot (Sample.riskInput Sample.oneReason true) 6000).toRiskCore := by
  have hsnapshot : createHyperliquidTestnetRiskSnapshot Sample.prims
      (Sample.riskInput Sample.oneReason true) 6000 =
        .ok (Sample.snapshot (Sample.riskInput Sample.oneReason true) 6000) := by
    decide +kernel
  refine (freshness_agrees_iff Sample.venue_created hsnapshot).2 (.inl ⟨?_, ?_⟩) <;> decide

/-- The observation is fresh when it is received and stale when the snapshot is evaluated: the plan
leaves the open order standing. -/
theorem freshness_disagrees :
    createHyperliquidTestnetVenueState Sample.prims Sample.venueInput 2000 = .ok Sample.venue ∧
      createHyperliquidTestnetRiskSnapshot Sample.prims (Sample.riskInput Sample.oneReason true)
        9000 = .ok (Sample.snapshot (Sample.riskInput Sample.oneReason true) 9000) ∧
      currentFreshness (Sample.snapshot (Sample.riskInput Sample.oneReason true) 9000).toRiskCore
        9000 = .stale ∧
      plannedRawActions (Sample.snapshot (Sample.riskInput Sample.oneReason true) 9000).toRiskCore
        Sample.venue.toVenueCore = [] ∧
      ¬ FreshnessAgrees Sample.venue.toVenueCore
        (Sample.snapshot (Sample.riskInput Sample.oneReason true) 9000).toRiskCore := by
  refine ⟨Sample.venue_created, by decide +kernel, by decide +kernel, by decide +kernel,
    fun hagrees ↦ ?_⟩
  have hstale : currentFreshness
      (Sample.snapshot (Sample.riskInput Sample.oneReason true) 9000).toRiskCore 9000 ≠ .fresh := by
    decide +kernel
  have hstanding : Sample.order.cancel ∉ plannedRawActions
      (Sample.snapshot (Sample.riskInput Sample.oneReason true) 9000).toRiskCore
      Sample.venue.toVenueCore := by
    decide +kernel
  exact hstanding ((hagrees.restrictive hstale).2 _ List.mem_cons_self)

end Freshness

end RiskGuardian
end IpoOne
