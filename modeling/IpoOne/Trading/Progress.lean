import IpoOne.Trading.Invariant

/-!
# Getting out of a facility

An active facility is left by three operations: it is flattened with its open orders, the subject
asks to close it, and it is settled.  `Settleable` says that the code accepts these three, at any
time.

It does not always.  An evaluation of a facility whose capital is all exposed puts the risk state to
`flatten` and leaves the facility active, and an active facility in that risk state can be neither
paused nor flattened.  `settleable_along_iff` says that this is the only way to get stuck, apart
from running out of versions, and `Stuck.run` that there is no way back.
-/

set_option autoImplicit false

namespace IpoOne
namespace Trading

open Fallible

section Checked

variable {H : Type} [DecidableEq H] {hashId : TradingPreimage H → H}

/-- What `assertFacility` accepts. -/
structure FacilityChecked (hashId : TradingPreimage H → H) (facility : TradingFacility H) :
    Prop where
  version_safe : isSafeInteger facility.version
  version_pos : 1 ≤ facility.version
  count_nonneg : 0 ≤ facility.openOrderCount
  count_le : facility.openOrderCount ≤ maxOpenOrders
  id_ok : matchesIdentifierPattern facility.tradingFacilityId = true
  collateral : 0 ≤ facility.subjectCollateralMinor ∧ facility.subjectCollateralMinor < 10 ^ 78
  funding : 0 ≤ facility.providerFundingMinor ∧ facility.providerFundingMinor < 10 ^ 78
  capital : 0 ≤ facility.syntheticCapitalMinor ∧ facility.syntheticCapitalMinor < 10 ^ 78
  exposure : 0 ≤ facility.syntheticExposureMinor ∧ facility.syntheticExposureMinor < 10 ^ 78
  equity : 0 ≤ facility.syntheticEquityMinor ∧ facility.syntheticEquityMinor < 10 ^ 78
  hash_eq : hashId (.tradingFacility facility.core) = facility.facilityHash
  stateHash_eq : hashId (.tradingFacilityState facility.toFacilityStateCore
    facility.riskObservation.observationHash) = facility.stateHash
  observation_eq : facility.riskObservation.toRiskObservationCore
    = observationCore facility.toFacilityStateCore facility.riskObservation.observedAt
  observationHash_eq : hashId (.tradingFacilityRiskObservation
    facility.riskObservation.toRiskObservationCore) = facility.riskObservation.observationHash

theorem assertFacility_eq_ok {facility : TradingFacility H} :
    assertFacility hashId facility = .ok () ↔ FacilityChecked hashId facility := by
  simp only [assertFacility, identifier, nonNegativeMinor, bind_eq_ok, invalid_eq_ok,
    unavailable_eq_ok, exists_const, not_or, not_not, Nat.not_lt, Int.not_lt, Int.not_le,
    Bool.not_eq_false]
  constructor
  · rintro ⟨⟨h1, h2, h3, h4⟩, h5, h6, h7, h8, h9, h10, h11, h12, h13, h14⟩
    exact ⟨h1, h2, h3, h4, h5, h6, h7, h8, h9, h10, h11, h12, h13, h14⟩
  · rintro ⟨h1, h2, h3, h4, h5, h6, h7, h8, h9, h10, h11, h12, h13, h14⟩
    exact ⟨⟨h1, h2, h3, h4⟩, h5, h6, h7, h8, h9, h10, h11, h12, h13, h14⟩

/-- **A write is accepted** when its amounts are in range and there is a version left. -/
theorem updateFacilityState_eq_ok {facility : TradingFacility H}
    (h : FacilityChecked hashId facility) (hversion : isSafeInteger (facility.version + 1))
    (changed : FacilityStateCore H) (now : ℕ)
    (hid : changed.tradingFacilityId = facility.tradingFacilityId)
    (hhash : changed.facilityHash = facility.facilityHash)
    (hcollateral : changed.subjectCollateralMinor = facility.subjectCollateralMinor)
    (hfunding : changed.providerFundingMinor = facility.providerFundingMinor)
    (hcapital : changed.syntheticCapitalMinor = facility.syntheticCapitalMinor)
    (hexposure : 0 ≤ changed.syntheticExposureMinor ∧ changed.syntheticExposureMinor < 10 ^ 78)
    (hequity : 0 ≤ changed.syntheticEquityMinor ∧ changed.syntheticEquityMinor < 10 ^ 78)
    (hcount : 0 ≤ changed.openOrderCount ∧ changed.openOrderCount ≤ maxOpenOrders) :
    ∃ next, updateFacilityState hashId facility changed now = .ok next := by
  simp only [updateFacilityState, bind_eq_ok, pure_eq_ok]
  refine ⟨_, (), assertFacility_eq_ok.2 ?_, rfl⟩
  constructor
  · exact hversion
  · exact Nat.le_add_left 1 _
  · exact hcount.1
  · exact hcount.2
  · show matchesIdentifierPattern changed.tradingFacilityId = true
    rw [hid, h.id_ok]
  · show 0 ≤ changed.subjectCollateralMinor ∧ changed.subjectCollateralMinor < 10 ^ 78
    rw [hcollateral]
    exact h.collateral
  · show 0 ≤ changed.providerFundingMinor ∧ changed.providerFundingMinor < 10 ^ 78
    rw [hfunding]
    exact h.funding
  · show 0 ≤ changed.syntheticCapitalMinor ∧ changed.syntheticCapitalMinor < 10 ^ 78
    rw [hcapital]
    exact h.capital
  · exact hexposure
  · exact hequity
  · exact h.hash_eq.trans hhash.symm
  · rfl
  · rfl
  · rfl

/-- The facility as the caller last saw it. -/
def expecting (facility : TradingFacility H) (actorId : String) (now : ℕ) : Expected H where
  actorId
  expectedStateHash := facility.stateHash
  expectedVersion := facility.version
  now

theorem assertExpectedFacility_expecting {facility : TradingFacility H}
    (h : FacilityChecked hashId facility) (actorId : String) (now : ℕ) :
    assertExpectedFacility hashId facility (expecting facility actorId now).expectedStateHash
      (expecting facility actorId now).expectedVersion = .ok () := by
  simp only [assertExpectedFacility, exactVersion, bind_eq_ok, unavailable_eq_ok, exists_const,
    not_or, not_not]
  exact ⟨(), assertFacility_eq_ok.2 h, ⟨h.version_safe, Nat.not_lt.2 h.version_pos, rfl⟩, rfl⟩

/-- An order that is as it was submitted. -/
structure OrderReady (hashId : TradingPreimage H → H) (facility : TradingFacility H)
    (order : TradingOrderIntent H) : Prop where
  checked : assertOrderIntent hashId order = .ok ()
  version_eq : order.version = 1
  facility_eq : order.core.facilityId = facility.tradingFacilityId

/-- An order that is as it was submitted can be written once more. -/
theorem OrderReady.updateOrderState_eq_ok {facility : TradingFacility H}
    {order : TradingOrderIntent H} (h : OrderReady hashId facility order)
    (changed : OrderIntentStateCore H) (now : ℕ)
    (hid : changed.tradingOrderIntentId = order.tradingOrderIntentId)
    (hhash : changed.orderIntentHash = order.orderIntentHash) :
    ∃ next, updateOrderState hashId order changed now = .ok next := by
  have hchecked := h.checked
  simp only [assertOrderIntent, identifier, positiveMinor, bind_eq_ok, invalid_eq_ok,
    unavailable_eq_ok, exists_const, not_or, not_not] at hchecked
  obtain ⟨_, hpattern, hnotional, hcore, _⟩ := hchecked
  simp only [updateOrderState, assertOrderIntent, identifier, positiveMinor, bind_eq_ok, pure_eq_ok,
    invalid_eq_ok, unavailable_eq_ok, exists_const, not_or, not_not]
  refine ⟨_, ⟨⟨?_, ?_⟩, ?_, hnotional, hcore.trans hhash.symm, rfl⟩, rfl⟩
  · show isSafeInteger (order.version + 1)
    rw [h.version_eq]
    decide
  · exact Nat.not_lt.2 (Nat.le_add_left 1 _)
  · show ¬ matchesIdentifierPattern changed.tradingOrderIntentId = false
    rw [hid]
    exact hpattern

/-- The loop that flattens the orders runs through. -/
theorem flattenOrders_eq_ok (facility : TradingFacility H) (reasonCode : String) (now : ℕ) :
    ∀ {orders : List (TradingOrderIntent H)} {seen : List String},
      (∀ order ∈ orders, order.status = .opened ∧ OrderReady hashId facility order) →
      (orderIds orders).Nodup → (∀ id ∈ orderIds orders, id ∉ seen) →
      ∃ flattened, flattenOrders hashId facility reasonCode now seen orders = .ok flattened := by
  intro orders
  induction orders with
  | nil => exact fun _ _ _ ↦ ⟨[], rfl⟩
  | cons order rest ih =>
    intro seen hready hdistinct hunseen
    rw [orderIds, List.map_cons, List.nodup_cons] at hdistinct
    obtain ⟨⟨hopened, horder⟩, hrest⟩ := List.forall_mem_cons.1 hready
    obtain ⟨hfirst, hothers⟩ := List.forall_mem_cons.1 hunseen
    obtain ⟨next, hnext⟩ := horder.updateOrderState_eq_ok
      { order.toOrderIntentStateCore with
        status := .flattened
        cancelReasonCode := some ("protective_flatten:" ++ reasonCode)
        flattenedAt := some now } now rfl rfl
    have hunseen' : ∀ id ∈ orderIds rest, id ∉ order.tradingOrderIntentId :: seen := by
      intro id hid
      rw [List.mem_cons, not_or]
      refine ⟨?_, hothers id hid⟩
      rintro rfl
      exact hdistinct.1 hid
    obtain ⟨flattened, hflattened⟩ := ih hrest hdistinct.2 hunseen'
    refine ⟨next :: flattened, ?_⟩
    simp only [flattenOrders, flattenOrder, bind_eq_ok, pure_eq_ok, unavailable_eq_ok, exists_const,
      not_or, not_not]
    exact ⟨next, ⟨(), horder.checked, ⟨horder.facility_eq, hopened, hfirst⟩, hnext⟩, flattened,
      hflattened, rfl⟩

end Checked

/-! ## What else every operation keeps -/

section Ready

variable {H : Type}

/-- Which contributions there are in each stage of the life of a facility. -/
def recordedFits (facility : FacilityStateCore H) : Prop :=
  match facility.lifecycleStatus with
  | .active | .flattened =>
    facility.subjectCollateralRecorded = true ∧ facility.providerFundingRecorded = true
  | lifecycle =>
    lifecycle = facilityLifecycle facility.subjectCollateralRecorded
      facility.providerFundingRecorded

/-- The books of a facility, and what it takes to get out of it. -/
structure Ready [DecidableEq H] (hashId : TradingPreimage H → H) (s : TradingState H) : Prop where
  kept : Kept hashId s
  orders : ∀ order ∈ s.orders, order.status = .opened → OrderReady hashId s.facility order
  recorded : recordedFits s.facility.toFacilityStateCore
  /-- the subject who opened the facility -/
  creator : ∃ actorId, matchesIdentifierPattern actorId = true ∧
    hashId (.actor actorId) = s.facility.core.subjectActorHash
  unrequested : s.facility.lifecycleStatus ≠ .flattened → s.closeRequests = []

variable [DecidableEq H] {hashId : TradingPreimage H → H} {s s' : TradingState H}
  {input : Expected H} {command : TradingCommand H}

omit [DecidableEq H] in
theorem recordedFits_facilityLifecycle {state : FacilityStateCore H}
    (h : state.lifecycleStatus
      = facilityLifecycle state.subjectCollateralRecorded state.providerFundingRecorded) :
    recordedFits state := by
  obtain ⟨hactive, hflattened, _⟩ := facilityLifecycle_cases state.subjectCollateralRecorded
    state.providerFundingRecorded
  rw [← h] at hactive hflattened
  rw [recordedFits]
  split
  · rename_i hlife
    exact absurd hlife hactive
  · rename_i hlife
    exact absurd hlife hflattened
  · exact h

omit [DecidableEq H] in
theorem recorded_of_ready {state : FacilityStateCore H} (h : recordedFits state)
    (hready : state.lifecycleStatus = .readyForActivation) :
    state.subjectCollateralRecorded = true ∧ state.providerFundingRecorded = true := by
  simp only [recordedFits, hready] at h
  revert h
  cases state.subjectCollateralRecorded <;> cases state.providerFundingRecorded <;>
    simp [facilityLifecycle]

omit [DecidableEq H] in
theorem recorded_of_active {state : FacilityStateCore H} (h : recordedFits state)
    (hactive : state.lifecycleStatus = .active) :
    state.subjectCollateralRecorded = true ∧ state.providerFundingRecorded = true := by
  rw [recordedFits, hactive] at h
  exact h

theorem createTradingFacility_ready {id : String} {matchProposal : MatchProposal H}
    {obligation : CanonicalObligation H} {createdByActorId : String} {now : ℕ}
    {facility : TradingFacility H}
    (h : createTradingFacility hashId id matchProposal obligation createdByActorId now
      = .ok facility) : Ready hashId (opened facility) := by
  have hkept := createTradingFacility_ok h
  simp only [createTradingFacility, actorHash, identifier, bind_eq_ok, pure_eq_ok, invalid_eq_ok,
    unavailable_eq_ok, not_not, Bool.not_eq_false] at h
  obtain ⟨_, _, _, _, _, ⟨_, hpattern, rfl⟩, _, hcreator, _, _, _, _, rfl⟩ := h
  exact
    { kept := hkept
      orders := List.forall_mem_nil _
      recorded := rfl
      creator := ⟨createdByActorId, hpattern, hcreator⟩
      unrequested := fun _ ↦ rfl }

omit [DecidableEq H] in
theorem mem_of_mem_writeOrder {orders : List (TradingOrderIntent H)}
    {order other : TradingOrderIntent H} (h : other ∈ writeOrder orders order) :
    other = order ∨ other ∈ orders := by
  obtain ⟨before, hbefore, rfl⟩ := List.mem_map.1 h
  split
  · exact .inl rfl
  · exact .inr hbefore

omit [DecidableEq H] in
theorem mem_of_mem_foldl_writeOrder {afters : List (TradingOrderIntent H)} :
    ∀ {orders : List (TradingOrderIntent H)} {other : TradingOrderIntent H},
      other ∈ afters.foldl writeOrder orders → other ∈ afters ∨ other ∈ orders := by
  induction afters with
  | nil => exact fun h ↦ .inr h
  | cons after rest ih =>
    intro orders other h
    rcases ih h with hrest | hwritten
    · exact .inl (List.mem_cons_of_mem _ hrest)
    · rcases mem_of_mem_writeOrder hwritten with rfl | hmem
      · exact .inl (List.mem_cons_self ..)
      · exact .inr hmem

theorem Ready.of_written (h : Ready hashId s) (hkept : Kept hashId s')
    {changed : FacilityStateCore H} {now : ℕ}
    (written : Written hashId s.facility changed now s'.facility)
    (hid : changed.tradingFacilityId = s.facility.tradingFacilityId)
    (horders : ∀ order ∈ s'.orders, order.status = .opened →
      order ∈ s.orders ∨ OrderReady hashId s.facility order)
    (hrecorded : recordedFits changed)
    (hlife : changed.lifecycleStatus ≠ .flattened → s.facility.lifecycleStatus ≠ .flattened)
    (hclose : s'.closeRequests = s.closeRequests) : Ready hashId s' := by
  have hstate := written.state_eq
  have hsame : s'.facility.tradingFacilityId = s.facility.tradingFacilityId := by
    rw [hstate]
    exact hid
  constructor
  · exact hkept
  · intro order hmem hopened
    have hbefore : OrderReady hashId s.facility order := by
      rcases horders order hmem hopened with hold | hnew
      · exact h.orders order hold hopened
      · exact hnew
    exact ⟨hbefore.checked, hbefore.version_eq, hbefore.facility_eq.trans hsame.symm⟩
  · rw [hstate]
    exact hrecorded
  · rw [written.core_eq]
    exact h.creator
  · rw [hstate, hclose]
    exact fun hnot ↦ h.unrequested (hlife hnot)

/-- **Every operation keeps a way out**, apart from the risk state and the versions. -/
theorem Ready.operated (h : Ready hashId s) (hop : Operated hashId s input command s') :
    Ready hashId s' := by
  have hkept := h.kept.operated hop
  cases hop with
  | contribute active flattened written | fund active flattened written =>
    exact h.of_written hkept written rfl (fun _ hmem _ ↦ .inl hmem)
      (recordedFits_facilityLifecycle rfl) (fun _ ↦ flattened) rfl
  | activate ready written =>
    have hrecorded := recorded_of_ready h.recorded ready
    exact h.of_written hkept written rfl (fun _ hmem _ ↦ .inl hmem) hrecorded
      (fun _ ↦ by rw [ready]; decide) rfl
  | submit fresh active id_eq opened version_eq notional_eq facility_eq checked written =>
    refine h.of_written hkept written rfl (fun other hmem _ ↦ ?_) h.recorded
      (fun _ ↦ by rw [active]; decide) rfl
    rcases List.mem_append.1 hmem with hold | hnew
    · exact .inl hold
    · rw [List.mem_singleton.1 hnew]
      exact .inr ⟨checked, version_eq, facility_eq⟩
  | cancel mem ended written =>
    refine h.of_written hkept written rfl (fun other hmem hopened ↦ ?_) h.recorded
      (fun hlife ↦ hlife) rfl
    rcases mem_of_mem_writeOrder hmem with rfl | hold
    · rw [ended.status_eq] at hopened
      cases hopened
    · exact .inl hold
  | evaluate active written | pause active risk written =>
    exact h.of_written hkept written rfl (fun _ hmem _ ↦ .inl hmem) h.recorded (fun hlife ↦ hlife)
      rfl
  | flatten active risk mem length_eq sum_eq distinct ended written =>
    rename_i befores afters
    have hended : ∀ after ∈ afters, after.status = .flattened :=
      ((List.forall₂_and_left _ _).1 (ended.flip.imp fun _ _ pair ↦ ⟨pair.status_eq, pair⟩)).1
    have hrecorded := recorded_of_active h.recorded active
    refine h.of_written hkept written rfl (fun other hmem hopened ↦ ?_) hrecorded
      (fun hlife ↦ absurd rfl hlife) rfl
    rcases mem_of_mem_foldl_writeOrder hmem with hafter | hold
    · rw [hended other hafter] at hopened
      cases hopened
    · exact .inl hold
  | close flattened risk =>
    exact
      { kept := hkept
        orders := h.orders
        recorded := h.recorded
        creator := h.creator
        unrequested := fun hlife ↦ absurd flattened hlife }
  | settle flattened risk written settlement_eq =>
    exact h.of_written hkept written rfl (fun _ hmem _ ↦ .inl hmem) h.recorded (fun hlife ↦ hlife)
      rfl

theorem Ready.tradingStep (h : Ready hashId s) (input : TradingInput H) :
    Ready hashId (tradingStep hashId s input) := by
  rcases operated_of_tradingStep hashId s input with hsame | hop
  · rwa [hsame]
  · exact h.operated hop

end Ready

/-! ## The way out -/

section WayOut

variable {H : Type} [DecidableEq H] {hashId : TradingPreimage H → H} {s s' : TradingState H}

/-- The operations are accepted one after another and lead from `s` to `t`. -/
def Accepted (hashId : TradingPreimage H → H) :
    TradingState H → List (TradingInput H) → TradingState H → Prop
  | s, [], t => s = t
  | s, input :: rest, t => ∃ u, operate hashId s input.expected input.command = .ok u ∧
    Accepted hashId u rest t

/-- **There is a way out.**  At any time the facility can be flattened, asked to close and settled,
which leaves no order open. -/
def Settleable (hashId : TradingPreimage H → H) (s : TradingState H) : Prop :=
  ∀ now : ℕ, ∃ ids reasonCode closeRequestId obligation requestHash settlementId,
    ∃ flattenedBy closedBy settledBy : Expected H, ∃ t,
      flattenedBy.now = now ∧ closedBy.now = now ∧ settledBy.now = now ∧
        Accepted hashId s
          [⟨flattenedBy, .flatten ids reasonCode⟩, ⟨closedBy, .close closeRequestId⟩,
            ⟨settledBy, .settle closeRequestId obligation requestHash settlementId⟩] t ∧
        openOrders t.orders = [] ∧ t.facility.riskState = .settlement ∧ t.settlements.length = 1

omit [DecidableEq H] in
theorem findOrder_eq_ok {orders : List (TradingOrderIntent H)} (hids : (orderIds orders).Nodup)
    {order : TradingOrderIntent H} (hmem : order ∈ orders) :
    findOrder orders order.tradingOrderIntentId = .ok order := by
  induction orders with
  | nil => exact absurd hmem List.not_mem_nil
  | cons first rest ih =>
    rw [orderIds, List.map_cons, List.nodup_cons] at hids
    rw [findOrder, List.find?_cons]
    rcases List.mem_cons.1 hmem with rfl | hrest
    · rw [decide_eq_true rfl]
    · have hne : first.tradingOrderIntentId ≠ order.tradingOrderIntentId := by
        intro hsame
        refine hids.1 ?_
        rw [hsame]
        exact List.mem_map_of_mem hrest
      rw [decide_eq_false hne]
      exact ih hids.2 hrest

omit [DecidableEq H] in
theorem mapM_findOrder {orders found : List (TradingOrderIntent H)}
    (hids : (orderIds orders).Nodup) (hfound : ∀ order ∈ found, order ∈ orders) :
    (orderIds found).mapM (findOrder orders) = .ok found := by
  rw [mapM_eq_ok, orderIds]
  induction found with
  | nil => exact .nil
  | cons order rest ih =>
    obtain ⟨hfirst, hrest⟩ := List.forall_mem_cons.1 hfound
    exact .cons (findOrder_eq_ok hids hfirst) (ih hrest)

/-- **An active facility can be flattened** with its open orders, unless it is in the risk state
`flatten` already. -/
theorem Ready.flatten_ok (h : Ready hashId s) (hactive : s.facility.lifecycleStatus = .active)
    (hrisk : s.facility.riskState ≠ .flatten) (hversion : isSafeInteger (s.facility.version + 1))
    (now : ℕ) :
    ∃ s', operate hashId s (expecting s.facility "actor" now)
      (.flatten (orderIds (openOrders s.orders)) "flatten") = .ok s' := by
  have hchecked := assertFacility_eq_ok.1 h.kept.checked
  have hsub : ∀ order ∈ openOrders s.orders, order ∈ s.orders :=
    fun order horder ↦ (List.mem_filter.1 horder).1
  have hopened : ∀ order ∈ openOrders s.orders, order.status = .opened :=
    fun order horder ↦ by simpa using (List.mem_filter.1 horder).2
  have hlength : ((openOrders s.orders).length : ℤ) = s.facility.openOrderCount := by
    rw [h.kept.count, total_counted]
  have hsum : ((openOrders s.orders).map (·.core.syntheticNotionalMinor)).sum
      = s.facility.syntheticExposureMinor := by
    rw [h.kept.exposure, total_exposed]
  have hdistinct : (orderIds (openOrders s.orders)).Nodup :=
    h.kept.ids.sublist (List.filter_sublist.map _)
  have hmax : ¬ maxOpenOrders < (openOrders s.orders).length := by
    have := hchecked.count_le
    omega
  have hready : ∀ order ∈ openOrders s.orders,
      order.status = .opened ∧ OrderReady hashId s.facility order := fun order horder ↦
    ⟨hopened order horder, h.orders order (hsub order horder) (hopened order horder)⟩
  obtain ⟨flattened, hflattened⟩ := flattenOrders_eq_ok s.facility "flatten" now hready hdistinct
    (fun _ _ ↦ List.not_mem_nil)
  have hsettlement := riskFits_ne_settlement h.kept.risk (by rw [hactive]; decide)
  obtain ⟨next, hnext⟩ := updateFacilityState_eq_ok hchecked hversion
    { s.facility.toFacilityStateCore with
      lifecycleStatus := .flattened
      riskState := .flatten
      riskReasonCodes := ["protective_flatten:" ++ "flatten"]
      syntheticExposureMinor := 0
      syntheticEquityMinor := s.facility.syntheticCapitalMinor
      openOrderCount := 0
      flattenedAt := some now } now
    rfl rfl rfl rfl rfl (show (0 : ℤ) ≤ 0 ∧ (0 : ℤ) < 10 ^ 78 by decide) hchecked.capital
    (show (0 : ℤ) ≤ 0 ∧ (0 : ℤ) ≤ maxOpenOrders by decide)
  refine ⟨{ s with facility := next, orders := flattened.foldl writeOrder s.orders }, ?_⟩
  simp only [operate, flattenSnapshots, flattenTradingFacility, actorHash, identifier, bind_eq_ok,
    pure_eq_ok, unavailable_eq_ok, invalid_eq_ok, exists_const, not_or, not_not, Prod.exists,
    Prod.mk.injEq]
  refine ⟨_, mapM_findOrder h.kept.ids hsub, next, flattened,
    ⟨(), assertExpectedFacility_expecting hchecked _ _, by decide, _,
      ⟨show ¬ matchesIdentifierPattern "actor" = false by decide, rfl⟩,
      ⟨hactive, ?_, hlength, hmax⟩, flattened, hflattened, hsum, next, hnext, rfl, rfl⟩, rfl⟩
  rw [List.mem_cons, List.mem_singleton, not_or]
  exact ⟨hrisk, hsettlement⟩

/-- A request to close the facility as it is. -/
structure RequestReady (hashId : TradingPreimage H → H) (facility : TradingFacility H)
    (request : CloseRequest H) : Prop where
  checked : assertCloseRequest hashId request = .ok ()
  id_eq : request.tradingFacilityCloseRequestId = "close"
  facilityId_eq : request.facilityId = facility.tradingFacilityId
  facilityHash_eq : request.facilityHash = facility.facilityHash
  stateHash_eq : request.facilityStateHash = facility.stateHash
  version_eq : request.facilityVersion = facility.version
  obligation_eq : request.obligationId = facility.core.obligationId

/-- The subject can ask to close a facility that is flattened. -/
theorem Ready.close_ok (h : Ready hashId s) (hflattened : s.facility.lifecycleStatus = .flattened)
    (hrisk : s.facility.riskState = .flatten) (hnone : s.closeRequests = []) (now : ℕ) :
    ∃ actorId request, RequestReady hashId s.facility request ∧
      operate hashId s (expecting s.facility actorId now) (.close "close")
        = .ok { s with closeRequests := [request] } := by
  have hchecked := h.kept.checked
  obtain ⟨hexposure, hcount⟩ := h.kept.idle (by rw [hflattened]; decide)
  have hequity := h.kept.equity
  rw [hexposure, sub_zero] at hequity
  obtain ⟨actorId, hpattern, hcreator⟩ := h.creator
  simp only [operate, requestTradingFacilityClose, assertCloseRequest, settlementActorHash,
    settlementIdentifier, bind_eq_ok, pure_eq_ok, settlementUnavailable_eq_ok, throwIf_eq_ok,
    failIf_eq_ok, exists_const, not_or, not_not, hnone, List.any_nil, List.nil_append]
  refine ⟨actorId, _, ?_, by decide, _, ⟨(), hchecked, _, ⟨?_, rfl⟩,
    ⟨rfl, rfl, hflattened, hrisk, hcount, hexposure, hequity, hcreator⟩, ⟨by decide, trivial⟩,
    rfl⟩, rfl⟩
  · refine ⟨?_, rfl, rfl, rfl, rfl, rfl, rfl⟩
    simp only [assertCloseRequest, settlementIdentifier, bind_eq_ok, settlementUnavailable_eq_ok,
      throwIf_eq_ok, exists_const, not_not, and_true]
    decide
  · show ¬ matchesIdentifierPattern actorId = false
    rw [hpattern]
    decide

/-- The obligation behind the facility. -/
def boundObligation (facility : TradingFacility H) : CanonicalObligation H where
  obligationId := facility.core.obligationId
  obligationHash := facility.core.obligationHash
  subjectId := facility.core.subjectId
  principalId := facility.core.principalId
  assetId := facility.core.assetId
  originalPrincipalMinor := facility.core.syntheticPrincipalMinor
  outstandingPrincipalMinor := facility.core.syntheticPrincipalMinor
  totalRepaidMinor := 0
  executionStatus := .executed
  status := .active
  withdrawable := some false
  maturityAt := facility.core.maturityAt
  sandboxOnly := true
  productionFundsMoved := false

/-- A facility that has been asked to close can be settled. -/
theorem Ready.settle_ok (h : Ready hashId s) (hflattened : s.facility.lifecycleStatus = .flattened)
    (hrisk : s.facility.riskState = .flatten) (hversion : isSafeInteger (s.facility.version + 1))
    {request : CloseRequest H} (hrequests : s.closeRequests = [request])
    (hrequest : RequestReady hashId s.facility request) (now : ℕ) :
    ∃ s', operate hashId s (expecting s.facility "actor" now)
      (.settle "close" (boundObligation s.facility) request.requestHash "settlement") = .ok s' := by
  have hchecked := assertFacility_eq_ok.1 h.kept.checked
  obtain ⟨hexposure, hcount⟩ := h.kept.idle (by rw [hflattened]; decide)
  have hequity := h.kept.equity
  rw [hexposure, sub_zero] at hequity
  have hrecorded := h.recorded
  rw [recordedFits, hflattened] at hrecorded
  have hcapital := h.kept.capital
  obtain ⟨next, hnext⟩ := updateFacilityState_eq_ok hchecked hversion
    { s.facility.toFacilityStateCore with
      riskState := .settlement
      riskReasonCodes := ["synthetic_settlement_finalized"] } now
    rfl rfl rfl rfl rfl hchecked.exposure hchecked.equity ⟨hchecked.count_nonneg, hchecked.count_le⟩
  have hfound : findCloseRequest s.closeRequests "close" = .ok request := by
    rw [findCloseRequest, hrequests, List.find?_cons, decide_eq_true hrequest.id_eq]
  have hbound : assertObligationBinding (boundObligation s.facility) s.facility = .ok () := by
    simp [assertObligationBinding, boundObligation]
  have hsettle : settleTradingFacility hashId s.facility (expecting s.facility "actor" now)
      = .ok next := by
    simp only [settleTradingFacility, actorHash, identifier, bind_eq_ok, pure_eq_ok,
      unavailable_eq_ok, invalid_eq_ok, exists_const, not_or, not_not, Bool.not_eq_false]
    exact ⟨(), assertExpectedFacility_expecting hchecked _ _, _,
      ⟨show matchesIdentifierPattern "actor" = true by decide, rfl⟩,
      ⟨hflattened, hrisk, hcount, hexposure, hequity, hrecorded.1, hrecorded.2, hcapital.symm⟩,
      hnext⟩
  simp only [operate, runTradingSettlement, assertSettlement, settlementActorHash,
    settlementIdentifier, bind_eq_ok, pure_eq_ok, settlementUnavailable_eq_ok, throwIf_eq_ok,
    exists_const, not_or, not_not, Prod.exists, Prod.mk.injEq]
  exact ⟨_, request, hfound, next, _, ⟨(), h.kept.checked, (), hrequest.checked, (), hbound,
    ⟨rfl, hrequest.facilityId_eq, hrequest.facilityHash_eq, hrequest.stateHash_eq,
      hrequest.version_eq, hrequest.obligation_eq⟩, next, hsettle,
    ⟨hcapital.symm.trans hequity.symm, hequity⟩, _,
    ⟨show ¬ matchesIdentifierPattern "actor" = false by decide, rfl⟩,
    ⟨⟨rfl, rfl, rfl, rfl, rfl, rfl, rfl, hcapital.symm.trans hequity.symm, rfl, rfl⟩, by decide,
      trivial⟩, rfl, rfl⟩, rfl⟩

theorem Operated.of_flatten {input : Expected H} {ids : List String} {reasonCode : String}
    (hop : Operated hashId s input (.flatten ids reasonCode) s') :
    s.facility.riskState ≠ .flatten ∧ s'.facility.lifecycleStatus = .flattened ∧
      s'.facility.riskState = .flatten ∧ s'.facility.version = s.facility.version + 1 ∧
        s'.closeRequests = s.closeRequests := by
  cases hop with
  | flatten active risk mem length_eq sum_eq distinct ended written =>
    have hstate := written.state_eq
    refine ⟨fun hflatten ↦ risk ?_, ?_, ?_, written.version_eq, rfl⟩
    · rw [hflatten]
      exact List.mem_cons_self ..
    · rw [hstate]
    · rw [hstate]

theorem Operated.of_close {input : Expected H} {closeRequestId : String}
    (hop : Operated hashId s input (.close closeRequestId) s') : s'.facility = s.facility := by
  cases hop with
  | close => rfl

theorem Operated.of_settle {input : Expected H} {closeRequestId settlementId : String}
    {obligation : CanonicalObligation H} {requestHash : H}
    (hop : Operated hashId s input
      (.settle closeRequestId obligation requestHash settlementId) s') :
    s'.facility.riskState = .settlement ∧ s'.facility.lifecycleStatus = .flattened ∧
      isSafeInteger (s.facility.version + 1) := by
  cases hop with
  | settle flattened risk written settlement_eq =>
    have hstate := written.state_eq
    refine ⟨?_, ?_, ?_⟩
    · rw [hstate]
    · rw [hstate]
      exact flattened
    · rw [← written.version_eq]
      exact (assertFacility_eq_ok.1 written.checked).version_safe

theorem isSafeInteger_of_le {m n : ℕ} (h : isSafeInteger n) (hmn : m ≤ n) : isSafeInteger m :=
  hmn.trans h

/-- **When there is a way out.** -/
theorem Ready.settleable_iff (h : Ready hashId s) (hactive : s.facility.lifecycleStatus = .active) :
    Settleable hashId s ↔
      s.facility.riskState ≠ .flatten ∧ isSafeInteger (s.facility.version + 2) := by
  constructor
  · intro hout
    obtain ⟨ids, reasonCode, closeRequestId, obligation, requestHash, settlementId, flattenedBy,
      closedBy, settledBy, t, _, _, _, ⟨s₁, hflatten, s₂, hclose, s₃, hsettle, _⟩, _⟩ := hout 0
    obtain ⟨hrisk, _, _, hversion, _⟩ := (operate_ok hflatten).of_flatten
    have hsafe := (operate_ok hsettle).of_settle.2.2
    rw [(operate_ok hclose).of_close, hversion] at hsafe
    exact ⟨hrisk, hsafe⟩
  · rintro ⟨hrisk, hsafe⟩ now
    -- flatten
    obtain ⟨s₁, hflatten⟩ := h.flatten_ok hactive hrisk
      (isSafeInteger_of_le hsafe (Nat.add_le_add_left (by decide) _)) now
    have h₁ := h.operated (operate_ok hflatten)
    obtain ⟨_, hlife₁, hrisk₁, hversion₁, hrequests₁⟩ := (operate_ok hflatten).of_flatten
    rw [h.unrequested (by rw [hactive]; decide)] at hrequests₁
    -- close
    obtain ⟨actorId, request, hrequest, hclose⟩ := h₁.close_ok hlife₁ hrisk₁ hrequests₁ now
    have h₂ := h₁.operated (operate_ok hclose)
    -- settle
    obtain ⟨s₃, hsettle⟩ := h₂.settle_ok hlife₁ hrisk₁
      (show isSafeInteger (s₁.facility.version + 1) by rw [hversion₁]; exact hsafe) rfl hrequest now
    have h₃ := h₂.operated (operate_ok hsettle)
    obtain ⟨hrisk₃, hlife₃, _⟩ := (operate_ok hsettle).of_settle
    refine ⟨_, _, _, _, _, _, expecting s.facility "actor" now, expecting s₁.facility actorId now,
      expecting s₁.facility "actor" now, s₃, rfl, rfl, rfl, ⟨s₁, hflatten, _, hclose, s₃, hsettle,
        rfl⟩, ?_, hrisk₃, ?_⟩
    · exact h₃.kept.openOrders_eq_nil (by rw [hlife₃]; decide)
    · rw [h₃.kept.settled, if_pos hrisk₃]

end WayOut

/-! ## Whole runs -/

section Runs

variable {H : Type}

/-- The capital is all exposed, and that was written no more than five minutes ago. -/
def AtCap (facility : TradingFacility H) (now : ℕ) : Prop :=
  facility.riskObservation.observedAt ≤ now ∧
    now - facility.riskObservation.observedAt ≤ localObservationMaxAgeMs ∧
      0 < facility.syntheticCapitalMinor ∧
        facility.syntheticExposureMinor = facility.syntheticCapitalMinor

instance (facility : TradingFacility H) (now : ℕ) : Decidable (AtCap facility now) :=
  inferInstanceAs (Decidable (_ ∧ _ ∧ _ ∧ _))

/-- The operations after which a facility is active. -/
def TradingCommand.staysActive : TradingCommand H → Bool
  | .activate .. | .submit .. | .cancel .. | .evaluate .. | .pause .. => true
  | .contribute .. | .fund .. | .flatten .. | .close .. | .settle .. => false

variable [DecidableEq H] {hashId : TradingPreimage H → H} {s s' : TradingState H}
  {input : Expected H} {command : TradingCommand H}

omit [DecidableEq H] in
theorem utilizationBps_ge_iff {facility : FacilityStateCore H}
    (hcapital : 0 < facility.syntheticCapitalMinor)
    (hexposure : 0 ≤ facility.syntheticExposureMinor) :
    10000 ≤ utilizationBps facility ↔
      facility.syntheticCapitalMinor ≤ facility.syntheticExposureMinor := by
  rw [utilizationBps, bpsDenominator, Int.tdiv_eq_ediv_of_nonneg (by omega),
    Int.le_ediv_iff_mul_le hcapital]
  omega

/-- An evaluation asks for `flatten` exactly at the cap. -/
theorem Kept.riskTarget_eq_flatten_iff (h : Kept hashId s) (now : ℕ) :
    (riskTarget s.facility now).targetState = .flatten ↔ AtCap s.facility now := by
  have hchecked := assertFacility_eq_ok.1 h.checked
  have hequity := h.equity
  have hexposure := hchecked.exposure.1
  have hnonneg := hchecked.equity.1
  rw [riskTarget, AtCap]
  split_ifs with hstale hcapital hcap hhigh helevated
  · exact ⟨(fun h ↦ by cases h), fun hatcap ↦ by omega⟩
  · exact ⟨(fun h ↦ by cases h), fun hatcap ↦ by omega⟩
  · rw [utilizationBps_ge_iff (by omega) hexposure] at hcap
    exact ⟨fun _ ↦ by omega, fun _ ↦ rfl⟩
  all_goals
    rw [utilizationBps_ge_iff (by omega) hexposure] at hcap
    exact ⟨(fun h ↦ by cases h), fun hatcap ↦ by omega⟩

theorem mostRestrictiveRiskState_eq_flatten_iff {left right : TradingFacilityRiskState}
    (hflatten : left ≠ .flatten) (hsettlement : left ≠ .settlement) :
    mostRestrictiveRiskState left right = .flatten ↔ right = .flatten := by
  revert hflatten hsettlement
  cases left <;> cases right <;> decide

theorem Kept.active_iff (h : Kept hashId s) (hop : Operated hashId s input command s') :
    s'.facility.lifecycleStatus = .active ↔ command.staysActive = true := by
  cases hop with
  | contribute active flattened written =>
    have hlife := (facilityLifecycle_cases true s.facility.providerFundingRecorded).1
    rw [written.state_eq]
    exact ⟨fun hactive ↦ absurd hactive hlife, nofun⟩
  | fund active flattened written =>
    have hlife := (facilityLifecycle_cases s.facility.subjectCollateralRecorded true).1
    rw [written.state_eq]
    exact ⟨fun hactive ↦ absurd hactive hlife, nofun⟩
  | activate ready written =>
    rw [written.state_eq]
    exact ⟨fun _ ↦ rfl, fun _ ↦ rfl⟩
  | submit fresh active id_eq opened version_eq notional_eq facility_eq checked written =>
    rw [written.state_eq]
    exact ⟨fun _ ↦ rfl, fun _ ↦ active⟩
  | cancel mem ended written =>
    rw [written.state_eq]
    exact ⟨fun _ ↦ rfl, fun _ ↦ h.active_of_opened mem ended.opened⟩
  | evaluate active written | pause active risk written =>
    rw [written.state_eq]
    exact ⟨fun _ ↦ rfl, fun _ ↦ active⟩
  | flatten active risk mem length_eq sum_eq distinct ended written =>
    rw [written.state_eq]
    exact ⟨nofun, nofun⟩
  | close flattened risk =>
    rw [flattened]
    exact ⟨nofun, nofun⟩
  | settle flattened risk written settlement_eq =>
    rw [written.state_eq]
    show s.facility.lifecycleStatus = .active ↔ _
    rw [flattened]
    exact ⟨nofun, nofun⟩

/-- Which operation puts an active facility into the risk state `flatten`. -/
theorem Kept.flatten_iff (h : Kept hashId s) (hop : Operated hashId s input command s')
    (hactive : command.staysActive = true)
    (hrisk : s.facility.lifecycleStatus = .active → s.facility.riskState ≠ .flatten) :
    s'.facility.riskState = .flatten ↔
      ∃ id, command = .evaluate id ∧ AtCap s.facility input.now := by
  cases hop with
  | contribute | fund | flatten | close | settle => cases hactive
  | activate ready written =>
    rw [written.state_eq]
    exact ⟨nofun, nofun⟩
  | submit fresh active id_eq opened version_eq notional_eq facility_eq checked written =>
    rw [written.state_eq]
    exact ⟨fun hflatten ↦ absurd hflatten (hrisk active), nofun⟩
  | cancel mem ended written =>
    rw [written.state_eq]
    exact ⟨fun hflatten ↦ absurd hflatten (hrisk (h.active_of_opened mem ended.opened)), nofun⟩
  | evaluate active written =>
    have hsettlement := riskFits_ne_settlement h.risk (by rw [active]; decide)
    have htarget : mostRestrictiveRiskState s.facility.riskState
        (riskTarget s.facility input.now).targetState = .flatten ↔ _ :=
      mostRestrictiveRiskState_eq_flatten_iff (hrisk active) hsettlement
    rw [h.riskTarget_eq_flatten_iff] at htarget
    rw [written.state_eq]
    constructor
    · exact fun hflatten ↦ ⟨_, rfl, htarget.1 hflatten⟩
    · rintro ⟨_, _, hcap⟩
      exact htarget.2 hcap
  | pause active risk written =>
    have hsettlement := riskFits_ne_settlement h.risk (by rw [active]; decide)
    have htarget : mostRestrictiveRiskState s.facility.riskState .reduceOnly = .flatten ↔ _ :=
      mostRestrictiveRiskState_eq_flatten_iff (hrisk active) hsettlement
    rw [written.state_eq]
    exact ⟨fun hflatten ↦ absurd (htarget.1 hflatten) (by decide), nofun⟩

omit [DecidableEq H] in
theorem writes_of_staysActive (h : command.staysActive = true) : command.writes = 1 := by
  cases command <;> first | rfl | cases h

theorem createTradingFacility_lifecycle {id : String} {matchProposal : MatchProposal H}
    {obligation : CanonicalObligation H} {createdByActorId : String} {now : ℕ}
    {facility : TradingFacility H}
    (h : createTradingFacility hashId id matchProposal obligation createdByActorId now
      = .ok facility) : facility.lifecycleStatus = .awaitingContributions := by
  simp only [createTradingFacility, bind_eq_ok, pure_eq_ok] at h
  obtain ⟨_, _, _, _, _, _, _, _, _, _, _, _, rfl⟩ := h
  rfl

/-- **What keeps a way out.**  An operation that is accepted and leaves the facility active is no
evaluation at the cap, and leaves the two versions it takes to get out. -/
def KeepsWayOut (hashId : TradingPreimage H → H) (s : TradingState H) (input : TradingInput H) :
    Prop :=
  (∃ s', operate hashId s input.expected input.command = .ok s') →
    input.command.staysActive = true →
      isSafeInteger (s.facility.version + 3) ∧
        ∀ id, input.command = .evaluate id → ¬ AtCap s.facility input.expected.now

theorem keepsWayOut_of_not_atCap {input : TradingInput H}
    (hsafe : isSafeInteger (s.facility.version + 3))
    (hcap : ¬ AtCap s.facility input.expected.now) : KeepsWayOut hashId s input :=
  fun _ _ ↦ ⟨hsafe, fun _ _ ↦ hcap⟩

/-- **Whole runs of a facility.**  An active facility can be flattened, closed and settled all along
a run exactly if every operation of the run keeps a way out. -/
theorem settleable_along_iff {id : String} {matchProposal : MatchProposal H}
    {obligation : CanonicalObligation H} {createdByActorId : String} {now : ℕ}
    {facility : TradingFacility H}
    (hcreate : createTradingFacility hashId id matchProposal obligation createdByActorId now
      = .ok facility) (inputs : List (TradingInput H)) :
    Run.Along (tradingStep hashId)
        (fun s ↦ s.facility.lifecycleStatus = .active → Settleable hashId s) (opened facility)
        inputs ↔
      Run.Steps (tradingStep hashId) (KeepsWayOut hashId) (opened facility) inputs := by
  have hready := createTradingFacility_ready hcreate
  refine Run.along_iff_steps (fun t i ht ↦ ht.tradingStep i) ?_ inputs hready ?_
  · intro t i ht hout
    have hclear : t.facility.lifecycleStatus = .active → t.facility.riskState ≠ .flatten :=
      fun hactive ↦ ((ht.settleable_iff hactive).1 (hout hactive)).1
    rw [tradingStep, KeepsWayOut]
    split
    · rename_i next hok
      have hop := operate_ok hok
      have hnext := ht.operated hop
      have hversion := (ht.kept.advances hop).2
      have hrisk := fun hstays ↦ ht.kept.flatten_iff hop hstays hclear
      rw [ht.kept.active_iff hop]
      constructor
      · intro hsettleable _ hstays
        have hactive := (ht.kept.active_iff hop).2 hstays
        obtain ⟨hnot, hsafe⟩ := (hnext.settleable_iff hactive).1 (hsettleable hstays)
        rw [hversion, writes_of_staysActive hstays] at hsafe
        exact ⟨hsafe, fun id hid hcap ↦ hnot ((hrisk hstays).2 ⟨id, hid, hcap⟩)⟩
      · intro hkeeps hstays
        have hactive := (ht.kept.active_iff hop).2 hstays
        obtain ⟨hsafe, hnot⟩ := hkeeps ⟨next, hok⟩ hstays
        refine (hnext.settleable_iff hactive).2 ⟨fun hflatten ↦ ?_, ?_⟩
        · obtain ⟨id, hid, hcap⟩ := (hrisk hstays).1 hflatten
          exact hnot id hid hcap
        · rw [hversion, writes_of_staysActive hstays]
          exact hsafe
    · rename_i error hrefused
      refine ⟨fun _ haccepted ↦ ?_, fun _ ↦ hout⟩
      obtain ⟨next, hok⟩ := haccepted
      rw [hrefused] at hok
      cases hok
  · intro hactive
    rw [opened, createTradingFacility_lifecycle hcreate] at hactive
    cases hactive

/-! ## No way back -/

/-- The facility is active, and to be flattened. -/
structure Stuck (hashId : TradingPreimage H → H) (s : TradingState H) : Prop where
  kept : Kept hashId s
  active : s.facility.lifecycleStatus = .active
  risk : s.facility.riskState = .flatten

theorem Stuck.settlements_eq_nil (h : Stuck hashId s) : s.settlements = [] :=
  h.kept.settlements_eq_nil (by rw [h.risk]; decide)

/-- It is not flattened. -/
theorem Stuck.flatten_refused (h : Stuck hashId s) (input : Expected H) (ids : List String)
    (reasonCode : String) (s' : TradingState H) :
    operate hashId s input (.flatten ids reasonCode) ≠ .ok s' := fun hok ↦
  (operate_ok hok).of_flatten.1 h.risk

/-- Nor is it paused. -/
theorem Stuck.pause_refused (h : Stuck hashId s) (input : Expected H) (reasonCode : String)
    (s' : TradingState H) : operate hashId s input (.pause reasonCode) ≠ .ok s' := by
  intro hok
  cases operate_ok hok with
  | pause active risk written =>
    refine risk ?_
    rw [h.risk]
    exact List.mem_cons_self ..

theorem Stuck.operated (h : Stuck hashId s) (hop : Operated hashId s input command s') :
    Stuck hashId s' := by
  have hkept := h.kept.operated hop
  have hactive := h.active
  cases hop with
  | contribute active | fund active => exact absurd hactive active
  | activate ready written =>
    rw [ready] at hactive
    cases hactive
  | submit fresh active id_eq opened version_eq notional_eq facility_eq checked written =>
    exact ⟨hkept, by rw [written.state_eq]; exact hactive, by rw [written.state_eq]; exact h.risk⟩
  | cancel mem ended written =>
    exact ⟨hkept, by rw [written.state_eq]; exact hactive, by rw [written.state_eq]; exact h.risk⟩
  | evaluate active written =>
    refine ⟨hkept, by rw [written.state_eq]; exact hactive, ?_⟩
    rw [written.state_eq]
    show mostRestrictiveRiskState s.facility.riskState _ = .flatten
    have htarget := riskTarget_ne_settlement s.facility input.now
    rw [h.risk]
    revert htarget
    cases (riskTarget s.facility input.now).targetState <;> decide
  | pause active risk written =>
    rw [h.risk] at risk
    exact absurd (List.mem_cons_self ..) risk
  | flatten active risk mem length_eq sum_eq distinct ended written =>
    rw [h.risk] at risk
    exact absurd (List.mem_cons_self ..) risk
  | close flattened risk =>
    rw [flattened] at hactive
    cases hactive
  | settle flattened risk written settlement_eq =>
    rw [flattened] at hactive
    cases hactive

/-- **A facility that is stuck stays stuck.** -/
theorem Stuck.run (h : Stuck hashId s) (inputs : List (TradingInput H)) :
    Stuck hashId (Run.run (tradingStep hashId) s inputs) := by
  refine Run.run_induct (fun t i ht ↦ ?_) h inputs
  rcases operated_of_tradingStep hashId t i with hsame | hop
  · rwa [hsame]
  · exact ht.operated hop

end Runs

namespace TradingSample

/-- An order takes all of the capital, and the facility is evaluated at once. -/
def evaluationAtCap : List (TradingInput (List ℕ)) :=
  [operation "actor_subject" 4 40 (.submit "order-1" .long 1100),
    operation "actor_risk" 5 50 (.evaluate "evaluation")]

theorem kept_after (inputs : List (TradingInput (List ℕ))) : Kept hashId (after inputs) :=
  Run.run_induct (fun _ i ht ↦ ht.tradingStep i) (createTradingFacility_ok created) inputs

end TradingSample

/-- The facility of the sample can be left after two orders, an evaluation and a cancellation. -/
theorem settleable_along_orders :
    Run.Along (tradingStep TradingSample.hashId)
        (fun s ↦ s.facility.lifecycleStatus = .active → Settleable TradingSample.hashId s)
        (opened TradingSample.facility) (TradingSample.start ++ TradingSample.orders) ∧
      let s := TradingSample.after (TradingSample.start ++ TradingSample.orders)
      s.facility.lifecycleStatus = .active ∧ s.facility.riskState = .reduceOnly ∧
        s.facility.openOrderCount = 1 := by
  refine ⟨(settleable_along_iff TradingSample.created _).2 ?_, by decide +kernel⟩
  refine ⟨?_, ?_, ?_, ?_, ?_, ?_, ?_, trivial⟩ <;>
    exact keepsWayOut_of_not_atCap (by decide +kernel) (by decide +kernel)

/-- One order of 1100 and an evaluation within the same five minutes leave the facility active, with
an order open; from then on it is never paused, flattened or settled, whatever is done. -/
theorem evaluation_at_cap_stuck :
    let s := TradingSample.after (TradingSample.start ++ TradingSample.evaluationAtCap)
    s.facility.lifecycleStatus = .active ∧ s.facility.openOrderCount = 1 ∧
      ¬ Settleable TradingSample.hashId s ∧
      ∀ inputs, let t := Run.run (tradingStep TradingSample.hashId) s inputs
        t.facility.lifecycleStatus = .active ∧ t.settlements = [] ∧
          (∀ input reasonCode t', operate TradingSample.hashId t input (.pause reasonCode) ≠ .ok t')
            ∧
          ∀ input ids reasonCode t',
            operate TradingSample.hashId t input (.flatten ids reasonCode) ≠ .ok t' := by
  have hstuck : Stuck TradingSample.hashId
      (TradingSample.after (TradingSample.start ++ TradingSample.evaluationAtCap)) :=
    ⟨TradingSample.kept_after _, by decide +kernel, by decide +kernel⟩
  refine ⟨hstuck.active, by decide +kernel, fun hout ↦ ?_, fun inputs ↦ ?_⟩
  · obtain ⟨ids, reasonCode, _, _, _, _, flattenedBy, _, _, _, _, _, _, ⟨s₁, hflatten, _⟩, _⟩ :=
      hout 0
    exact hstuck.flatten_refused flattenedBy ids reasonCode s₁ hflatten
  · have hrun := hstuck.run inputs
    exact ⟨hrun.active, hrun.settlements_eq_nil, hrun.pause_refused, hrun.flatten_refused⟩

end Trading
end IpoOne
