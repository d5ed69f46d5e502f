import IpoOne.Trading.System
import Mathlib

/-!
# What a facility says about its orders

The facility keeps the exposure and the number of its open orders as totals of its own, which every
operation updates by itself.  `Operated` says what each operation checks and writes; `Kept` is the
invariant that ties the totals to the orders, and `trading_facility_along` the result about whole
runs.

A total over the orders is a sum of weights, one for each order, so that one lemma about writing an
order (`total_writeOrder`) serves the exposure and the count.
-/

set_option autoImplicit false

namespace IpoOne
namespace Trading

open Fallible

/-! ## Totals over the orders -/

section Totals

variable {H : Type}

/-- The orders that are open. -/
def openOrders (orders : List (TradingOrderIntent H)) : List (TradingOrderIntent H) :=
  orders.filter fun order ↦ order.status = .opened

/-- A sum over the orders. -/
def total (weight : TradingOrderIntent H → ℤ) (orders : List (TradingOrderIntent H)) : ℤ :=
  (orders.map weight).sum

/-- What an order adds to the exposure. -/
def exposed (order : TradingOrderIntent H) : ℤ :=
  if order.status = .opened then order.core.syntheticNotionalMinor else 0

/-- What an order adds to the number of open ones. -/
def counted (order : TradingOrderIntent H) : ℤ := if order.status = .opened then 1 else 0

theorem total_exposed (orders : List (TradingOrderIntent H)) :
    total exposed orders = ((openOrders orders).map (·.core.syntheticNotionalMinor)).sum := by
  induction orders with
  | nil => rfl
  | cons order rest ih =>
    rw [total, List.map_cons, List.sum_cons, openOrders, List.filter_cons]
    by_cases hopen : order.status = .opened
    · rw [if_pos (decide_eq_true hopen), List.map_cons, List.sum_cons, exposed, if_pos hopen]
      exact congrArg _ ih
    · rw [if_neg (by simpa using hopen), exposed, if_neg hopen, zero_add]
      exact ih

theorem total_counted (orders : List (TradingOrderIntent H)) :
    total counted orders = (openOrders orders).length := by
  induction orders with
  | nil => rfl
  | cons order rest ih =>
    rw [total, List.map_cons, List.sum_cons, openOrders, List.filter_cons]
    by_cases hopen : order.status = .opened
    · rw [if_pos (decide_eq_true hopen), List.length_cons, counted, if_pos hopen]
      have htail : (rest.map counted).sum = (openOrders rest).length := ih
      rw [openOrders] at htail
      omega
    · rw [if_neg (by simpa using hopen), counted, if_neg hopen, zero_add]
      exact ih

theorem total_append (weight : TradingOrderIntent H → ℤ) (xs ys : List (TradingOrderIntent H)) :
    total weight (xs ++ ys) = total weight xs + total weight ys := by
  rw [total, List.map_append, List.sum_append, total, total]

/-- The identifiers of the orders. -/
def orderIds (orders : List (TradingOrderIntent H)) : List String :=
  orders.map (·.tradingOrderIntentId)

theorem orderIds_writeOrder (orders : List (TradingOrderIntent H)) (order : TradingOrderIntent H) :
    orderIds (writeOrder orders order) = orderIds orders := by
  rw [orderIds, writeOrder, List.map_map, orderIds]
  refine List.map_congr_left fun other _ ↦ ?_
  rw [Function.comp_apply]
  split
  · rename_i hsame
    exact hsame.symm
  · rfl

theorem mem_writeOrder_of_ne {orders : List (TradingOrderIntent H)}
    {order other : TradingOrderIntent H} (hmem : other ∈ orders)
    (hne : other.tradingOrderIntentId ≠ order.tradingOrderIntentId) :
    other ∈ writeOrder orders order :=
  List.mem_map.2 ⟨other, hmem, if_neg hne⟩

theorem writeOrder_of_not_mem {orders : List (TradingOrderIntent H)} {order : TradingOrderIntent H}
    (h : order.tradingOrderIntentId ∉ orderIds orders) : writeOrder orders order = orders := by
  rw [writeOrder]
  refine (List.map_congr_left fun other hother ↦ ?_).trans (List.map_id orders)
  refine if_neg fun hsame ↦ h ?_
  rw [← hsame]
  exact List.mem_map_of_mem hother

/-- **Writing an order** changes a total by the difference of its weights. -/
theorem total_writeOrder {orders : List (TradingOrderIntent H)} (hids : (orderIds orders).Nodup)
    {before after : TradingOrderIntent H} (hmem : before ∈ orders)
    (hid : after.tradingOrderIntentId = before.tradingOrderIntentId)
    (weight : TradingOrderIntent H → ℤ) :
    total weight (writeOrder orders after)
      = total weight orders - weight before + weight after := by
  induction orders with
  | nil => exact absurd hmem List.not_mem_nil
  | cons order rest ih =>
    rw [orderIds, List.map_cons, List.nodup_cons] at hids
    rw [writeOrder, List.map_cons, total, List.map_cons, List.sum_cons, total, List.map_cons,
      List.sum_cons]
    rcases List.mem_cons.1 hmem with rfl | hrest
    · -- the order is the first, and the others have other identifiers
      have hsame : (rest.map fun other ↦ if other.tradingOrderIntentId = after.tradingOrderIntentId
          then after else other) = rest :=
        writeOrder_of_not_mem (by rw [hid]; exact hids.1)
      rw [if_pos hid.symm, hsame]
      omega
    · have hne : order.tradingOrderIntentId ≠ after.tradingOrderIntentId := by
        rw [hid]
        intro hsame
        refine hids.1 ?_
        rw [hsame]
        exact List.mem_map_of_mem hrest
      have htail : ((rest.map fun other ↦
          if other.tradingOrderIntentId = after.tradingOrderIntentId then after else other).map
            weight).sum = (rest.map weight).sum - weight before + weight after := ih hids.2 hrest
      rw [if_neg hne, htail]
      omega

/-- Writing several orders, each over an order of the store. -/
theorem total_foldl_writeOrder (weight : TradingOrderIntent H → ℤ) :
    ∀ {befores afters : List (TradingOrderIntent H)} {orders : List (TradingOrderIntent H)},
      (orderIds orders).Nodup → (∀ before ∈ befores, before ∈ orders) →
      (orderIds befores).Nodup →
      List.Forall₂ (fun before after ↦
        after.tradingOrderIntentId = before.tradingOrderIntentId) befores afters →
      total weight (afters.foldl writeOrder orders)
          = total weight orders - total weight befores + total weight afters ∧
        orderIds (afters.foldl writeOrder orders) = orderIds orders := by
  intro befores
  induction befores with
  | nil =>
    intro afters orders _ _ _ hpairs
    cases hpairs
    exact ⟨by simp [total], rfl⟩
  | cons before befores ih =>
    intro afters orders hids hmem hdistinct hpairs
    cases hpairs with
    | @cons _ after _ afters hid hrest =>
      obtain ⟨hhead, htail⟩ := List.forall_mem_cons.1 hmem
      rw [orderIds, List.map_cons, List.nodup_cons] at hdistinct
      have hids' := orderIds_writeOrder orders after
      obtain ⟨hsum, hsame⟩ := ih (by rw [hids']; exact hids)
        (fun other hother ↦ mem_writeOrder_of_ne (htail other hother) (by
          rw [hid]
          intro heq
          refine hdistinct.1 ?_
          rw [← heq]
          exact List.mem_map_of_mem hother)) hdistinct.2 hrest
      rw [List.foldl_cons, hsum, hsame, hids', total_writeOrder hids hhead hid]
      refine ⟨?_, rfl⟩
      rw [total, total, total, total, total, List.map_cons, List.sum_cons, List.map_cons,
        List.sum_cons]
      omega

end Totals

/-! ## What an operation checks and writes -/

section Operations

variable {H : Type} [DecidableEq H] {hashId : TradingPreimage H → H}

/-- `next` is `facility` with the changes, written at `now`. -/
structure Written (hashId : TradingPreimage H → H) (facility : TradingFacility H)
    (changed : FacilityStateCore H) (now : ℕ) (next : TradingFacility H) : Prop where
  eq : next = sealFacility hashId facility.core
    { changed with version := facility.version + 1, updatedAt := now } now
  checked : assertFacility hashId next = .ok ()

theorem updateFacilityState_ok {facility next : TradingFacility H} {changed : FacilityStateCore H}
    {now : ℕ} (h : updateFacilityState hashId facility changed now = .ok next) :
    Written hashId facility changed now next := by
  simp only [updateFacilityState, bind_eq_ok, pure_eq_ok] at h
  obtain ⟨_, hchecked, rfl⟩ := h
  exact ⟨rfl, hchecked⟩

theorem Written.state_eq {facility next : TradingFacility H} {changed : FacilityStateCore H}
    {now : ℕ} (h : Written hashId facility changed now next) :
    next.toFacilityStateCore
      = { changed with version := facility.version + 1, updatedAt := now } := by
  rw [h.eq]
  rfl

theorem Written.core_eq {facility next : TradingFacility H} {changed : FacilityStateCore H}
    {now : ℕ} (h : Written hashId facility changed now next) : next.core = facility.core := by
  rw [h.eq]
  rfl

theorem Written.version_eq {facility next : TradingFacility H} {changed : FacilityStateCore H}
    {now : ℕ} (h : Written hashId facility changed now next) :
    next.version = facility.version + 1 := by
  rw [h.eq]
  rfl

/-- What `updateOrderState` returns: the order with another status. -/
structure OrderEnded (hashId : TradingPreimage H → H) (before after : TradingOrderIntent H)
    (status : TradingOrderIntentStatus) : Prop where
  opened : before.status = .opened
  id_eq : after.tradingOrderIntentId = before.tradingOrderIntentId
  core_eq : after.core = before.core
  status_eq : after.status = status
  checked : assertOrderIntent hashId after = .ok ()

theorem updateOrderState_ok {order next : TradingOrderIntent H} {changed : OrderIntentStateCore H}
    {now : ℕ} (h : updateOrderState hashId order changed now = .ok next) :
    next.toOrderIntentStateCore = { changed with version := order.version + 1, updatedAt := now } ∧
      next.core = order.core ∧ assertOrderIntent hashId next = .ok () := by
  simp only [updateOrderState, bind_eq_ok, pure_eq_ok] at h
  obtain ⟨_, hchecked, rfl⟩ := h
  exact ⟨rfl, rfl, hchecked⟩

theorem flattenOrder_ok {facility : TradingFacility H} {reasonCode : String} {now : ℕ}
    {seen : List String} {order next : TradingOrderIntent H}
    (h : flattenOrder hashId facility reasonCode now seen order = .ok next) :
    OrderEnded hashId order next .flattened ∧ order.tradingOrderIntentId ∉ seen := by
  simp only [flattenOrder, bind_eq_ok, unavailable_eq_ok, not_or, not_not] at h
  obtain ⟨_, _, _, ⟨_, hopened, hseen⟩, hnext⟩ := h
  obtain ⟨hstate, hcore, hchecked⟩ := updateOrderState_ok hnext
  exact ⟨⟨hopened, by rw [hstate], hcore, by rw [hstate], hchecked⟩, hseen⟩

theorem flattenOrders_ok {facility : TradingFacility H} {reasonCode : String} {now : ℕ} :
    ∀ {orders flattened : List (TradingOrderIntent H)} {seen : List String},
      flattenOrders hashId facility reasonCode now seen orders = .ok flattened →
      List.Forall₂ (fun before after ↦ OrderEnded hashId before after .flattened) orders flattened ∧
        (orderIds orders).Nodup ∧ ∀ id ∈ orderIds orders, id ∉ seen := by
  intro orders
  induction orders with
  | nil =>
    intro flattened seen h
    cases pure_eq_ok.1 h
    exact ⟨.nil, List.nodup_nil, List.forall_mem_nil _⟩
  | cons order rest ih =>
    intro flattened seen h
    simp only [flattenOrders, bind_eq_ok, pure_eq_ok] at h
    obtain ⟨next, hnext, others, hothers, rfl⟩ := h
    obtain ⟨hended, hfresh⟩ := flattenOrder_ok hnext
    obtain ⟨hpairs, hdistinct, hunseen⟩ := ih hothers
    refine ⟨.cons hended hpairs, List.nodup_cons.2 ⟨fun hmem ↦ ?_, hdistinct⟩,
      List.forall_mem_cons.2 ⟨hfresh, fun id hid hseen ↦ ?_⟩⟩
    · exact hunseen _ hmem (List.mem_cons_self ..)
    · exact hunseen id hid (List.mem_cons_of_mem _ hseen)

omit [DecidableEq H] in
theorem findOrder_ok {orders : List (TradingOrderIntent H)} {id : String}
    {order : TradingOrderIntent H} (h : findOrder orders id = .ok order) :
    order ∈ orders ∧ order.tradingOrderIntentId = id := by
  rw [findOrder] at h
  split at h
  · rename_i found hfind
    cases h
    exact ⟨List.mem_of_find?_eq_some hfind, by simpa using List.find?_some hfind⟩
  · cases h

/-- **What an operation checks and writes.**  The guards are those that later results need. -/
inductive Operated (hashId : TradingPreimage H → H) (s : TradingState H) (input : Expected H) :
    TradingCommand H → TradingState H → Prop where
  | contribute {amountMinor : ℤ} {facility : TradingFacility H}
      (active : s.facility.lifecycleStatus ≠ .active)
      (flattened : s.facility.lifecycleStatus ≠ .flattened)
      (written : Written hashId s.facility
        { s.facility.toFacilityStateCore with
          subjectCollateralMinor := amountMinor
          subjectCollateralRecorded := true
          syntheticCapitalMinor := amountMinor + s.facility.providerFundingMinor
          syntheticEquityMinor := amountMinor + s.facility.providerFundingMinor
          lifecycleStatus := facilityLifecycle true s.facility.providerFundingRecorded
          riskReasonCodes := ["synthetic_subject_collateral_recorded"] } input.now facility) :
      Operated hashId s input (.contribute amountMinor) { s with facility }
  | fund {amountMinor : ℤ} {facility : TradingFacility H}
      (active : s.facility.lifecycleStatus ≠ .active)
      (flattened : s.facility.lifecycleStatus ≠ .flattened)
      (written : Written hashId s.facility
        { s.facility.toFacilityStateCore with
          providerFundingMinor := amountMinor
          providerFundingRecorded := true
          syntheticCapitalMinor := amountMinor + s.facility.subjectCollateralMinor
          syntheticEquityMinor := amountMinor + s.facility.subjectCollateralMinor
          lifecycleStatus := facilityLifecycle s.facility.subjectCollateralRecorded true
          riskReasonCodes := ["synthetic_provider_funding_recorded"] } input.now facility) :
      Operated hashId s input (.fund amountMinor) { s with facility }
  | activate {matchProposal : MatchProposal H} {obligation : CanonicalObligation H}
      {facility : TradingFacility H}
      (ready : s.facility.lifecycleStatus = .readyForActivation)
      (written : Written hashId s.facility
        { s.facility.toFacilityStateCore with
          lifecycleStatus := .active
          riskState := .normal
          riskReasonCodes := ["synthetic_facility_activated"]
          activatedAt := some input.now } input.now facility) :
      Operated hashId s input (.activate matchProposal obligation) { s with facility }
  | submit {tradingOrderIntentId : String} {direction : TradingOrderDirection}
      {syntheticNotionalMinor : ℤ} {facility : TradingFacility H} {order : TradingOrderIntent H}
      (fresh : tradingOrderIntentId ∉ orderIds s.orders)
      (active : s.facility.lifecycleStatus = .active)
      (id_eq : order.tradingOrderIntentId = tradingOrderIntentId)
      (opened : order.status = .opened)
      (version_eq : order.version = 1)
      (notional_eq : order.core.syntheticNotionalMinor = syntheticNotionalMinor)
      (facility_eq : order.core.facilityId = s.facility.tradingFacilityId)
      (checked : assertOrderIntent hashId order = .ok ())
      (written : Written hashId s.facility
        { s.facility.toFacilityStateCore with
          syntheticExposureMinor := s.facility.syntheticExposureMinor + syntheticNotionalMinor
          syntheticEquityMinor := s.facility.syntheticCapitalMinor
            - (s.facility.syntheticExposureMinor + syntheticNotionalMinor)
          openOrderCount := s.facility.openOrderCount + 1
          riskReasonCodes := ["synthetic_order_intent_open"] } input.now facility) :
      Operated hashId s input (.submit tradingOrderIntentId direction syntheticNotionalMinor)
        { s with facility, orders := s.orders ++ [order] }
  | cancel {tradingOrderIntentId : String} {expectedOrderIntentHash : H}
      {expectedOrderVersion : ℕ} {facility : TradingFacility H}
      {before after : TradingOrderIntent H} (mem : before ∈ s.orders)
      (ended : OrderEnded hashId before after .canceled)
      (written : Written hashId s.facility
        { s.facility.toFacilityStateCore with
          syntheticExposureMinor :=
            s.facility.syntheticExposureMinor - before.core.syntheticNotionalMinor
          syntheticEquityMinor := s.facility.syntheticCapitalMinor
            - (s.facility.syntheticExposureMinor - before.core.syntheticNotionalMinor)
          openOrderCount := s.facility.openOrderCount - 1
          riskReasonCodes := ["synthetic_order_intent_canceled"] } input.now facility) :
      Operated hashId s input
        (.cancel tradingOrderIntentId expectedOrderIntentHash expectedOrderVersion)
        { s with facility, orders := writeOrder s.orders after }
  | evaluate {riskEvaluationId : String} {facility : TradingFacility H} {evaluationHash : H}
      (active : s.facility.lifecycleStatus = .active)
      (written : Written hashId s.facility
        { s.facility.toFacilityStateCore with
          riskState := mostRestrictiveRiskState s.facility.riskState
            (riskTarget s.facility input.now).targetState
          riskReasonCodes := (riskTarget s.facility input.now).reasonCodes
          latestRiskEvaluation := some (riskEvaluationId, evaluationHash) } input.now facility) :
      Operated hashId s input (.evaluate riskEvaluationId) { s with facility }
  | pause {reasonCode : String} {facility : TradingFacility H}
      (active : s.facility.lifecycleStatus = .active)
      (risk : s.facility.riskState ∉ [.flatten, .settlement])
      (written : Written hashId s.facility
        { s.facility.toFacilityStateCore with
          riskState := mostRestrictiveRiskState s.facility.riskState .reduceOnly
          riskReasonCodes := ["protective_pause:" ++ reasonCode] } input.now facility) :
      Operated hashId s input (.pause reasonCode) { s with facility }
  | flatten {ids : List String} {reasonCode : String} {facility : TradingFacility H}
      {befores afters : List (TradingOrderIntent H)}
      (active : s.facility.lifecycleStatus = .active)
      (risk : s.facility.riskState ∉ [.flatten, .settlement])
      (mem : ∀ before ∈ befores, before ∈ s.orders)
      (length_eq : (befores.length : ℤ) = s.facility.openOrderCount)
      (sum_eq : (befores.map (·.core.syntheticNotionalMinor)).sum
        = s.facility.syntheticExposureMinor)
      (distinct : (orderIds befores).Nodup)
      (ended : List.Forall₂ (fun before after ↦ OrderEnded hashId before after .flattened) befores
        afters)
      (written : Written hashId s.facility
        { s.facility.toFacilityStateCore with
          lifecycleStatus := .flattened
          riskState := .flatten
          riskReasonCodes := ["protective_flatten:" ++ reasonCode]
          syntheticExposureMinor := 0
          syntheticEquityMinor := s.facility.syntheticCapitalMinor
          openOrderCount := 0
          flattenedAt := some input.now } input.now facility) :
      Operated hashId s input (.flatten ids reasonCode)
        { s with facility, orders := afters.foldl writeOrder s.orders }
  | close {closeRequestId : String} {request : CloseRequest H}
      (flattened : s.facility.lifecycleStatus = .flattened)
      (risk : s.facility.riskState = .flatten) :
      Operated hashId s input (.close closeRequestId)
        { s with closeRequests := s.closeRequests ++ [request] }
  | settle {closeRequestId : String} {obligation : CanonicalObligation H}
      {expectedCloseRequestHash : H} {tradingSettlementId : String}
      {facility : TradingFacility H} {request : CloseRequest H} {settlement : Settlement H}
      (flattened : s.facility.lifecycleStatus = .flattened)
      (risk : s.facility.riskState = .flatten)
      (written : Written hashId s.facility
        { s.facility.toFacilityStateCore with
          riskState := .settlement
          riskReasonCodes := ["synthetic_settlement_finalized"] } input.now facility)
      (settlement_eq : ∃ settledByActorHash, settlement.toSettlementCore
        = settlementOf s.facility facility request settledByActorHash input.now) :
      Operated hashId s input
        (.settle closeRequestId obligation expectedCloseRequestHash tradingSettlementId)
        { s with facility, settlements := s.settlements ++ [settlement] }

theorem operate_ok {s s' : TradingState H} {input : Expected H} {command : TradingCommand H}
    (h : operate hashId s input command = .ok s') : Operated hashId s input command s' := by
  cases command <;>
    simp only [operate, cancelSnapshot, flattenSnapshots, bind_eq_ok, pure_eq_ok, Prod.exists] at h
  case contribute =>
    obtain ⟨facility, call, rfl⟩ := h
    simp only [contributeTradingSubjectCollateral, bind_eq_ok, unavailable_eq_ok, not_or] at call
    obtain ⟨_, _, _, _, _, _, _, ⟨_, _, hactive, hflattened⟩, _, _, _, _, hwrite⟩ := call
    exact .contribute hactive hflattened (updateFacilityState_ok hwrite)
  case fund =>
    obtain ⟨facility, call, rfl⟩ := h
    simp only [recordTradingProviderFunding, bind_eq_ok, unavailable_eq_ok, not_or] at call
    obtain ⟨_, _, _, _, _, _, _, ⟨_, _, hactive, hflattened⟩, _, _, _, _, hwrite⟩ := call
    exact .fund hactive hflattened (updateFacilityState_ok hwrite)
  case activate =>
    obtain ⟨facility, call, rfl⟩ := h
    simp only [activateTradingFacility, bind_eq_ok, unavailable_eq_ok, not_or, not_not] at call
    obtain ⟨_, _, _, _, _, _, _, _, _, _, _, ⟨hready, _⟩, hwrite⟩ := call
    exact .activate hready (updateFacilityState_ok hwrite)
  case submit =>
    obtain ⟨_, hfresh, facility, order, call, rfl⟩ := h
    simp only [submitTradingOrderIntent, bind_eq_ok, unavailable_eq_ok, not_or, not_not,
      pure_eq_ok, Prod.mk.injEq] at call
    obtain ⟨_, _, _, _, _, _, _, ⟨hactive, _⟩, _, _, _, _, _, hchecked, _, hwrite, rfl, rfl⟩ := call
    refine .submit ?_ hactive rfl rfl rfl rfl rfl hchecked (updateFacilityState_ok hwrite)
    simpa [orderIds] using hfresh
  case cancel =>
    obtain ⟨before, hfound, facility, after, call, rfl⟩ := h
    simp only [cancelTradingOrderIntent, bind_eq_ok, unavailable_eq_ok, not_or, not_not,
      pure_eq_ok, Prod.mk.injEq] at call
    obtain ⟨_, _, _, _, _, _, _, _, _, ⟨_, hopened, _⟩, _, _, _, horder, _, hwrite, rfl, rfl⟩ :=
      call
    obtain ⟨hstate, hcore, hchecked⟩ := updateOrderState_ok horder
    exact .cancel (findOrder_ok hfound).1
      ⟨hopened, by rw [hstate], hcore, by rw [hstate], hchecked⟩ (updateFacilityState_ok hwrite)
  case evaluate =>
    obtain ⟨facility, call, rfl⟩ := h
    simp only [evaluateTradingFacilityRisk, bind_eq_ok, unavailable_eq_ok, not_not] at call
    obtain ⟨_, _, _, hactive, _, _, hwrite⟩ := call
    exact .evaluate hactive (updateFacilityState_ok hwrite)
  case pause =>
    obtain ⟨facility, call, rfl⟩ := h
    simp only [pauseTradingFacilityNewRisk, bind_eq_ok, unavailable_eq_ok, not_or, not_not] at call
    obtain ⟨_, _, _, _, _, _, _, ⟨hactive, hrisk⟩, hwrite⟩ := call
    exact .pause hactive hrisk (updateFacilityState_ok hwrite)
  case flatten =>
    obtain ⟨befores, hfound, facility, afters, call, rfl⟩ := h
    simp only [flattenTradingFacility, bind_eq_ok, unavailable_eq_ok, not_or, not_not,
      pure_eq_ok, Prod.mk.injEq] at call
    obtain ⟨_, _, _, _, _, _, _, ⟨hactive, hrisk, hlength, _⟩, _, hafters, _, hsum, _, hwrite, rfl,
      rfl⟩ := call
    obtain ⟨hended, hdistinct, _⟩ := flattenOrders_ok hafters
    refine .flatten hactive hrisk (fun before hbefore ↦ ?_) hlength hsum hdistinct hended
      (updateFacilityState_ok hwrite)
    obtain ⟨id, _, hid⟩ := exists_of_mem_mapM hfound hbefore
    exact (findOrder_ok hid).1
  case close =>
    obtain ⟨_, _, request, call, rfl⟩ := h
    simp only [requestTradingFacilityClose, bind_eq_ok, settlementUnavailable_eq_ok, not_or,
      not_not] at call
    obtain ⟨_, _, _, _, _, ⟨_, _, hflattened, hrisk, _⟩, _⟩ := call
    exact .close hflattened hrisk
  case settle =>
    obtain ⟨request, _, facility, settlement, call, rfl⟩ := h
    simp only [runTradingSettlement, settleTradingFacility, bind_eq_ok, settlementUnavailable_eq_ok,
      unavailable_eq_ok, not_or, not_not, pure_eq_ok, Prod.mk.injEq] at call
    obtain ⟨_, _, _, _, _, _, _, _, _, ⟨_, _, _, _, _, ⟨hflattened, hrisk, _⟩, hwrite⟩, _, _, actor,
      _, _, _, rfl, rfl⟩ := call
    exact .settle hflattened hrisk (updateFacilityState_ok hwrite) ⟨actor, rfl⟩

end Operations

/-! ## The invariant -/

section Invariant

variable {H : Type}

/-- What a settlement pays out: to each what they put in, and nothing was won or lost. -/
structure PaysOut (facility : TradingFacility H) (settlement : Settlement H) : Prop where
  subject : settlement.subjectReturnMinor = facility.subjectCollateralMinor
  provider : settlement.providerPrincipalReturnMinor = facility.providerFundingMinor
  total_eq : settlement.totalAllocatedMinor
    = settlement.subjectReturnMinor + settlement.providerPrincipalReturnMinor
  result_eq : settlement.totalAllocatedMinor
    = facility.subjectCollateralMinor + facility.providerFundingMinor + settlement.realizedPnlMinor
      - settlement.venueCostMinor - settlement.closingCostMinor

/-- **The books of a facility.** -/
structure FacilityHolds (s : TradingState H) : Prop where
  exposure : s.facility.syntheticExposureMinor
    = ((openOrders s.orders).map (·.core.syntheticNotionalMinor)).sum
  count : s.facility.openOrderCount = (openOrders s.orders).length
  equity : s.facility.syntheticEquityMinor
    = s.facility.syntheticCapitalMinor - s.facility.syntheticExposureMinor
  equity_nonneg : 0 ≤ s.facility.syntheticEquityMinor
  capital : s.facility.syntheticCapitalMinor
    = s.facility.subjectCollateralMinor + s.facility.providerFundingMinor
  settled_once : s.settlements.length ≤ 1
  pays_out : ∀ settlement ∈ s.settlements, PaysOut s.facility settlement

/-- How far the risk state can be in each stage of the life of a facility. -/
def riskFits (lifecycle : TradingFacilityLifecycleStatus)
    (risk : TradingFacilityRiskState) : Prop :=
  match lifecycle with
  | .active => risk ≠ .settlement
  | .flattened => risk = .flatten ∨ risk = .settlement
  | _ => risk = .normal

/-- What every operation keeps. -/
structure Kept [DecidableEq H] (hashId : TradingPreimage H → H) (s : TradingState H) : Prop where
  checked : assertFacility hashId s.facility = .ok ()
  ids : (orderIds s.orders).Nodup
  exposure : s.facility.syntheticExposureMinor = total exposed s.orders
  count : s.facility.openOrderCount = total counted s.orders
  equity : s.facility.syntheticEquityMinor
    = s.facility.syntheticCapitalMinor - s.facility.syntheticExposureMinor
  capital : s.facility.syntheticCapitalMinor
    = s.facility.subjectCollateralMinor + s.facility.providerFundingMinor
  /-- there are open orders in an active facility only -/
  idle : s.facility.lifecycleStatus ≠ .active →
    s.facility.syntheticExposureMinor = 0 ∧ s.facility.openOrderCount = 0
  risk : riskFits s.facility.lifecycleStatus s.facility.riskState
  settled : s.settlements.length = if s.facility.riskState = .settlement then 1 else 0
  pays_out : ∀ settlement ∈ s.settlements, PaysOut s.facility settlement

variable [DecidableEq H] {hashId : TradingPreimage H → H} {s : TradingState H}

theorem Kept.openOrders_eq_nil (h : Kept hashId s) (hlife : s.facility.lifecycleStatus ≠ .active) :
    openOrders s.orders = [] := by
  have hcount := h.count
  rw [(h.idle hlife).2, total_counted] at hcount
  exact List.length_eq_zero_iff.1 (by omega)

theorem Kept.active_of_opened (h : Kept hashId s) {order : TradingOrderIntent H}
    (hmem : order ∈ s.orders) (hopened : order.status = .opened) :
    s.facility.lifecycleStatus = .active := by
  by_contra hlife
  have hopen : order ∈ openOrders s.orders := List.mem_filter.2 ⟨hmem, decide_eq_true hopened⟩
  rw [h.openOrders_eq_nil hlife] at hopen
  exact List.not_mem_nil hopen

theorem assertFacility_equity_nonneg {facility : TradingFacility H}
    (h : assertFacility hashId facility = .ok ()) : 0 ≤ facility.syntheticEquityMinor := by
  simp only [assertFacility, nonNegativeMinor, bind_eq_ok, invalid_eq_ok] at h
  obtain ⟨_, _, _, _, _, _, _, _, _, _, _, _, _, hequity, _⟩ := h
  omega

theorem Kept.facilityHolds (h : Kept hashId s) : FacilityHolds s where
  exposure := by rw [h.exposure, total_exposed]
  count := by rw [h.count, total_counted]
  equity := h.equity
  equity_nonneg := assertFacility_equity_nonneg h.checked
  capital := h.capital
  settled_once := by
    rw [h.settled]
    split <;> omega
  pays_out := h.pays_out

theorem Kept.settlements_eq_nil (h : Kept hashId s) (hrisk : s.facility.riskState ≠ .settlement) :
    s.settlements = [] := by
  have hlength := h.settled
  rw [if_neg hrisk] at hlength
  exact List.length_eq_zero_iff.1 hlength

theorem riskFits_ne_settlement {lifecycle : TradingFacilityLifecycleStatus}
    {risk : TradingFacilityRiskState} (h : riskFits lifecycle risk)
    (hlife : lifecycle ≠ .flattened) :
    risk ≠ .settlement := by
  cases lifecycle <;> simp_all [riskFits]

theorem riskFits_eq_normal {lifecycle : TradingFacilityLifecycleStatus}
    {risk : TradingFacilityRiskState} (h : riskFits lifecycle risk) (hactive : lifecycle ≠ .active)
    (hflattened : lifecycle ≠ .flattened) : risk = .normal := by
  cases lifecycle <;> simp_all [riskFits]

theorem facilityLifecycle_cases (subject provider : Bool) :
    facilityLifecycle subject provider ≠ .active ∧
      facilityLifecycle subject provider ≠ .flattened ∧
        riskFits (facilityLifecycle subject provider) .normal := by
  cases subject <;> cases provider <;> exact ⟨by decide, by decide, rfl⟩

theorem mostRestrictiveRiskState_eq (left right : TradingFacilityRiskState) :
    mostRestrictiveRiskState left right = left ∨ mostRestrictiveRiskState left right = right := by
  rw [mostRestrictiveRiskState]
  split
  · exact .inl rfl
  · exact .inr rfl

theorem rank_le_mostRestrictiveRiskState (left right : TradingFacilityRiskState) :
    riskStateRank left ≤ riskStateRank (mostRestrictiveRiskState left right) := by
  rw [mostRestrictiveRiskState]
  split <;> omega

omit [DecidableEq H] in
theorem riskTarget_ne_settlement (facility : TradingFacility H) (now : ℕ) :
    (riskTarget facility now).targetState ≠ .settlement := by
  rw [riskTarget]
  split_ifs <;> exact nofun

theorem mostRestrictiveRiskState_ne_settlement {left right : TradingFacilityRiskState}
    (hleft : left ≠ .settlement) (hright : right ≠ .settlement) :
    mostRestrictiveRiskState left right ≠ .settlement := by
  rcases mostRestrictiveRiskState_eq left right with h | h
  · rwa [h]
  · rwa [h]

/-- The books of a facility that has just been opened. -/
def opened (facility : TradingFacility H) : TradingState H where
  facility
  orders := []
  closeRequests := []
  settlements := []

theorem createTradingFacility_ok {id : String} {matchProposal : MatchProposal H}
    {obligation : CanonicalObligation H} {createdByActorId : String} {now : ℕ}
    {facility : TradingFacility H}
    (h : createTradingFacility hashId id matchProposal obligation createdByActorId now
      = .ok facility) : Kept hashId (opened facility) := by
  simp only [createTradingFacility, bind_eq_ok, pure_eq_ok] at h
  obtain ⟨_, _, _, _, _, _, _, _, _, _, _, hchecked, rfl⟩ := h
  exact
    { checked := hchecked
      ids := List.nodup_nil
      exposure := rfl
      count := rfl
      equity := rfl
      capital := rfl
      idle := fun _ ↦ ⟨rfl, rfl⟩
      risk := rfl
      settled := rfl
      pays_out := List.forall_mem_nil _ }

end Invariant

/-! ## What an operation keeps -/

section Step

variable {H : Type} [DecidableEq H] {hashId : TradingPreimage H → H} {s s' : TradingState H}
  {input : Expected H} {command : TradingCommand H}

omit [DecidableEq H] in
theorem PaysOut.congr {facility next : TradingFacility H} {settlement : Settlement H}
    (h : PaysOut facility settlement)
    (hsubject : next.subjectCollateralMinor = facility.subjectCollateralMinor)
    (hprovider : next.providerFundingMinor = facility.providerFundingMinor) :
    PaysOut next settlement := by
  constructor
  · rw [hsubject, h.subject]
  · rw [hprovider, h.provider]
  · exact h.total_eq
  · rw [hsubject, hprovider, h.result_eq]

/-- An operation that leaves the amounts and the orders alone. -/
theorem Kept.of_same_amounts (h : Kept hashId s) {next : TradingFacility H}
    (hchecked : assertFacility hashId next = .ok ())
    (hsubject : next.subjectCollateralMinor = s.facility.subjectCollateralMinor)
    (hprovider : next.providerFundingMinor = s.facility.providerFundingMinor)
    (hcapital : next.syntheticCapitalMinor = s.facility.syntheticCapitalMinor)
    (hexposure : next.syntheticExposureMinor = s.facility.syntheticExposureMinor)
    (hequity : next.syntheticEquityMinor = s.facility.syntheticEquityMinor)
    (hcount : next.openOrderCount = s.facility.openOrderCount)
    (hidle : next.lifecycleStatus ≠ .active → s.facility.lifecycleStatus ≠ .active)
    (hrisk : riskFits next.lifecycleStatus next.riskState)
    (hbefore : s.facility.riskState ≠ .settlement) (hafter : next.riskState ≠ .settlement) :
    Kept hashId { s with facility := next } where
  checked := hchecked
  ids := h.ids
  exposure := by rw [hexposure, h.exposure]
  count := by rw [hcount, h.count]
  equity := by rw [hequity, hcapital, hexposure, h.equity]
  capital := by rw [hcapital, hsubject, hprovider, h.capital]
  idle := fun hlife ↦ by
    rw [hexposure, hcount]
    exact h.idle (hidle hlife)
  risk := hrisk
  settled := by rw [h.settlements_eq_nil hbefore, if_neg hafter, List.length_nil]
  pays_out := fun settlement hsettlement ↦
    (h.pays_out settlement hsettlement).congr hsubject hprovider

/-- A contribution, of the subject or of the provider, before there are any orders. -/
theorem Kept.of_contribution (h : Kept hashId s) {next : TradingFacility H}
    (hactive : s.facility.lifecycleStatus ≠ .active)
    (hflattened : s.facility.lifecycleStatus ≠ .flattened)
    (hchecked : assertFacility hashId next = .ok ())
    (hcapital : next.syntheticCapitalMinor
      = next.subjectCollateralMinor + next.providerFundingMinor)
    (hexposure : next.syntheticExposureMinor = s.facility.syntheticExposureMinor)
    (hequity : next.syntheticEquityMinor = next.syntheticCapitalMinor)
    (hcount : next.openOrderCount = s.facility.openOrderCount)
    (hriskState : next.riskState = s.facility.riskState)
    (hlifecycle : ∃ subject provider, next.lifecycleStatus = facilityLifecycle subject provider) :
    Kept hashId { s with facility := next } := by
  obtain ⟨hzero, hnone⟩ := h.idle hactive
  have hnormal := riskFits_eq_normal h.risk hactive hflattened
  have hsettlement : s.facility.riskState ≠ .settlement := by
    rw [hnormal]
    decide
  obtain ⟨subject, provider, hlife⟩ := hlifecycle
  constructor
  · exact hchecked
  · exact h.ids
  · rw [hexposure, h.exposure]
  · rw [hcount, h.count]
  · show next.syntheticEquityMinor = next.syntheticCapitalMinor - next.syntheticExposureMinor
    rw [hequity, hexposure, hzero, sub_zero]
  · exact hcapital
  · intro _
    show next.syntheticExposureMinor = 0 ∧ next.openOrderCount = 0
    rw [hexposure, hcount]
    exact ⟨hzero, hnone⟩
  · show riskFits next.lifecycleStatus next.riskState
    rw [hlife, hriskState, hnormal]
    exact (facilityLifecycle_cases subject provider).2.2
  · show s.settlements.length = if next.riskState = .settlement then 1 else 0
    rw [h.settlements_eq_nil hsettlement, hriskState, if_neg hsettlement, List.length_nil]
  · show ∀ settlement ∈ s.settlements, PaysOut next settlement
    rw [h.settlements_eq_nil hsettlement]
    exact List.forall_mem_nil _

/-- An operation on the orders of an active facility that leaves it active. -/
theorem Kept.of_orders (h : Kept hashId s) {next : TradingFacility H}
    {orders : List (TradingOrderIntent H)} (hactive : s.facility.lifecycleStatus = .active)
    (hchecked : assertFacility hashId next = .ok ()) (hids : (orderIds orders).Nodup)
    (hsubject : next.subjectCollateralMinor = s.facility.subjectCollateralMinor)
    (hprovider : next.providerFundingMinor = s.facility.providerFundingMinor)
    (hcapital : next.syntheticCapitalMinor = s.facility.syntheticCapitalMinor)
    (hexposure : next.syntheticExposureMinor = total exposed orders)
    (hequity : next.syntheticEquityMinor
      = next.syntheticCapitalMinor - next.syntheticExposureMinor)
    (hcount : next.openOrderCount = total counted orders)
    (hlifecycle : next.lifecycleStatus = s.facility.lifecycleStatus)
    (hriskState : next.riskState = s.facility.riskState) :
    Kept hashId { s with facility := next, orders } := by
  constructor
  · exact hchecked
  · exact hids
  · exact hexposure
  · exact hcount
  · exact hequity
  · show next.syntheticCapitalMinor = next.subjectCollateralMinor + next.providerFundingMinor
    rw [hcapital, hsubject, hprovider, h.capital]
  · intro hlife
    exact absurd (hlifecycle.trans hactive) hlife
  · show riskFits next.lifecycleStatus next.riskState
    rw [hlifecycle, hriskState]
    exact h.risk
  · show s.settlements.length = if next.riskState = .settlement then 1 else 0
    rw [hriskState]
    exact h.settled
  · exact fun settlement hsettlement ↦
      (h.pays_out settlement hsettlement).congr hsubject hprovider

omit [DecidableEq H] in
/-- What orders that are open weigh. -/
theorem total_of_opened {orders : List (TradingOrderIntent H)}
    (h : ∀ order ∈ orders, order.status = .opened) :
    total exposed orders = (orders.map (·.core.syntheticNotionalMinor)).sum ∧
      total counted orders = orders.length := by
  have hopen : openOrders orders = orders :=
    List.filter_eq_self.2 fun order horder ↦ decide_eq_true (h order horder)
  rw [total_exposed, total_counted, hopen]
  exact ⟨rfl, rfl⟩

omit [DecidableEq H] in
/-- Orders that are not open weigh nothing. -/
theorem total_of_not_opened {orders : List (TradingOrderIntent H)}
    (h : ∀ order ∈ orders, order.status ≠ .opened) :
    total exposed orders = 0 ∧ total counted orders = 0 := by
  have hnone : openOrders orders = [] :=
    List.filter_eq_nil_iff.2 fun order horder ↦ by simpa using h order horder
  rw [total_exposed, total_counted, hnone]
  exact ⟨rfl, rfl⟩

/-- **Every operation keeps the invariant.** -/
theorem Kept.operated (h : Kept hashId s) (hop : Operated hashId s input command s') :
    Kept hashId s' := by
  cases hop with
  | contribute active flattened written =>
    have hstate := written.state_eq
    refine h.of_contribution active flattened written.checked ?_ ?_ ?_ ?_ ?_
      ⟨true, s.facility.providerFundingRecorded, ?_⟩ <;> rw [hstate]
  | fund active flattened written =>
    have hstate := written.state_eq
    refine h.of_contribution active flattened written.checked ?_ ?_ ?_ ?_ ?_
      ⟨s.facility.subjectCollateralRecorded, true, ?_⟩ <;> rw [hstate]
    exact add_comm _ _
  | activate ready written =>
    have hstate := written.state_eq
    have hlife : s.facility.lifecycleStatus ≠ .active := by rw [ready]; decide
    refine h.of_same_amounts written.checked ?_ ?_ ?_ ?_ ?_ ?_ (fun _ ↦ hlife) ?_
      (riskFits_ne_settlement h.risk (by rw [ready]; decide)) ?_ <;> rw [hstate] <;> exact nofun
  | submit fresh active id_eq opened version_eq notional_eq facility_eq checked written =>
    rename_i order
    have hstate := written.state_eq
    have hids : orderIds (s.orders ++ [order]) = orderIds s.orders
        ++ [order.tradingOrderIntentId] := by
      rw [orderIds, List.map_append]
      rfl
    have hsum := fun weight ↦ total_append weight s.orders [order]
    have hexposed : total exposed [order] = order.core.syntheticNotionalMinor := by
      simp [total, exposed, opened]
    have hcounted : total counted [order] = 1 := by simp [total, counted, opened]
    refine h.of_orders active written.checked ?_ ?_ ?_ ?_ ?_ ?_ ?_ ?_ ?_
    · rw [hids, id_eq]
      exact List.nodup_append.2 ⟨h.ids, List.nodup_singleton _, fun id hid other hother ↦ by
        rw [List.mem_singleton.1 hother]
        rintro rfl
        exact fresh hid⟩
    all_goals rw [hstate]
    · rw [hsum, hexposed, notional_eq, h.exposure]
    · rw [hsum, hcounted, h.count]
  | cancel mem ended written =>
    rename_i before after
    have hstate := written.state_eq
    have hsum := fun weight ↦ total_writeOrder h.ids mem ended.id_eq weight
    have hbefore : exposed before = before.core.syntheticNotionalMinor := if_pos ended.opened
    have hafter : after.status ≠ .opened := by rw [ended.status_eq]; decide
    refine h.of_orders (h.active_of_opened mem ended.opened) written.checked ?_ ?_ ?_ ?_ ?_ ?_ ?_ ?_
      ?_
    · rw [orderIds_writeOrder]
      exact h.ids
    all_goals rw [hstate]
    · rw [hsum, hbefore, exposed, if_neg hafter, h.exposure, add_zero]
    · rw [hsum, counted, if_pos ended.opened, counted, if_neg hafter, h.count, add_zero]
  | evaluate active written =>
    have hstate := written.state_eq
    have hbefore := riskFits_ne_settlement h.risk (by rw [active]; decide)
    have hafter := mostRestrictiveRiskState_ne_settlement hbefore
      (riskTarget_ne_settlement s.facility input.now)
    refine h.of_same_amounts written.checked ?_ ?_ ?_ ?_ ?_ ?_ ?_ ?_ hbefore ?_ <;> rw [hstate]
    · exact id
    · rw [active]
      exact hafter
    · exact hafter
  | pause active risk written =>
    have hstate := written.state_eq
    have hbefore := riskFits_ne_settlement h.risk (by rw [active]; decide)
    have hafter : mostRestrictiveRiskState s.facility.riskState .reduceOnly ≠ .settlement :=
      mostRestrictiveRiskState_ne_settlement hbefore (by decide)
    refine h.of_same_amounts written.checked ?_ ?_ ?_ ?_ ?_ ?_ ?_ ?_ hbefore ?_ <;> rw [hstate]
    · exact id
    · rw [active]
      exact hafter
    · exact hafter
  | flatten active risk mem length_eq sum_eq distinct ended written =>
    rename_i befores afters
    have hstate := written.state_eq
    have hsettlement := riskFits_ne_settlement h.risk (by rw [active]; decide)
    have hpairs : List.Forall₂ (fun before after ↦
        after.tradingOrderIntentId = before.tradingOrderIntentId) befores afters :=
      ended.imp fun _ _ pair ↦ pair.id_eq
    have hopened : ∀ before ∈ befores, before.status = .opened :=
      ((List.forall₂_and_left _ _).1 (ended.imp fun _ _ pair ↦ ⟨pair.opened, pair⟩)).1
    have hended : ∀ after ∈ afters, after.status ≠ .opened :=
      ((List.forall₂_and_left _ _).1 (ended.flip.imp fun _ _ pair ↦
        ⟨by rw [pair.status_eq]; decide, pair⟩)).1
    obtain ⟨hexposure, hcount⟩ := total_of_opened hopened
    obtain ⟨hexposure', hcount'⟩ := total_of_not_opened hended
    have hsum := fun weight ↦
      (total_foldl_writeOrder weight h.ids mem distinct hpairs).1
    constructor
    · exact written.checked
    · rw [(total_foldl_writeOrder exposed h.ids mem distinct hpairs).2]
      exact h.ids
    · rw [hstate, hsum, hexposure, hexposure', sum_eq, h.exposure, sub_self, add_zero]
    · rw [hstate, hsum, hcount, hcount', length_eq, h.count, sub_self, add_zero]
    · rw [hstate]
      exact (sub_zero _).symm
    · rw [hstate]
      exact h.capital
    · intro _
      rw [hstate]
      exact ⟨rfl, rfl⟩
    · rw [hstate]
      exact .inl rfl
    · rw [hstate]
      exact congrArg List.length (h.settlements_eq_nil hsettlement)
    · rw [h.settlements_eq_nil hsettlement]
      exact List.forall_mem_nil _
  | close flattened risk => exact { h with }
  | settle flattened risk written settlement_eq =>
    have hstate := written.state_eq
    obtain ⟨actor, hsettlement⟩ := settlement_eq
    have hnone := h.settlements_eq_nil (by rw [risk]; decide)
    obtain ⟨hzero, hempty⟩ := h.idle (by rw [flattened]; decide)
    constructor
    · exact written.checked
    · exact h.ids
    · rw [hstate]
      exact h.exposure
    · rw [hstate]
      exact h.count
    · rw [hstate]
      exact h.equity
    · rw [hstate]
      exact h.capital
    · intro _
      rw [hstate]
      exact ⟨hzero, hempty⟩
    · rw [hstate]
      show riskFits s.facility.lifecycleStatus .settlement
      rw [flattened]
      exact .inr rfl
    · rw [hstate, hnone]
      rfl
    · rw [hnone]
      intro settlement hmem
      rw [List.nil_append, List.mem_singleton] at hmem
      subst hmem
      constructor <;> rw [hsettlement, settlementOf] <;> rw [hstate]
      exact (by omega : s.facility.subjectCollateralMinor + s.facility.providerFundingMinor
        = s.facility.subjectCollateralMinor + s.facility.providerFundingMinor + 0 - 0 - 0)

/-- How many versions of the facility an operation writes.  A request to close is a record of its
own and writes none. -/
def TradingCommand.writes {H : Type} : TradingCommand H → ℕ
  | .close _ => 0
  | _ => 1

/-- **The risk of a facility only grows, and each write is counted.** -/
theorem Kept.advances (h : Kept hashId s) (hop : Operated hashId s input command s') :
    riskStateRank s.facility.riskState ≤ riskStateRank s'.facility.riskState ∧
      s'.facility.version = s.facility.version + command.writes := by
  cases hop with
  | contribute active flattened written | fund active flattened written
  | submit fresh active id_eq opened version_eq notional_eq facility_eq checked written
  | cancel mem ended written =>
    have hstate := written.state_eq
    constructor
    · rw [hstate]
    · exact written.version_eq
  | activate ready written =>
    have hstate := written.state_eq
    have hnormal := riskFits_eq_normal h.risk (by rw [ready]; decide) (by rw [ready]; decide)
    constructor
    · rw [hnormal]
      exact Nat.zero_le _
    · exact written.version_eq
  | evaluate active written | pause active risk written =>
    have hstate := written.state_eq
    constructor
    · rw [hstate]
      exact rank_le_mostRestrictiveRiskState _ _
    · exact written.version_eq
  | flatten active risk mem length_eq sum_eq distinct ended written =>
    have hstate := written.state_eq
    constructor
    · rw [hstate]
      show riskStateRank s.facility.riskState ≤ riskStateRank .flatten
      revert risk
      cases s.facility.riskState <;> decide
    · exact written.version_eq
  | close flattened risk => exact ⟨le_rfl, rfl⟩
  | settle flattened risk written settlement_eq =>
    have hstate := written.state_eq
    constructor
    · rw [hstate, risk]
      show riskStateRank .flatten ≤ riskStateRank .settlement
      decide
    · exact written.version_eq

variable (hashId) in
theorem operated_of_tradingStep (s : TradingState H) (input : TradingInput H) :
    tradingStep hashId s input = s ∨
      Operated hashId s input.expected input.command (tradingStep hashId s input) := by
  rw [tradingStep]
  split
  · rename_i next hok
    exact .inr (operate_ok hok)
  · exact .inl rfl

theorem Kept.tradingStep (h : Kept hashId s) (input : TradingInput H) :
    Kept hashId (tradingStep hashId s input) := by
  rcases operated_of_tradingStep hashId s input with hsame | hop
  · rwa [hsame]
  · exact h.operated hop

/-- What an operation that is accepted does to the risk state and the version. -/
def Advances (hashId : TradingPreimage H → H) (s : TradingState H)
    (input : TradingInput H) : Prop :=
  ∀ s', operate hashId s input.expected input.command = .ok s' →
    riskStateRank s.facility.riskState ≤ riskStateRank s'.facility.riskState ∧
      s'.facility.version = s.facility.version + input.command.writes

/-- **Whole runs of a facility.**  Whatever is done to a facility and its orders, the totals it
keeps are those of its open orders, its capital is what was put in, its risk state never falls back,
each operation that writes it is one version, and it is settled at most once, for what was put
in. -/
theorem trading_facility_along {id : String} {matchProposal : MatchProposal H}
    {obligation : CanonicalObligation H} {createdByActorId : String} {now : ℕ}
    {facility : TradingFacility H}
    (hcreate : createTradingFacility hashId id matchProposal obligation createdByActorId now
      = .ok facility) (inputs : List (TradingInput H)) :
    Run.Along (tradingStep hashId) FacilityHolds (opened facility) inputs ∧
      Run.Steps (tradingStep hashId) (Advances hashId) (opened facility) inputs := by
  have hkept := createTradingFacility_ok hcreate
  have hstep : ∀ t i, Kept hashId t → Kept hashId (tradingStep hashId t i) :=
    fun t i ht ↦ ht.tradingStep i
  constructor
  · exact (Run.along_of_invariant hstep inputs hkept).mono fun t ht ↦ ht.facilityHolds
  · refine Run.steps_of_invariant hstep ?_ inputs hkept
    intro t i ht t' hok
    exact ht.advances (operate_ok hok)

end Step

namespace TradingSample

/-- A hash that keeps apart what the samples hash. -/
def hashId : TradingPreimage (List ℕ) → List ℕ
  | .actor actorId => 0 :: actorId.toList.map Char.toNat
  | .tradingFacility core => [1, core.maturityAt]
  | .tradingFacilityState core _ => [2, core.version]
  | .tradingFacilityRiskObservation core => [3, core.facilityVersion, core.observedAt]
  | .tradingOrderIntent core => [4, core.createdAt]
  | .tradingOrderIntentState core => 5 :: core.version :: core.orderIntentHash
  | .tradingFacilityRiskEvaluation core => [6, core.evaluatedAt]
  | .tradingFacilityCloseRequest core => [7, core.facilityVersion]
  | .tradingSettlement core => [8, core.settledAt]

/-- The proposal that both parties accepted. -/
def proposal : MatchProposal (List ℕ) where
  tradingMatchProposalId := "proposal"
  proposalHash := [9]
  status := .bilaterallyAccepted
  version := 3
  providerAccepted := true
  subjectAccepted := true
  subjectId := "subject"
  principalId := "principal"
  providerId := "provider"
  subjectActorHash := hashId (.actor "actor_subject")
  providerActorHash := hashId (.actor "actor_provider")
  terms :=
    { templateType := "fixed"
      termsHash := [10]
      assetId := "usd"
      syntheticPrincipalMinor := 1000 }
  expiresAt := 1000

/-- The obligation behind it. -/
def obligation : CanonicalObligation (List ℕ) where
  obligationId := "obligation"
  obligationHash := [11]
  subjectId := "subject"
  principalId := "principal"
  assetId := "usd"
  originalPrincipalMinor := 1000
  outstandingPrincipalMinor := 1000
  totalRepaidMinor := 0
  executionStatus := .executed
  status := .active
  withdrawable := some false
  maturityAt := 2000
  sandboxOnly := true
  productionFundsMoved := false

/-- The facility on which nothing has been done. -/
def facility : TradingFacility (List ℕ) :=
  let core : FacilityCore (List ℕ) :=
    { matchProposalId := "proposal"
      proposalHash := [9]
      obligationId := "obligation"
      obligationHash := [11]
      subjectId := "subject"
      principalId := "principal"
      providerId := "provider"
      subjectActorHash := hashId (.actor "actor_subject")
      providerActorHash := hashId (.actor "actor_provider")
      templateType := "fixed"
      termsHash := [10]
      assetId := "usd"
      syntheticPrincipalMinor := 1000
      requiredSubjectCollateralMinor := 100
      requiredProviderFundingMinor := 1000
      activationDeadlineAt := 1000
      maturityAt := 2000 }
  sealFacility hashId core
    { tradingFacilityId := "facility"
      facilityHash := [1, 2000]
      lifecycleStatus := .awaitingContributions
      riskState := .normal
      riskReasonCodes := ["synthetic_facility_created"]
      subjectCollateralMinor := 0
      providerFundingMinor := 0
      syntheticCapitalMinor := 0
      syntheticExposureMinor := 0
      syntheticEquityMinor := 0
      openOrderCount := 0
      subjectCollateralRecorded := false
      providerFundingRecorded := false
      latestRiskEvaluation := none
      version := 1
      activatedAt := none
      flattenedAt := none
      updatedAt := 0 } 0

theorem created :
    createTradingFacility hashId "facility" proposal obligation "actor_subject" 0
      = .ok facility := by
  rw [← toOption_eq_some]
  decide +kernel

/-- An operation by `actorId` on the facility at `version`. -/
def operation (actorId : String) (version now : ℕ) (command : TradingCommand (List ℕ)) :
    TradingInput (List ℕ) where
  expected := { actorId, expectedStateHash := [2, version], expectedVersion := version, now }
  command

/-- The facility is paid in and activated. -/
def start : List (TradingInput (List ℕ)) :=
  [operation "actor_subject" 1 10 (.contribute 100),
    operation "actor_provider" 2 20 (.fund 1000),
    operation "actor_subject" 3 30 (.activate proposal obligation)]

/-- Two orders are opened and one of them is canceled. -/
def orders : List (TradingInput (List ℕ)) :=
  [operation "actor_subject" 4 40 (.submit "order-1" .long 600),
    operation "actor_subject" 5 50 (.submit "order-2" .short 300),
    operation "actor_risk" 6 60 (.evaluate "evaluation"),
    operation "actor_subject" 7 70 (.cancel "order-1" [4, 40] 1)]

/-- Two orders are opened, the second for twice the first. -/
def twoOrders : List (TradingInput (List ℕ)) :=
  [operation "actor_subject" 4 40 (.submit "order-1" .long 300),
    operation "actor_subject" 5 50 (.submit "order-2" .short 600)]

/-- The facility is paused and flattened. -/
def flattening : List (TradingInput (List ℕ)) :=
  [operation "actor_risk" 8 80 (.pause "limit"),
    operation "actor_risk" 9 90 (.flatten ["order-2"] "limit")]

/-- The flattened facility is closed and settled. -/
def closing : List (TradingInput (List ℕ)) :=
  [operation "actor_subject" 10 100 (.close "close"),
    operation "actor_worker" 10 110 (.settle "close" obligation [7, 10] "settlement")]

/-- The state that a run leaves. -/
def after (inputs : List (TradingInput (List ℕ))) : TradingState (List ℕ) :=
  Run.run (tradingStep hashId) (opened facility) inputs

/-- Two orders are open, of 300 and of 600. -/
def held : TradingState (List ℕ) := after (start ++ twoOrders)

/-- The first of them has been canceled. -/
def canceled : TradingState (List ℕ) :=
  tradingStep hashId held (operation "actor_subject" 6 60 (.cancel "order-1" [4, 40] 1))

/-- The first order is canceled once more, by a caller who holds `stale`. -/
def cancelAgain (stale : TradingOrderIntent (List ℕ)) : Domain (TradingState (List ℕ)) :=
  cancelSnapshot hashId canceled stale [4, 40] 1
    { actorId := "actor_subject", expectedStateHash := [2, 7], expectedVersion := 7, now := 70 }

end TradingSample

/-- A facility from its contributions to its settlement. -/
theorem trading_facility_along_settled :
    Run.Along (tradingStep TradingSample.hashId) FacilityHolds (opened TradingSample.facility)
        (TradingSample.start ++ TradingSample.orders ++ TradingSample.flattening
          ++ TradingSample.closing) ∧
      let s := TradingSample.after (TradingSample.start ++ TradingSample.orders
        ++ TradingSample.flattening ++ TradingSample.closing)
      s.facility.version = 11 ∧ s.facility.riskState = .settlement ∧
        s.settlements.map (·.totalAllocatedMinor) = [1100] := by
  refine ⟨(trading_facility_along TradingSample.created _).1, ?_⟩
  decide +kernel

/-- A request to close is accepted and the facility stays at version 10.  And an order that is
canceled is canceled once more by a caller who still holds it as it was opened: its 300 are taken
from the exposure a second time, and the 600 of the other order are open in a facility that counts
no open order. -/
theorem close_keeps_version_and_stale_order_drifts :
    (let s := TradingSample.after (TradingSample.start ++ TradingSample.orders
        ++ TradingSample.flattening)
      let close := TradingSample.operation "actor_subject" 10 100 (.close "close")
      (operate TradingSample.hashId s close.expected close.command).isOk = true ∧
        s.facility.version = 10 ∧
          (tradingStep TradingSample.hashId s close).facility.version ≠ s.facility.version + 1) ∧
      ∃ stale ∈ TradingSample.held.orders, ∃ s', TradingSample.cancelAgain stale = .ok s' ∧
        s'.facility.syntheticExposureMinor = 300 ∧ s'.facility.openOrderCount = 0 ∧
          (openOrders s'.orders).map (·.core.syntheticNotionalMinor) = [600] ∧
            ¬ FacilityHolds s' := by
  refine ⟨by decide +kernel, ?_⟩
  have haccepted : (TradingSample.held.orders.filterMap fun stale ↦
      (TradingSample.cancelAgain stale).toOption).map (fun s' ↦
        (s'.facility.syntheticExposureMinor, s'.facility.openOrderCount,
          (openOrders s'.orders).map (·.core.syntheticNotionalMinor))) = [(300, 0, [600])] := by
    decide +kernel
  obtain ⟨s', hs', hbooks⟩ := List.mem_map.1 (haccepted ▸ List.mem_singleton_self _)
  obtain ⟨stale, hstale, hok⟩ := List.mem_filterMap.1 hs'
  simp only [Prod.mk.injEq] at hbooks
  obtain ⟨hexposure, hcount, hopen⟩ := hbooks
  refine ⟨stale, hstale, s', toOption_eq_some.1 hok, hexposure, hcount, hopen, fun hholds ↦ ?_⟩
  have hsum := hholds.exposure
  rw [hexposure, hopen] at hsum
  exact absurd hsum (by decide)

end Trading
end IpoOne
