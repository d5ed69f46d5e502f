import IpoOne.Credit.PoolEffect
import IpoOne.Indexer.Debt

/-!
# What an obligation shows of the position it is bound to

`importFinalizedEffect` of the command gateway carries the plan of an effect out.  This file follows
two calls of the pool from the chain into the obligation: the loan that opens a position, and a
liquidation.

A loan is imported only if the debt it leaves is its amount, and the pool rounds that debt up.
`opening_borrow_import` says for which loans nothing was rounded; the others are refused.

A liquidation tells of one payment in two events, and the plan books each of them.
`liquidation_import_unfaithful` says that no liquidation is imported as what it is.
-/

set_option autoImplicit false

namespace IpoOne
namespace Credit

open Evm Fallible Pool Indexer

/-! ## The plan of an admissible effect -/

section Plan

variable {H : Type} [DecidableEq H] {hashId : CreditPreimage H → H}
  {binding : PoolObligationBinding H} {obligation : Obligation H} {observation : Observation H}
  {effect : FinalizedEffect H} {previous : PoolObligationProjection H}

/-- What the plan checks whatever the event is. -/
structure Admissible (hashId : CreditPreimage H → H) (binding : PoolObligationBinding H)
    (obligation : Obligation H) (observation : Observation H) (effect : FinalizedEffect H)
    (previous : PoolObligationProjection H) : Prop where
  active : binding.active = true
  obligationId : obligation.obligationId = binding.obligationId
  subjectId : obligation.subjectId = binding.subjectId
  principalId : obligation.principalId = binding.principalId
  bindingId : previous.poolObligationBindingId = binding.poolObligationBindingId
  finalized : validateEffect hashId binding observation effect = .ok ()
  safe : effect.projection.finalizedEventKeys.length ≤ maxSafeInteger
  inOrder : previous.sourceFinalizedEventCount < effect.projection.finalizedEventKeys.length
  asset : ∃ configuration, effect.projection.state.configuration = some configuration ∧
    obligation.assetId = erc20AssetId binding.chainId configuration.debtAsset
  position : ∃ account ∈ effect.projection.state.accounts,
    hashId (.poolPositionAccount binding.chainId account.account) = binding.positionAccountHash
  sandboxOnly : obligation.sandboxOnly = true
  productionFundsMoved : obligation.productionFundsMoved = false

/-- The obligation a plan writes. -/
def boundTo (binding : PoolObligationBinding H) (obligation : Obligation H) : Obligation H :=
  { obligation with poolObligationBindingId := some binding.poolObligationBindingId }

theorem createPoolObligationEffectPlan_ok {plan : PoolObligationEffectPlan H}
    (h : createPoolObligationEffectPlan hashId binding obligation observation effect previous
      = .ok plan) :
    ∃ update transactions, updatedObligation hashId obligation observation effect = .ok update ∧
      postings hashId obligation observation effect = .ok transactions ∧
      plan.obligation = update.map (boundTo binding) ∧
      plan.ledgerTransactions = transactions.reduceOption := by
  simp only [createPoolObligationEffectPlan, bind_eq_ok, pure_eq_ok] at h
  obtain ⟨_, _, _, _, _, _, _, _, _, _, account, _, update, hupdate, _, _, _, _, transactions,
    htransactions, rfl⟩ := h
  exact ⟨update, transactions, hupdate, htransactions, rfl, rfl⟩

/-- For an admissible effect the plan is left to the branches of its event. -/
theorem Admissible.plan_eq (h : Admissible hashId binding obligation observation effect previous) :
    ∃ account, createPoolObligationEffectPlan hashId binding obligation observation effect
      previous =
      (updatedObligation hashId obligation observation effect >>= fun update ↦
        executionReceiptFor hashId binding observation effect (update.map (boundTo binding)) >>=
        fun executionReceipt ↦ postings hashId obligation observation effect >>=
        fun transactions ↦ pure
          { projection := projectedPosition hashId previous observation effect account
            executionReceipt
            obligation := update.map (boundTo binding)
            ledgerTransactions := transactions.reduceOption }) := by
  obtain ⟨configuration, hconfiguration, hasset⟩ := h.asset
  have hfound : (effect.projection.state.accounts.find? fun account ↦
      hashId (.poolPositionAccount binding.chainId account.account)
        = binding.positionAccountHash).isSome = true := by
    obtain ⟨account, hmem, hhash⟩ := h.position
    exact List.find?_isSome.2 ⟨account, hmem, decide_eq_true hhash⟩
  obtain ⟨account, haccount⟩ := Option.isSome_iff_exists.1 hfound
  refine ⟨account, ?_⟩
  have hpass : ∀ {c : Prop} [Decidable c] {code message : String}, ¬ c →
      throwIf c code message = .ok () := fun hc ↦ throwIf_eq_ok.2 hc
  rw [createPoolObligationEffectPlan, hpass (not_not.2 h.active), hpass, h.finalized, hpass, hpass,
    haccount, assertSharedObligation, hpass]
  · rfl
  · simp [h.sandboxOnly, h.productionFundsMoved]
  · exact fun hall ↦ hall configuration hconfiguration hasset
  · have hsafe := h.safe
    have hinOrder := h.inOrder
    omega
  · simp [h.obligationId, h.subjectId, h.principalId, h.bindingId]

/-- An obligation as `createAcceptedOfferObligation` makes it, for a principal of `amount`. -/
structure Unexecuted (obligation : Obligation H) (amount : ℕ) : Prop where
  executionStatus : obligation.executionStatus = .pending
  status : obligation.status = .created
  originalPrincipalMinor : obligation.originalPrincipalMinor = amount
  outstandingPrincipalMinor : obligation.outstandingPrincipalMinor = amount

section Borrow

variable {account : Address} {assets shares debtAfter cashAfter : ℕ}

omit [DecidableEq H] in
theorem executed_ok (hashId : CreditPreimage H → H) (observation : Observation H)
    (effect : FinalizedEffect H) (hnew : Unexecuted obligation assets)
    (hexact : debtAfter = assets) :
    ∃ value, executed hashId obligation observation effect assets debtAfter = .ok value ∧
      value.poolExecutionReceiptId = some (hashId (.poolObligationExecutionReceipt
        (executionCore obligation.obligationId observation effect assets debtAfter))) ∧
      value.executionStatus = .executed ∧
      value.outstandingPrincipalMinor = obligation.outstandingPrincipalMinor := by
  rw [executed]
  refine ⟨_, bind_eq_ok.2 ⟨(), throwIf_eq_ok.2 ?_, rfl⟩, rfl, rfl, rfl⟩
  simp [hnew.executionStatus, hnew.status, hnew.originalPrincipalMinor, hexact]

/-- A loan that leaves exactly the principal as debt executes the obligation, and leaves what it
owes as it is. -/
theorem Admissible.borrow_accepted
    (h : Admissible hashId binding obligation observation effect previous)
    (hevent : observation.event = .assetsBorrowed account assets shares debtAfter cashAfter)
    (hnew : Unexecuted obligation assets) (hexact : debtAfter = assets) :
    ∃ plan obligation',
      createPoolObligationEffectPlan hashId binding obligation observation effect previous
        = .ok plan ∧
      plan.obligation = some obligation' ∧ obligation'.executionStatus = .executed ∧
      obligation'.outstandingPrincipalMinor = obligation.outstandingPrincipalMinor := by
  obtain ⟨account', hplan⟩ := h.plan_eq
  obtain ⟨value, hvalue, hid, hexecuted, howed⟩ :=
    executed_ok hashId observation effect hnew hexact
  have hupdate : updatedObligation hashId obligation observation effect
      = .ok (some (stamp observation value)) := by
    rw [updatedObligation, hevent]
    exact bind_eq_ok.2 ⟨value, hvalue, rfl⟩
  -- the plan names the obligation of the binding, which is the same one
  rw [h.obligationId] at hid
  have hreceipt : ∃ receipt, executionReceiptFor hashId binding observation effect
      (some (boundTo binding (stamp observation value))) = .ok receipt := by
    simp only [executionReceiptFor, hevent]
    exact ⟨_, bind_eq_ok.2 ⟨(), throwIf_eq_ok.2 (not_not.2 hid), rfl⟩⟩
  have hpostings : ∃ transactions, postings hashId obligation observation effect
      = .ok transactions := by
    simp only [postings, hevent]
    exact ⟨_, rfl⟩
  obtain ⟨receipt, hreceipt⟩ := hreceipt
  obtain ⟨transactions, hpostings⟩ := hpostings
  rw [hplan]
  exact ⟨_, _, bind_eq_ok.2 ⟨_, hupdate, bind_eq_ok.2 ⟨_, hreceipt,
    bind_eq_ok.2 ⟨_, hpostings, rfl⟩⟩⟩, rfl, hexecuted, howed⟩

theorem Admissible.borrow_refused
    (h : Admissible hashId binding obligation observation effect previous)
    (hevent : observation.event = .assetsBorrowed account assets shares debtAfter cashAfter)
    (hround : debtAfter ≠ assets) :
    createPoolObligationEffectPlan hashId binding obligation observation effect previous = .error
      { code := "pool_borrow_obligation_mismatch"
        message := "initial finalized borrow must exactly execute the accepted Obligation" } := by
  obtain ⟨account', hplan⟩ := h.plan_eq
  rw [hplan]
  simp only [updatedObligation, hevent, executed, throwIf, failIf]
  rw [if_pos (.inr (.inr (.inr hround)))]
  rfl

end Borrow

end Plan

/-! ## Carrying plans out -/

/-- What the core repository holds about an obligation that is bound to a position. -/
structure BoundObligation (H : Type) where
  obligation : Obligation H
  projection : PoolObligationProjection H
  ledgerTransactions : List (LedgerTransaction H)
  deriving DecidableEq

/-- A finalized effect with its observation, as the gateway reads them from the store. -/
structure EffectSource (H : Type) where
  observation : Observation H
  effect : FinalizedEffect H
  deriving DecidableEq

section Imports

variable {H : Type} [DecidableEq H] (hashId : CreditPreimage H → H)
  (binding : PoolObligationBinding H)

/-- `importFinalizedEffect`, from the plan on: before it the gateway reproduces the binding from
records that no import writes. -/
def importFinalizedEffect (s : BoundObligation H) (source : EffectSource H) :
    Domain (BoundObligation H) := do
  let plan ← createPoolObligationEffectPlan hashId binding s.obligation source.observation
    source.effect s.projection
  pure { obligation := plan.obligation.getD s.obligation
         projection := plan.projection
         ledgerTransactions := s.ledgerTransactions ++ plan.ledgerTransactions }

/-- Effects are imported one after the other. -/
def importFinalizedEffects (s : BoundObligation H) (sources : List (EffectSource H)) :
    Domain (BoundObligation H) :=
  sources.foldlM (importFinalizedEffect hashId binding) s

variable {hashId binding} {s s' : BoundObligation H} {source : EffectSource H}

theorem importFinalizedEffect_ok (h : importFinalizedEffect hashId binding s source = .ok s') :
    ∃ update transactions,
      updatedObligation hashId s.obligation source.observation source.effect = .ok update ∧
      postings hashId s.obligation source.observation source.effect = .ok transactions ∧
      s'.obligation = (update.map (boundTo binding)).getD s.obligation ∧
      s'.ledgerTransactions = s.ledgerTransactions ++ transactions.reduceOption := by
  rw [importFinalizedEffect, bind_eq_ok] at h
  obtain ⟨plan, hplan, hs'⟩ := h
  obtain ⟨update, transactions, hupdate, htransactions, hobligation, hledger⟩ :=
    createPoolObligationEffectPlan_ok hplan
  cases pure_eq_ok.1 hs'
  exact ⟨update, transactions, hupdate, htransactions,
    congrArg (·.getD s.obligation) hobligation, congrArg (s.ledgerTransactions ++ ·) hledger⟩

end Imports

/-! ## The events of a call about a position -/

/-- What the calls between `w` and `w'` have emitted about the position of an account, in the order
of the chain. -/
def emittedAbout (account : Address) (w w' : World) : List PoolEvent :=
  ((w'.logs.drop w.logs.length).map (·.event)).filter fun event ↦
    positionAddress event = some account

section Emitted

variable {mkt : Market} {msg : Msg} {w w₁ w₂ w' : World} {account : Address}

/-- Nothing was emitted about anybody's position. -/
def Quiet (w w' : World) : Prop :=
  ∃ logs : List PoolLog, w'.logs = w.logs ++ logs ∧ ∀ log ∈ logs, positionAddress log.event = none

theorem Quiet.trans (h : Quiet w w₁) (h' : Quiet w₁ w₂) : Quiet w w₂ := by
  obtain ⟨logs, hlogs, hnone⟩ := h
  obtain ⟨logs', hlogs', hnone'⟩ := h'
  refine ⟨logs ++ logs', by rw [hlogs', hlogs, List.append_assoc], fun log hlog ↦ ?_⟩
  exact (List.mem_append.1 hlog).elim (hnone log) (hnone' log)

theorem Accrues.quiet (h : Accrues mkt msg w w') : Quiet w w' := by
  rcases h with rfl | ⟨now, chunks, interest, reserve, _, _, rfl⟩
  · exact ⟨[], (List.append_nil _).symm, by simp⟩
  · exact ⟨[_], rfl, by simp [positionAddress]⟩

theorem Observes.quiet (h : Observes mkt msg w w') : Quiet w w' := by
  rcases h with rfl | ⟨observation, rfl⟩
  · exact ⟨[], (List.append_nil _).symm, by simp⟩
  · exact ⟨[_], rfl, by simp [positionAddress]⟩

/-- After a quiet beginning only the logs at the end count. -/
theorem emittedAbout_of_quiet {logs : List PoolLog} (h : Quiet w w₁)
    (hlogs : w'.logs = w₁.logs ++ logs) :
    emittedAbout account w w' = (logs.map (·.event)).filter fun event ↦
      positionAddress event = some account := by
  obtain ⟨quiet, hquiet, hnone⟩ := h
  have hskip : ((quiet.map (·.event)).filter fun event ↦ positionAddress event = some account)
      = [] := by
    rw [List.filter_eq_nil_iff]
    intro event hevent
    obtain ⟨log, hlog, rfl⟩ := List.mem_map.1 hevent
    simp [hnone log hlog]
  rw [emittedAbout, hlogs, hquiet, List.append_assoc, List.drop_left, List.map_append,
    List.filter_append, hskip, List.nil_append]

end Emitted

/-! ## The loan that opens a position -/

/-- No rounding takes place where `amount` is lent to an account without debt. -/
def MintsExactly (w : World) (amount : ℕ) : Prop :=
  w.pool.totalDebtShares = 0 ∨ w.pool.book.performing ∣ amount * w.pool.totalDebtShares

/-- **Which opening loans are imported.**  For every reachable world and every account without
debt, the event of a loan shows the debt the position has afterwards.  That is never less than the
amount, and is the amount exactly if the pool, after accrual, mints debt shares for it without
rounding.  Then importing the event executes an obligation over that amount, whose outstanding
principal is the debt on the chain; otherwise it is refused. -/
theorem opening_borrow_import {mkt : Market} {msg : Msg} {w w' : World} {amount shares : ℕ}
    (h : Reachable mkt w) (hfree : w.pool.debtSharesOf msg.sender = 0)
    (hborrow : borrow mkt msg amount w = .ok (w', shares)) :
    ∃ w₁ debtAfter, accrueToCurrent mkt msg w = .ok w₁ ∧
      emittedAbout msg.sender w w'
        = [.assetsBorrowed msg.sender amount shares debtAfter w'.pool.cashAssets] ∧
      w'.pool.debtQuoteAssets msg.sender = .ok debtAfter ∧ amount ≤ debtAfter ∧
      (debtAfter = amount ↔ MintsExactly w₁ amount) ∧
      ∀ {H : Type} [DecidableEq H] (hashId : CreditPreimage H → H)
        (binding : PoolObligationBinding H) (obligation : Obligation H)
        (observation : Observation H) (effect : FinalizedEffect H)
        (previous : PoolObligationProjection H),
        [observation.event] = emittedAbout msg.sender w w' →
        Admissible hashId binding obligation observation effect previous →
        Unexecuted obligation amount →
        (MintsExactly w₁ amount → ∃ plan obligation',
          createPoolObligationEffectPlan hashId binding obligation observation effect previous
            = .ok plan ∧
          plan.obligation = some obligation' ∧ obligation'.executionStatus = .executed ∧
          obligation'.outstandingPrincipalMinor = debtAfter) ∧
        (¬ MintsExactly w₁ amount →
          createPoolObligationEffectPlan hashId binding obligation observation effect previous
            = .error { code := "pool_borrow_obligation_mismatch"
                       message := "initial finalized borrow must exactly execute the accepted "
                         ++ "Obligation" }) := by
  have hexec : exec mkt msg w (.borrow amount) = .ok w' := bind_eq_ok.2 ⟨_, hborrow, rfl⟩
  have hs' := exec_sound h.sound hexec
  obtain ⟨w₁, w₂, t, debtAfter, hacc, hobs, hallows, _, _, hquote, hw⟩ := borrow_ok hborrow
  have hs₁ := accrueToCurrent_sound h.sound hacc
  have hfree₁ : w₁.pool.book.debtOf msg.sender = 0 := by
    rcases accrueToCurrent_ok hacc with rfl | ⟨_, _, _, _, _, _, rfl⟩ <;> exact hfree
  have hbook : w'.pool.book = w₁.pool.book.post (.borrow msg.sender amount shares) := by
    rw [hw, ← hobs.book]
    rfl
  rw [hobs.book] at hallows
  have hlogs : emittedAbout msg.sender w w'
      = [.assetsBorrowed msg.sender amount shares debtAfter w'.pool.cashAssets] := by
    rw [emittedAbout_of_quiet ((Accrues.quiet (accrueToCurrent_ok hacc)).trans
      (Observes.quiet hobs))
      (congrArg World.logs hw), hw]
    simp [positionAddress, bookBorrow, emitLog]
  have hexact : debtAfter = amount ↔ MintsExactly w₁ amount := by
    rw [hquote, hbook]
    exact hs₁.books.quote_opening hallows hfree₁
  refine ⟨w₁, debtAfter, hacc, hlogs, hquote ▸ hs'.debtQuoteAssets msg.sender, ?_, hexact, ?_⟩
  · have hle := hs₁.books.quote_borrow hallows
    rw [hquote, hbook]
    omega
  · intro H _ hashId binding obligation observation effect previous hevent hadm hnew
    rw [hlogs] at hevent
    have hevent := List.head_eq_of_cons_eq hevent
    refine ⟨fun hmint ↦ ?_, fun hround ↦ ?_⟩
    · have hsame := hexact.2 hmint
      obtain ⟨plan, obligation', hplan, hobligation, hexecuted, howed⟩ :=
        hadm.borrow_accepted hevent hnew hsame
      exact ⟨plan, obligation', hplan, hobligation, hexecuted,
        by rw [howed, hnew.outstandingPrincipalMinor, hsame]⟩
    · exact hadm.borrow_refused hevent fun hsame ↦ hround (hexact.1 hsame)

namespace Sample

/-- A hash that keeps apart what the samples hash. -/
def hashId : CreditPreimage (List ℕ) → List ℕ
  | .poolPositionAccount chainId account => [0, chainId, account.val]
  | .poolObligationProjection core => 1 :: core.projectionVersion :: core.poolObligationBindingId
  | .poolObligationExecutionReceipt core => 2 :: core.effectHash
  | .poolObligationLedgerIdempotency effectHash suffix =>
    3 :: suffix.length :: (suffix.toList.map Char.toNat ++ effectHash)
  | .ledgerTransaction core => 4 :: core.idempotencyKey
  | .poolLedgerEntry transactionHash sequence => 5 :: sequence :: transactionHash
  | .sandboxLedgerAccount ownerId _ accountType =>
    6 :: accountType.ctorIdx :: ownerId.toList.map Char.toNat

/-- Account `2` of the market of `Pool.Sample`. -/
def binding : PoolObligationBinding (List ℕ) where
  poolObligationBindingId := [7]
  subjectId := "subject"
  principalId := "principal"
  obligationId := "obligation"
  chainId := 84532
  contractAddress := 99
  marketId := 5
  positionAccountHash := hashId (.poolPositionAccount 84532 2)
  active := true

/-- An accepted offer of 1500, due in one payment. -/
def obligation : Obligation (List ℕ) where
  obligationId := "obligation"
  subjectId := "subject"
  principalId := "principal"
  authorityType := .consent
  assetId := erc20AssetId 84532 10
  originalPrincipalMinor := 1500
  outstandingPrincipalMinor := 1500
  annualRateBps := 600
  accruedInterestMinor := 0
  interestAccrualRemainder := 0
  outstandingInterestMinor := 0
  outstandingFeesMinor := 0
  totalRepaidMinor := 0
  scheduleSequence := 1
  installments :=
    [{ installmentId := [8], installmentNumber := 1, dueAt := 2000, scheduledPrincipalMinor := 1500
       scheduledInterestMinor := 0, scheduledFeeMinor := 0, paidPrincipalMinor := 0
       paidInterestMinor := 0, paidFeeMinor := 0, status := .scheduled, scheduleSequence := 1 }]
  writtenOffPrincipalMinor := 0
  writtenOffInterestMinor := 0
  writtenOffFeesMinor := 0
  executionStatus := .pending
  status := .created
  servicingClassification := .current
  daysPastDue := 0
  oldestUnpaidInstallmentId := some [8]
  servicingReasonCode := "obligation_created"
  servicingEffectiveAt := 1000
  servicingOwnerCode := .platform
  resolution := none
  sandboxExecutionReceiptId := none
  poolExecutionReceiptId := none
  poolObligationBindingId := some [7]
  executedAt := none
  lastAccruedAt := none
  updatedAt := 1000
  sandboxOnly := true
  productionFundsMoved := false

/-- The projection before anything is imported. -/
def projection : PoolObligationProjection (List ℕ) where
  poolObligationBindingId := [7]
  projectionVersion := 0
  finalizedEffectCount := 0
  sourceFinalizedEventCount := 0
  collateralAssets := 0
  debtAssets := 0
  badDebtAssets := 0
  totalRepaidAssets := 0
  lifecycleStatus := .bound
  lastEventKey := none
  lastEffectHash := none
  updatedAt := 1000
  projectionHash := []

/-- The key of the log at a place of the history, which is in a block of its own. -/
def eventKey (place : ℕ) : List ℕ :=
  Indexer.Sample.prims.hashId (.eventKey 84532 99 (Abi.bytes32 (1000 + place)) 0)

/-- The finalized observation of a log. -/
def observed (place : ℕ) (log : PoolLog) : Observation (List ℕ) :=
  let core : ObservationCore (List ℕ) :=
    { eventKey := eventKey place
      eventContentHash := Indexer.Sample.prims.hashId (.eventContent (eventKey place) 0 place
        (Abi.bytes32 (2000 + place)) log.blockTimestamp log.marketId log.event)
      chainId := 84532, contractAddress := 99, transactionHash := Abi.bytes32 (1000 + place)
      transactionIndex := 0, logIndex := 0, blockNumber := place
      blockHash := Abi.bytes32 (2000 + place), blockTimestamp := log.blockTimestamp
      marketId := log.marketId, event := log.event, observationStatus := .finalized
      confirmations := 4, observedAt := log.blockTimestamp, invalidation := none }
  { core with
    observationId := Indexer.Sample.prims.hashId
      (.observationId (eventKey place) core.blockHash .finalized)
    observationHash := Indexer.Sample.prims.hashId (.observation core) }

/-- The effect of a log on the projection of all logs up to it. -/
def source (earlier : List PoolLog) (log : PoolLog) : EffectSource (List ℕ) :=
  let o := observed earlier.length log
  let state := (applyLogs (initialState Indexer.Sample.descriptor) (earlier ++ [log])).toOption.getD
    (initialState Indexer.Sample.descriptor)
  let projection := projectionSnapshot Indexer.Sample.prims state
    ((List.range (earlier.length + 1)).map eventKey)
  let core : EffectCore (List ℕ) :=
    { eventKey := o.eventKey, observationHash := o.observationHash
      projectionHash := projection.snapshotHash, stateHash := projection.stateHash
      eventType := (Abi.shape o.event).1, recordedAt := o.observedAt }
  { observation := o
    effect :=
      { core with effectHash := Indexer.Sample.prims.hashId (.finalizedEffect core), projection } }

/-- Account `2` supplies the cash it is going to borrow, and pledges collateral. -/
def opening : List ChainInput :=
  [Pool.Sample.call 2 1000 (2000 * 10 ^ 18) 1 (.supply 1500),
    Pool.Sample.call 2 1000 (2000 * 10 ^ 18) 1 (.addCollateral (10 ^ 12))]

/-- Account `2` borrows 1000 of the 2000 in the pool, and owes 1057 when account `3` comes. -/
def matured : List ChainInput :=
  [Pool.Sample.call 1 1000 (2000 * 10 ^ 18) 1 (.supply 2000),
    Pool.Sample.call 2 1000 (2000 * 10 ^ 18) 1 (.addCollateral (10 ^ 12)),
    Pool.Sample.call 2 1000 (2000 * 10 ^ 18) 1 (.borrow 1000),
    Pool.Sample.call 3 1000 (2000 * 10 ^ 18) 1 (.addCollateral (10 ^ 12)),
    Pool.Sample.call 1 17281000 (2000 * 10 ^ 18) 2 .accrueInterest]

end Sample

/-- The first loan of all is imported. -/
theorem opening_borrow_import_first :
    let w := Pool.Sample.after Sample.opening
    let msg : Msg := ⟨2, 1000, some (Pool.Sample.observation (2000 * 10 ^ 18) 1000 1)⟩
    let source := Sample.source w.logs ⟨5, .assetsBorrowed 2 1500 1500 1500 0, 1000⟩
    ∃ w' shares plan obligation', borrow Pool.Sample.market msg 1500 w = .ok (w', shares) ∧
      createPoolObligationEffectPlan Sample.hashId Sample.binding Sample.obligation
        source.observation source.effect Sample.projection = .ok plan ∧
      plan.obligation = some obligation' ∧ obligation'.outstandingPrincipalMinor = 1500 := by
  intro w msg source
  have hok : (borrow Pool.Sample.market msg 1500 w).toOption.map (fun r ↦
      decide (emittedAbout 2 w r.1 = [source.observation.event] ∧
        r.1.pool.debtQuoteAssets 2 = .ok 1500)) = some true := by
    decide +kernel
  obtain ⟨⟨w', shares⟩, hresult, hfacts⟩ := Option.map_eq_some_iff.1 hok
  obtain ⟨hemitted, hquote⟩ := of_decide_eq_true hfacts
  have hborrow := toOption_eq_some.1 hresult
  have hadmissible : Admissible Sample.hashId Sample.binding Sample.obligation source.observation
      source.effect Sample.projection :=
    { active := rfl, obligationId := rfl, subjectId := rfl, principalId := rfl, bindingId := rfl
      finalized := by
        obtain ⟨_, hvalid⟩ := isOk_iff.1 (show (validateEffect Sample.hashId Sample.binding
          source.observation source.effect).isOk = true by decide +kernel)
        exact hvalid
      safe := by decide +kernel
      inOrder := by decide +kernel
      asset := by
        exact ⟨configurationOf Pool.Sample.market, by decide +kernel, rfl⟩
      position := by decide +kernel
      sandboxOnly := rfl
      productionFundsMoved := rfl }
  obtain ⟨w₁, debtAfter, _, _, hdebt, _, hexact, himport⟩ :=
    opening_borrow_import (Pool.Sample.reachable Sample.opening) rfl hborrow
  cases hdebt.symm.trans hquote
  obtain ⟨plan, obligation', hplan, hobligation, _, howed⟩ :=
    (himport Sample.hashId Sample.binding Sample.obligation source.observation source.effect
      Sample.projection hemitted.symm hadmissible ⟨rfl, rfl, rfl, rfl⟩).1 (hexact.1 rfl)
  exact ⟨w', shares, plan, obligation', hborrow, hplan, hobligation, howed⟩

/-- Account `3` borrows 100 and owes 101, and no obligation can be executed with that loan. -/
theorem opening_borrow_rounded :
    let w := Pool.Sample.after Sample.matured
    let msg : Msg := ⟨3, 17281000, some (Pool.Sample.observation (2000 * 10 ^ 18) 17281000 2)⟩
    let event : PoolEvent := .assetsBorrowed 3 100 95 101 900
    Reachable Pool.Sample.market w ∧ w.pool.debtSharesOf 3 = 0 ∧
    ∃ w', borrow Pool.Sample.market msg 100 w = .ok (w', 95) ∧ emittedAbout 3 w w' = [event] ∧
      ∀ {H : Type} [DecidableEq H] (hashId : CreditPreimage H → H)
        (binding : PoolObligationBinding H) (obligation : Obligation H)
        (observation : Observation H) (effect : FinalizedEffect H)
        (previous : PoolObligationProjection H) (plan : PoolObligationEffectPlan H),
        observation.event = event →
        createPoolObligationEffectPlan hashId binding obligation observation effect previous
          ≠ .ok plan := by
  intro w msg event
  have hok : (borrow Pool.Sample.market msg 100 w).toOption.map (fun r ↦
      decide (emittedAbout 3 w r.1 = [event] ∧ r.2 = 95)) = some true := by
    decide +kernel
  obtain ⟨⟨w', shares⟩, hresult, hfacts⟩ := Option.map_eq_some_iff.1 hok
  obtain ⟨hemitted, rfl⟩ := of_decide_eq_true hfacts
  refine ⟨Pool.Sample.reachable _, by decide +kernel, w', toOption_eq_some.1 hresult, hemitted, ?_⟩
  intro H _ hashId binding obligation observation effect previous plan hevent hplan
  obtain ⟨update, _, hupdate, _⟩ := createPoolObligationEffectPlan_ok hplan
  simp only [updatedObligation, hevent, event, executed, bind_eq_ok, throwIf_eq_ok] at hupdate
  obtain ⟨_, ⟨_, hguard, _⟩, _⟩ := hupdate
  exact hguard (.inr (.inr (.inr (by decide))))

/-! ## Liquidations -/

section Liquidation

variable {H : Type} {obligation value : Obligation H} {observation : Observation H}

theorem repaid_ok {debtReducedAssets debtAfter : ℕ}
    (h : repaid obligation observation debtReducedAssets debtAfter = .ok value) :
    value.totalRepaidMinor = obligation.totalRepaidMinor + debtReducedAssets := by
  simp only [repaid, repaymentAllocation, bind_eq_ok, pure_eq_ok] at h
  obtain ⟨_, _, allocation, ⟨_, _, _, _, _, _, rfl⟩, _, _, rfl⟩ := h
  rfl

/-- A liquidation leaves nothing outstanding, and an obligation that is over. -/
theorem liquidated_ok {repaidAssets badDebtRecognizedAssets : ℕ}
    (h : liquidated obligation observation repaidAssets badDebtRecognizedAssets = .ok value) :
    value.totalRepaidMinor = obligation.totalRepaidMinor + repaidAssets ∧
      value.outstandingPrincipalMinor = 0 ∧ value.outstandingInterestMinor = 0 ∧
      value.status = if badDebtRecognizedAssets = 0 then .fullyRepaid else .writtenOff := by
  simp only [liquidated, bind_eq_ok] at h
  obtain ⟨_, _, h⟩ := h
  split at h
  · rename_i hloss
    cases pure_eq_ok.1 h
    refine ⟨rfl, rfl, rfl, (if_neg ?_).symm⟩
    omega
  · rename_i hloss
    cases pure_eq_ok.1 h
    refine ⟨rfl, rfl, rfl, (if_pos ?_).symm⟩
    omega

end Liquidation

/-- The two events of a liquidation are about one payment, which reduces the debt. -/
theorem emittedAbout_liquidate {mkt : Market} {msg : Msg} {w w' : World} {borrower : Address}
    {amount minOut deadline seized bad : ℕ}
    (h : liquidate mkt msg borrower amount minOut deadline w = .ok (w', seized, bad)) :
    ∃ reduced shares dust debtAfter cashAfter, 0 < reduced ∧ 0 < amount ∧
      emittedAbout borrower w w'
        = [.assetsRepaid borrower msg.sender amount reduced shares dust debtAfter cashAfter,
          .positionLiquidated borrower msg.sender amount seized bad] := by
  obtain ⟨w₁, w₂, w₃, price, t, t', shares, reduced, debtAfter, hacc, hobs, _, hamount, hshares,
    hallows, _, rfl, _, _, _, hw⟩ := liquidate_ok h
  have hquiet := (Accrues.quiet (accrueToCurrent_ok hacc)).trans
    (Observes.quiet (refreshCurrentPrice_ok hobs))
  have hreduced : 0 < reduced := by
    obtain ⟨_, hT, hpos, _, _, hreduced, _⟩ := hallows
    have hP : 0 < w₂.pool.book.performing := by
      refine Nat.pos_of_ne_zero fun h0 ↦ ?_
      rw [h0, Nat.div_zero] at hshares
      omega
    have hle := Rounding.le_mul_quoteUp (s := shares) (P := w₂.pool.book.performing) hT
    have hlt := Nat.mul_pos hpos hP
    rw [← hreduced] at hle
    exact Nat.pos_of_mul_pos_left (hlt.trans_le hle)
  refine ⟨reduced, shares, amount - reduced, debtAfter, w₂.pool.cashAssets + amount, hreduced,
    hamount, ?_⟩
  rcases hw with ⟨rfl, _, rfl⟩ | ⟨_, _, _, rfl⟩
  · rw [emittedAbout_of_quiet hquiet (List.append_assoc ..)]
    simp [positionAddress]
  · rw [emittedAbout_of_quiet hquiet (List.append_assoc ..)]
    simp [positionAddress]

/-- `TERMINAL_STATUSES` of `credit-outcome.js` -/
def terminalStatuses : List ObligationStatus := [.fullyRepaid, .writtenOff]

/-- The events of a liquidation are imported, and the obligation then shows it: it owes what the
position still owes on the chain, one of the events has been counted as repaid, and the obligation
is over only if nothing is left to pay. -/
def ImportsFaithfully {H : Type} [DecidableEq H] (hashId : CreditPreimage H → H)
    (binding : PoolObligationBinding H) (s : BoundObligation H) (sources : List (EffectSource H))
    (borrower : Address) (w' : World) : Prop :=
  ∃ s' remaining, importFinalizedEffects hashId binding s sources = .ok s' ∧
    w'.pool.debtQuoteAssets borrower = .ok remaining ∧
    s'.obligation.outstandingPrincipalMinor + s'.obligation.outstandingInterestMinor = remaining ∧
    (∃ source ∈ sources, s'.obligation.totalRepaidMinor
      = s.obligation.totalRepaidMinor + repaidAssetsOf source.observation.event) ∧
    (s'.obligation.status ∈ terminalStatuses → remaining = 0)

/-- Both events of a liquidation are counted. -/
theorem importFinalizedEffects_liquidate {H : Type} [DecidableEq H]
    {hashId : CreditPreimage H → H} {binding : PoolObligationBinding H} {s s' : BoundObligation H}
    {first second : EffectSource H} {account payer liquidator : Address}
    {assets reduced shares dust debtAfter cashAfter amount seized bad : ℕ}
    (hfirst : first.observation.event
      = .assetsRepaid account payer assets reduced shares dust debtAfter cashAfter)
    (hsecond : second.observation.event = .positionLiquidated account liquidator amount seized bad)
    (h : importFinalizedEffects hashId binding s [first, second] = .ok s') :
    s'.obligation.totalRepaidMinor = s.obligation.totalRepaidMinor + reduced + amount ∧
      s'.obligation.outstandingPrincipalMinor = 0 ∧ s'.obligation.outstandingInterestMinor = 0 ∧
      s'.obligation.status = if bad = 0 then .fullyRepaid else .writtenOff := by
  simp only [importFinalizedEffects, List.foldlM_cons, List.foldlM_nil, bind_eq_ok,
    pure_eq_ok] at h
  obtain ⟨s₁, h₁, s₂, h₂, rfl⟩ := h
  obtain ⟨update₁, _, hupdate₁, _, hobligation₁, _⟩ := importFinalizedEffect_ok h₁
  obtain ⟨update₂, _, hupdate₂, _, hobligation₂, _⟩ := importFinalizedEffect_ok h₂
  simp only [updatedObligation, hfirst, bind_eq_ok, pure_eq_ok] at hupdate₁
  simp only [updatedObligation, hsecond, bind_eq_ok, pure_eq_ok] at hupdate₂
  obtain ⟨value₁, hvalue₁, rfl⟩ := hupdate₁
  obtain ⟨value₂, hvalue₂, rfl⟩ := hupdate₂
  obtain ⟨htotal, hprincipal, hinterest, hstatus⟩ := liquidated_ok hvalue₂
  rw [hobligation₁] at htotal
  rw [hobligation₂]
  refine ⟨?_, hprincipal, hinterest, hstatus⟩
  rw [← repaid_ok hvalue₁]
  exact htotal

/-- **No liquidation is imported as what it is.**  Whatever the obligation says, and whichever
observations and effects carry the events: if both of them are accepted, the payment has been
counted twice. -/
theorem liquidation_import_unfaithful {mkt : Market} {msg : Msg} {w w' : World}
    {borrower : Address} {amount minOut deadline seized bad : ℕ}
    (h : liquidate mkt msg borrower amount minOut deadline w = .ok (w', seized, bad))
    {H : Type} [DecidableEq H] (hashId : CreditPreimage H → H) (binding : PoolObligationBinding H)
    (s : BoundObligation H) (sources : List (EffectSource H))
    (hsources : sources.map (·.observation.event) = emittedAbout borrower w w') :
    ¬ ImportsFaithfully hashId binding s sources borrower w' := by
  obtain ⟨reduced, shares, dust, debtAfter, cashAfter, hreduced, hamount, hemitted⟩ :=
    emittedAbout_liquidate h
  rw [hemitted] at hsources
  obtain ⟨first, rest, rfl, hfirst, hrest⟩ := List.map_eq_cons_iff.1 hsources
  obtain ⟨second, rest, rfl, hsecond, hnil⟩ := List.map_eq_cons_iff.1 hrest
  cases List.map_eq_nil_iff.1 hnil
  rintro ⟨s', remaining, himport, _, _, ⟨source, hmem, honce⟩, _⟩
  have hboth := (importFinalizedEffects_liquidate hfirst hsecond himport).1
  rcases List.mem_pair.1 hmem with rfl | rfl
  · rw [hfirst, repaidAssetsOf] at honce
    omega
  · rw [hsecond, repaidAssetsOf] at honce
    omega

namespace Sample

/-- Account `2` borrows all of the 1500. -/
def borrowed : List ChainInput :=
  opening ++ [Pool.Sample.call 2 1000 (2000 * 10 ^ 18) 1 (.borrow 1500)]

/-- The obligation with the loan of `borrowed` imported. -/
def mirror : Domain (BoundObligation (List ℕ)) :=
  importFinalizedEffects hashId binding ⟨obligation, projection, []⟩
    [source (Pool.Sample.after opening).logs ⟨5, .assetsBorrowed 2 1500 1500 1500 0, 1000⟩]

/-- The price falls a little, and account `3` repays 400 of the debt. -/
def liquidator : Msg := ⟨3, 1010, some (Pool.Sample.observation (1850 * 10 ^ 18) 1010 2)⟩

/-- What happens before the first event of the liquidation. -/
def refreshed : List PoolLog :=
  (Pool.Sample.after borrowed).logs ++
    [⟨5, .interestAccrued 1000 1010 1 1 0, 1010⟩,
      ⟨5, .oracleObservationAccepted 7 2 (1850 * 10 ^ 18) 1010, 1010⟩]

/-- What the liquidation repays. -/
def repaidLog : PoolLog := ⟨5, .assetsRepaid 2 3 400 400 399 0 1101 400, 1010⟩

/-- The liquidation's own event, which repeats the amount. -/
def liquidatedLog : PoolLog := ⟨5, .positionLiquidated 2 3 400 227027027028 0, 1010⟩

/-- The two events of the liquidation. -/
def liquidation : List (EffectSource (List ℕ)) :=
  [source refreshed repaidLog, source (refreshed ++ [repaidLog]) liquidatedLog]

/-- The pool emits these logs, and the rest of the debt is left. -/
theorem liquidate_borrowed :
    ∃ w', liquidate Pool.Sample.market liquidator 2 400 0 2000 (Pool.Sample.after borrowed)
        = .ok (w', 227027027028, 0) ∧
      w'.logs = refreshed ++ [repaidLog, liquidatedLog] ∧
      liquidation.map (·.observation.event) = emittedAbout 2 (Pool.Sample.after borrowed) w' ∧
      w'.pool.debtQuoteAssets 2 = .ok 1101 := by
  have hok : (liquidate Pool.Sample.market liquidator 2 400 0 2000
      (Pool.Sample.after borrowed)).toOption.map (fun r ↦ decide (r.2 = (227027027028, 0) ∧
        r.1.logs = refreshed ++ [repaidLog, liquidatedLog] ∧
        liquidation.map (·.observation.event)
          = emittedAbout 2 (Pool.Sample.after borrowed) r.1 ∧
        r.1.pool.debtQuoteAssets 2 = .ok 1101)) = some true := by
    decide +kernel
  obtain ⟨⟨w', result⟩, hresult, hfacts⟩ := Option.map_eq_some_iff.1 hok
  obtain ⟨rfl, hlogs, hevents, hquote⟩ := of_decide_eq_true hfacts
  exact ⟨w', toOption_eq_some.1 hresult, hlogs, hevents, hquote⟩

end Sample

theorem liquidation_import_unfaithful_partial :
    ∃ w' s, Sample.mirror = .ok s ∧
      ¬ ImportsFaithfully Sample.hashId Sample.binding s Sample.liquidation 2 w' := by
  obtain ⟨s, hs⟩ := isOk_iff.1 (show Sample.mirror.isOk = true by decide +kernel)
  obtain ⟨w', hliquidate, _, hevents, _⟩ := Sample.liquidate_borrowed
  exact ⟨w', s, hs, liquidation_import_unfaithful hliquidate Sample.hashId Sample.binding s
    Sample.liquidation hevents⟩

/-- A liquidation repays 400 of a debt of 1501, and importing it leaves an obligation that is fully
repaid, with 800 paid of 1500, while the position owes 1101. -/
theorem liquidation_settles_too_much :
    let w := Pool.Sample.after Sample.borrowed
    Reachable Pool.Sample.market w ∧ w.pool.debtQuoteAssets 2 = .ok 1500 ∧
    ∃ w' s s', liquidate Pool.Sample.market Sample.liquidator 2 400 0 2000 w
        = .ok (w', 227027027028, 0) ∧
      Sample.liquidation.map (·.observation.event) = emittedAbout 2 w w' ∧
      Sample.mirror = .ok s ∧
      s.obligation.outstandingPrincipalMinor + s.obligation.outstandingInterestMinor = 1500 ∧
      importFinalizedEffects Sample.hashId Sample.binding s Sample.liquidation = .ok s' ∧
      s'.obligation.status = .fullyRepaid ∧ s'.obligation.outstandingPrincipalMinor = 0 ∧
      s'.obligation.outstandingInterestMinor = 0 ∧ s'.obligation.totalRepaidMinor = 800 ∧
      w'.pool.debtQuoteAssets 2 = .ok 1101 ∧
      ¬ ImportsFaithfully Sample.hashId Sample.binding s Sample.liquidation 2 w' := by
  intro w
  obtain ⟨w', hliquidate, _, hevents, hquote⟩ := Sample.liquidate_borrowed
  have hok : (do
      let s ← Sample.mirror
      let s' ← importFinalizedEffects Sample.hashId Sample.binding s Sample.liquidation
      pure (decide (
        s.obligation.outstandingPrincipalMinor + s.obligation.outstandingInterestMinor = 1500 ∧
        s'.obligation.status = .fullyRepaid ∧ s'.obligation.outstandingPrincipalMinor = 0 ∧
        s'.obligation.outstandingInterestMinor = 0 ∧ s'.obligation.totalRepaidMinor = 800))
      : Domain Bool).toOption = some true := by
    decide +kernel
  simp only [toOption_eq_some, bind_eq_ok, pure_eq_ok, decide_eq_true_eq] at hok
  obtain ⟨s, hs, s', hs', howed, hstatus, hprincipal, hinterest, hrepaid⟩ := hok
  refine ⟨Pool.Sample.reachable _, by decide +kernel, w', s, s', hliquidate, hevents, hs, howed,
    hs', hstatus, hprincipal, hinterest, hrepaid, hquote, ?_⟩
  rintro ⟨t, remaining, ht, hremaining, hsum, _⟩
  cases hs'.symm.trans ht
  cases hquote.symm.trans hremaining
  rw [hprincipal, hinterest] at hsum
  exact absurd hsum (by decide)

end Credit
end IpoOne
