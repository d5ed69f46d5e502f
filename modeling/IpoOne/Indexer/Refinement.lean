import IpoOne.Indexer.Digest
import IpoOne.Indexer.Observation
import IpoOne.Pool.Invariant

/-!
# The projection refines the pool

The indexer never reads the pool's storage: it rebuilds it from the events, some of which carry a
new value and some only a difference.  `Agrees` says that a projected state shows a storage, field
by field and account by account, except for the derived `debtAssets` of an account, which the
storage does not have.

* `Effect.agrees` — one effect of the pool emits one event, and the rule for that event succeeds and
  leads from agreement to agreement.
* `Reachable.projects` — so the projection of all logs of a reachable world agrees with its storage.
* `projection_refines_storage` — the same for the raw logs a provider delivers.
-/

set_option autoImplicit false

namespace IpoOne
namespace Indexer

open Fallible Pool

/-! ## Agreement -/

/-- The account shows what the storage has for an address. -/
structure Account.Shows (account : Account) (st : Storage) (address : Address) : Prop where
  supplyShares : account.supplyShares = st.supplySharesOf address
  collateralAssets : account.collateralAssets = st.collateralAssetsOf address
  debtShares : account.debtShares = st.debtSharesOf address
  badDebtAssets : account.badDebtAssets = st.badDebtAssetsOf address

/-- The projected state shows the storage of an initialized pool. -/
structure Agrees (state : ProjectionState) (st : Storage) : Prop where
  initialized : state.initialized = true
  cashAssets : state.cashAssets = st.cashAssets
  grossDebtAssets : state.grossDebtAssets = st.grossDebtAssets
  reservesAssets : state.reservesAssets = st.reservesAssets
  badDebtAssets : state.badDebtAssets = st.badDebtAssets
  totalSupplyShares : state.totalSupplyShares = st.totalSupplyShares
  totalDebtShares : state.totalDebtShares = st.totalDebtShares
  lastAccruedAt : state.lastAccruedAt = st.lastAccruedAt
  acceptedPriceUsdWad : state.acceptedPriceUsdWad = st.acceptedPriceUsdWad
  acceptedOracleObservedAt : state.acceptedOracleObservedAt = st.acceptedOracleObservedAt
  acceptedOracleRoundId : state.acceptedOracleRoundId = st.acceptedOracleRoundId
  oracleDeviationHalted : state.oracleDeviationHalted = st.oracleDeviationHalted
  newRiskPaused : state.newRiskPaused = st.newRiskPaused
  accounts : ∀ a, (accountFor state a).Shows st a

section Accounts

variable {state state' : ProjectionState} {st st' : Storage} {address : Address}
  {account : Account}

theorem shows_of_same (h : ∀ a, (accountFor state a).Shows st a)
    (hsame : state'.accounts = state.accounts)
    (hstorage : st'.supplySharesOf = st.supplySharesOf ∧
      st'.collateralAssetsOf = st.collateralAssetsOf ∧ st'.debtSharesOf = st.debtSharesOf ∧
      st'.badDebtAssetsOf = st.badDebtAssetsOf)
    (a : Address) : (accountFor state' a).Shows st' a := by
  obtain ⟨hsupply, hcollateral, hdebt, hbad⟩ := hstorage
  obtain ⟨h₁, h₂, h₃, h₄⟩ := h a
  rw [accountFor, hsame]
  exact ⟨hsupply ▸ h₁, hcollateral ▸ h₂, hdebt ▸ h₃, hbad ▸ h₄⟩

/-- The accounts still agree after one of them changed, if the changed one does and the storage
changed nowhere else. -/
theorem shows_of_set (h : ∀ a, (accountFor state a).Shows st a)
    (hset : state'.accounts = state.accounts.set address account)
    (hself : account.Shows st' address)
    (hother : ∀ a, a ≠ address → st'.supplySharesOf a = st.supplySharesOf a ∧
      st'.collateralAssetsOf a = st.collateralAssetsOf a ∧
      st'.debtSharesOf a = st.debtSharesOf a ∧ st'.badDebtAssetsOf a = st.badDebtAssetsOf a)
    (a : Address) : (accountFor state' a).Shows st' a := by
  rw [accountFor_of_set hset]
  by_cases ha : a = address
  · rw [if_pos ha, ha]
    exact hself
  · rw [if_neg ha]
    obtain ⟨hsupply, hcollateral, hdebt, hbad⟩ := hother a ha
    obtain ⟨h₁, h₂, h₃, h₄⟩ := h a
    exact ⟨h₁.trans hsupply.symm, h₂.trans hcollateral.symm, h₃.trans hdebt.symm,
      h₄.trans hbad.symm⟩

end Accounts

/-! ## One effect, one event -/

/-- The event does not announce a market on another chain. -/
def BindsChain (chainId : ℕ) : PoolEvent → Prop
  | .marketInitialized chainId' .. => chainId' = chainId
  | _ => True

/-- An effect appends the log of one event, which the projection follows. -/
def Follows (mkt : Market) (msg : Msg) (w w' : World) (event : PoolEvent) : Prop :=
  w'.logs = w.logs ++ [⟨mkt.marketId, event, msg.timestamp⟩] ∧
    BindsChain mkt.marketChainId event ∧
    ∀ state, Agrees state w.pool →
      ∃ state', applyEvent state msg.timestamp event = .ok state' ∧ Agrees state' w'.pool

section Effects

variable {mkt : Market} {msg : Msg} {w w' : World}

theorem update_other {f : Address → ℕ} {address : Address} {v : ℕ} (a : Address)
    (ha : a ≠ address) : Function.update f address v a = f a :=
  Function.update_of_ne ha ..

theorem follows_supply (assets shares : ℕ) (t : Evm.Token Address) :
    Follows mkt msg w (bookSupply mkt msg assets shares t w)
      (.assetsSupplied msg.sender assets shares (w.pool.cashAssets + assets)
        (w.pool.totalSupplyShares + shares)) := by
  refine ⟨rfl, trivial, fun state hst ↦ ⟨_, rfl, ?_⟩⟩
  have hmine := hst.accounts msg.sender
  refine { hst with cashAssets := rfl, totalSupplyShares := rfl, accounts := ?_ }
  refine shows_of_set hst.accounts rfl
    ⟨?_, hmine.collateralAssets, hmine.debtShares, hmine.badDebtAssets⟩
    fun a ha ↦ ⟨update_other a ha, rfl, rfl, rfl⟩
  simp only [bookSupply, emitLog, Function.update_self, hmine.supplyShares]

theorem follows_withdrawal {assets shares : ℕ} (t : Evm.Token Address)
    (allows : w.pool.book.Allows (.withdraw msg.sender assets shares)) :
    Follows mkt msg w (bookWithdrawal mkt msg assets shares t w)
      (.assetsWithdrawn msg.sender assets shares (w.pool.cashAssets - assets)
        (w.pool.totalSupplyShares - shares)) := by
  refine ⟨rfl, trivial, fun state hst ↦ ?_⟩
  have hmine := hst.accounts msg.sender
  have hle : shares ≤ w.pool.supplySharesOf msg.sender := allows.2.1
  have hsub : subtract (accountFor state msg.sender).supplyShares shares
      = .ok (w.pool.supplySharesOf msg.sender - shares) := by
    rw [hmine.supplyShares, subtract_eq_ok]
    exact ⟨hle, rfl⟩
  refine ⟨_, bind_eq_ok.2 ⟨_, hsub, rfl⟩, ?_⟩
  refine { hst with cashAssets := rfl, totalSupplyShares := rfl, accounts := ?_ }
  refine shows_of_set hst.accounts rfl
    ⟨?_, hmine.collateralAssets, hmine.debtShares, hmine.badDebtAssets⟩
    fun a ha ↦ ⟨update_other a ha, rfl, rfl, rfl⟩
  simp only [bookWithdrawal, emitLog, Function.update_self]

theorem follows_borrow (assets shares debtAfter : ℕ) (t : Evm.Token Address) :
    Follows mkt msg w (bookBorrow mkt msg assets shares debtAfter t w)
      (.assetsBorrowed msg.sender assets shares debtAfter (w.pool.cashAssets - assets)) := by
  refine ⟨rfl, trivial, fun state hst ↦ ⟨_, rfl, ?_⟩⟩
  have hmine := hst.accounts msg.sender
  refine { hst with
    cashAssets := rfl
    grossDebtAssets := congrArg (· + assets) hst.grossDebtAssets
    totalDebtShares := congrArg (· + shares) hst.totalDebtShares
    accounts := ?_ }
  refine shows_of_set hst.accounts rfl
    ⟨hmine.supplyShares, hmine.collateralAssets, ?_, hmine.badDebtAssets⟩
    fun a ha ↦ ⟨rfl, rfl, update_other a ha, rfl⟩
  simp only [bookBorrow, emitLog, Function.update_self, hmine.debtShares]

theorem follows_repayment {account : Address} {assets shares reduced : ℕ} (debtAfter : ℕ)
    (t : Evm.Token Address) (hmine : shares ≤ w.pool.debtSharesOf account)
    (htotal : shares ≤ w.pool.totalDebtShares) (hgross : reduced ≤ w.pool.grossDebtAssets) :
    Follows mkt msg w (bookRepayment mkt msg account assets shares reduced debtAfter t w)
      (.assetsRepaid account msg.sender assets reduced shares (assets - reduced) debtAfter
        (w.pool.cashAssets + assets)) := by
  refine ⟨rfl, trivial, fun state hst ↦ ?_⟩
  have hacc := hst.accounts account
  have hsub : subtract (accountFor state account).debtShares shares
      = .ok (w.pool.debtSharesOf account - shares) := by
    rw [hacc.debtShares, subtract_eq_ok]
    exact ⟨hmine, rfl⟩
  have hsubGross : subtract state.grossDebtAssets reduced
      = .ok (w.pool.grossDebtAssets - reduced) := by
    rw [hst.grossDebtAssets, subtract_eq_ok]
    exact ⟨hgross, rfl⟩
  have hsubTotal : subtract state.totalDebtShares shares
      = .ok (w.pool.totalDebtShares - shares) := by
    rw [hst.totalDebtShares, subtract_eq_ok]
    exact ⟨htotal, rfl⟩
  refine ⟨_, bind_eq_ok.2 ⟨_, hsub, bind_eq_ok.2 ⟨_, hsubGross, bind_eq_ok.2 ⟨_, hsubTotal,
    rfl⟩⟩⟩, ?_⟩
  refine { hst with
    cashAssets := rfl
    grossDebtAssets := rfl
    reservesAssets := congrArg (· + (assets - reduced)) hst.reservesAssets
    totalDebtShares := rfl
    accounts := ?_ }
  refine shows_of_set hst.accounts rfl
    ⟨hacc.supplyShares, hacc.collateralAssets, ?_, hacc.badDebtAssets⟩
    fun a ha ↦ ⟨rfl, rfl, update_other a ha, rfl⟩
  simp only [bookRepayment, emitLog, Function.update_self]

/-- Collateral moves in three ways, and the projection takes the balance afterwards from the
event in two of them. -/
theorem agrees_collateral {address : Address} {collateral : ℕ} {state state' : ProjectionState}
    {st : Storage} (hst : Agrees state st)
    (hstate : state' = withAccount state address
      { accountFor state address with collateralAssets := collateral }) :
    Agrees state' { st with
      collateralAssetsOf := Function.update st.collateralAssetsOf address collateral } := by
  subst hstate
  have hacc := hst.accounts address
  refine { hst with accounts := ?_ }
  refine shows_of_set hst.accounts rfl
    ⟨hacc.supplyShares, ?_, hacc.debtShares, hacc.badDebtAssets⟩
    fun a ha ↦ ⟨rfl, update_other a ha, rfl, rfl⟩
  simp only [Function.update_self]

theorem follows_pledge (assets : ℕ) (t : Evm.Token Address) :
    Follows mkt msg w (bookPledge mkt msg assets t w)
      (.collateralAdded msg.sender assets (w.pool.collateralAssetsOf msg.sender + assets)) :=
  ⟨rfl, trivial, fun _ hst ↦ ⟨_, rfl, agrees_collateral hst rfl⟩⟩

theorem follows_release (assets : ℕ) (t : Evm.Token Address) :
    Follows mkt msg w (bookRelease mkt msg assets t w)
      (.collateralReleased msg.sender assets (w.pool.collateralAssetsOf msg.sender - assets)) :=
  ⟨rfl, trivial, fun _ hst ↦ ⟨_, rfl, agrees_collateral hst rfl⟩⟩

theorem subtract_collateral {state : ProjectionState} {borrower : Address} {seized : ℕ}
    (hst : Agrees state w.pool) (hle : seized ≤ w.pool.collateralAssetsOf borrower) :
    subtract (accountFor state borrower).collateralAssets seized
      = .ok (w.pool.collateralAssetsOf borrower - seized) := by
  rw [(hst.accounts borrower).collateralAssets, subtract_eq_ok]
  exact ⟨hle, rfl⟩

theorem follows_seizure {borrower : Address} (repaid : ℕ) {seized : ℕ} (t : Evm.Token Address)
    (allows : w.pool.book.Allows (.release borrower seized)) :
    Follows mkt msg w (bookSeizure mkt msg borrower repaid seized t w)
      (.positionLiquidated borrower msg.sender repaid seized 0) :=
  ⟨rfl, trivial, fun _ hst ↦
    ⟨_, bind_eq_ok.2 ⟨_, subtract_collateral hst allows, rfl⟩, agrees_collateral hst rfl⟩⟩

theorem follows_writeOff {borrower : Address} (repaid : ℕ) {seized bad : ℕ}
    (t : Evm.Token Address) (allows : w.pool.book.Allows (.release borrower seized))
    (htotal : w.pool.debtSharesOf borrower ≤ w.pool.totalDebtShares) (hbad : 0 < bad) :
    Follows mkt msg w (bookWriteOff mkt msg borrower repaid seized bad t w)
      (.positionLiquidated borrower msg.sender repaid seized bad) := by
  refine ⟨rfl, trivial, fun state hst ↦ ?_⟩
  have hacc := hst.accounts borrower
  have hsub : subtract state.totalDebtShares (accountFor state borrower).debtShares
      = .ok (w.pool.totalDebtShares - w.pool.debtSharesOf borrower) := by
    rw [hst.totalDebtShares, hacc.debtShares, subtract_eq_ok]
    exact ⟨htotal, rfl⟩
  refine ⟨_, bind_eq_ok.2 ⟨_, subtract_collateral hst allows,
    (if_pos hbad.ne').trans (bind_eq_ok.2 ⟨_, hsub, rfl⟩)⟩, ?_⟩
  refine { hst with
    totalDebtShares := rfl
    badDebtAssets := congrArg (· + bad) hst.badDebtAssets
    accounts := ?_ }
  refine shows_of_set hst.accounts rfl ⟨hacc.supplyShares, ?_, ?_, ?_⟩
    fun a ha ↦ ⟨rfl, update_other a ha, update_other a ha, update_other a ha⟩
  · simp only [bookWriteOff, emitLog, Function.update_self]
  · simp only [bookWriteOff, emitLog, Function.update_self]
  · simp only [bookWriteOff, emitLog, Function.update_self, hacc.badDebtAssets]

theorem follows_recovery {assets : ℕ} (t : Evm.Token Address)
    (allows : w.pool.book.Allows (.recover msg.sender assets)) :
    Follows mkt msg w (bookRecovery mkt msg assets t w)
      (.badDebtRecovered msg.sender msg.sender assets
        (w.pool.badDebtAssetsOf msg.sender - assets) (w.pool.badDebtAssets - assets)) := by
  refine ⟨rfl, trivial, fun state hst ↦ ?_⟩
  have hmine := hst.accounts msg.sender
  have hgross : assets ≤ w.pool.grossDebtAssets := allows.2.2.2
  have hsub : subtract state.grossDebtAssets assets = .ok (w.pool.grossDebtAssets - assets) := by
    rw [hst.grossDebtAssets, subtract_eq_ok]
    exact ⟨hgross, rfl⟩
  refine ⟨_, bind_eq_ok.2 ⟨_, hsub, rfl⟩, ?_⟩
  refine { hst with
    cashAssets := congrArg (· + assets) hst.cashAssets
    grossDebtAssets := rfl
    badDebtAssets := rfl
    accounts := ?_ }
  refine shows_of_set hst.accounts rfl
    ⟨hmine.supplyShares, hmine.collateralAssets, hmine.debtShares, ?_⟩
    fun a ha ↦ ⟨rfl, rfl, rfl, update_other a ha⟩
  simp only [bookRecovery, emitLog, Function.update_self]

/-- **One effect, one event, and the projection follows it.** -/
theorem Effect.follows (h : Effect mkt msg w w') : ∃ event, Follows mkt msg w w' event := by
  cases h with
  | paused paused =>
    refine ⟨_, rfl, trivial, fun state hst ↦ ⟨_, rfl, ?_⟩⟩
    exact { hst with
      newRiskPaused := rfl
      accounts := shows_of_same hst.accounts rfl ⟨rfl, rfl, rfl, rfl⟩ }
  | halted halted previous candidate =>
    refine ⟨_, rfl, trivial, fun state hst ↦ ⟨_, rfl, ?_⟩⟩
    exact { hst with
      oracleDeviationHalted := rfl
      accounts := shows_of_same hst.accounts rfl ⟨rfl, rfl, rfl, rfl⟩ }
  | observed observation =>
    refine ⟨_, rfl, trivial, fun state hst ↦ ⟨_, rfl, ?_⟩⟩
    exact { hst with
      acceptedPriceUsdWad := rfl
      acceptedOracleObservedAt := rfl
      acceptedOracleRoundId := rfl
      accounts := shows_of_same hst.accounts rfl ⟨rfl, rfl, rfl, rfl⟩ }
  | accrued now chunks interest reserve allows bound =>
    refine ⟨_, rfl, trivial, fun state hst ↦ ⟨_, rfl, ?_⟩⟩
    exact { hst with
      grossDebtAssets := congrArg (· + interest) hst.grossDebtAssets
      reservesAssets := congrArg (· + reserve) hst.reservesAssets
      lastAccruedAt := rfl
      accounts := shows_of_same hst.accounts rfl ⟨rfl, rfl, rfl, rfl⟩ }
  | supplied assets shares t allows pulled => exact ⟨_, follows_supply assets shares t⟩
  | withdrawn assets shares t allows pushed => exact ⟨_, follows_withdrawal t allows⟩
  | pledged assets t pulled => exact ⟨_, follows_pledge assets t⟩
  | released assets t allows pushed => exact ⟨_, follows_release assets t⟩
  | borrowed assets shares debtAfter t allows bound pushed =>
    exact ⟨_, follows_borrow assets shares debtAfter t⟩
  | repaid account assets shares reduced debtAfter t allows pulled =>
    obtain ⟨_, hT, _, hmine, htotal, rfl, _⟩ := allows
    have hpot := Rounding.quoteUp_le_pot (P := w.pool.book.performing) htotal hT
    exact ⟨_, follows_repayment debtAfter t hmine htotal (hpot.trans (Nat.sub_le _ _))⟩
  | seized borrower repaid seized t allows pushed => exact ⟨_, follows_seizure repaid t allows⟩
  | writtenOff borrower repaid seized bad t allows allows' positive pushed =>
    exact ⟨_, follows_writeOff repaid t allows allows'.2.2.1 positive⟩
  | recovered assets t allows pulled => exact ⟨_, follows_recovery t allows⟩

end Effects

/-! ## Whole histories -/

/-- The projection of logs, in order. -/
def applyLogs (state : ProjectionState) (logs : List PoolLog) : Domain ProjectionState :=
  logs.foldlM (fun state log ↦ applyEvent state log.blockTimestamp log.event) state

/-- All logs of a world are the market's own, and their projection agrees with its storage. -/
structure Projects (mkt : Market) (descriptor : Descriptor) (w : World) : Prop where
  binding : ∀ log ∈ w.logs, log.marketId = mkt.marketId ∧ BindsChain mkt.marketChainId log.event
  agrees : ∃ state, applyLogs (initialState descriptor) w.logs = .ok state ∧ Agrees state w.pool

section Histories

variable {mkt : Market} {msg : Msg} {descriptor : Descriptor} {w w' : World}

theorem Effect.projects (h : Effect mkt msg w w') (hp : Projects mkt descriptor w) :
    Projects mkt descriptor w' := by
  obtain ⟨event, hlogs, hbinds, hfollows⟩ := Effect.follows h
  obtain ⟨hbinding, state, hstate, hagrees⟩ := hp
  obtain ⟨state', happly, hagrees'⟩ := hfollows state hagrees
  refine ⟨?_, state', ?_, hagrees'⟩
  · intro log hlog
    rw [hlogs, List.mem_append, List.mem_singleton] at hlog
    rcases hlog with hlog | rfl
    · exact hbinding log hlog
    · exact ⟨rfl, hbinds⟩
  · rw [applyLogs, hlogs, List.foldlM_append, bind_eq_ok]
    refine ⟨state, hstate, ?_⟩
    rw [List.foldlM_cons, bind_eq_ok]
    exact ⟨state', happly, rfl⟩

theorem effects_projects (h : Relation.ReflTransGen (Effect mkt msg) w w')
    (hp : Projects mkt descriptor w) : Projects mkt descriptor w' := by
  induction h with
  | refl => exact hp
  | tail _ he ih => exact Effect.projects he ih

theorem chainStep_projects (i : ChainInput) (hp : Projects mkt descriptor w) :
    Projects mkt descriptor (chainStep mkt w i) := by
  cases i with
  | call msg c =>
    rw [chainStep]
    split
    · rename_i w' h
      exact effects_projects (exec_effects h) hp
    · exact hp
  | tokens debtToken collateralToken =>
    rw [chainStep]
    split
    · exact ⟨hp.binding, hp.agrees⟩
    · exact hp

/-- The constructor announces the first price before it announces the market. -/
theorem Deployed.projects (h : Deployed mkt w) (descriptor : Descriptor) :
    Projects mkt descriptor w := by
  obtain ⟨env, cfg, debtToken, collateralToken, h⟩ := h
  simp only [deploy, bind_eq_ok, pure_eq_ok, Prod.mk.injEq] at h
  obtain ⟨_, _, observation, _, _, _, rfl, rfl⟩ := h
  refine ⟨?_, _, rfl, ?_⟩
  · intro log hlog
    simp only [emitLog, storeAcceptedObservation, List.nil_append, List.cons_append,
      List.mem_cons, List.not_mem_nil, or_false] at hlog
    rcases hlog with rfl | rfl
    · exact ⟨rfl, trivial⟩
    · exact ⟨rfl, rfl⟩
  · exact ⟨rfl, rfl, rfl, rfl, rfl, rfl, rfl, rfl, rfl, rfl, rfl, rfl, rfl,
      fun _ ↦ ⟨rfl, rfl, rfl, rfl⟩⟩

/-- **The logs of a reachable world project to its storage.** -/
theorem Reachable.projects (h : Reachable mkt w) (descriptor : Descriptor) :
    Projects mkt descriptor w := by
  obtain ⟨w₀, hw₀, hrun⟩ := h
  exact Run.reachable_induct (fun _ i hp ↦ chainStep_projects i hp)
    (Deployed.projects hw₀ descriptor) hrun

end Histories

/-! ## Raw logs -/

section Delivery

variable {H : Type} (prims : Primitives H) (descriptor : Descriptor)

/-- A provider delivers a log as it is on the chain, once it is final: every field is well formed,
the chain, the emitter and the block's timestamp are right, and the topics and the data decode to
the event that was emitted. -/
structure Delivers (log : PoolLog) (raw : RawLog) : Prop where
  chainId : raw.chainId = caip descriptor.chainId
  contractAddress : raw.contractAddress = some descriptor.contractAddress
  transactionHash : ∃ x, raw.transactionHash = some x
  transactionIndex : ∃ x, raw.transactionIndex = some x
  logIndex : ∃ x, raw.logIndex = some x
  blockNumber : ∃ x, raw.blockNumber = some x
  blockHash : ∃ x, raw.blockHash = some x
  blockTimestamp : raw.blockTimestamp = some log.blockTimestamp
  confirmations : ∃ x, raw.confirmations = some x ∧
    descriptor.finalityPolicy.finalizedConfirmations ≤ x
  observedAt : ∃ x, raw.observedAt = some x
  payload : ∃ topics data, raw.topics = topics.map some ∧ 1 ≤ topics.length ∧
    topics.length ≤ 4 ∧ raw.data = some data ∧
    prims.decodeEventLog topics data = some (log.marketId, log.event)

/-- Normalize raw logs and apply them to the empty projection, in the order given. -/
def projectLogs (raws : List RawLog) : Domain ProjectionState := do
  let observations ← raws.mapM (normalizeLog prims descriptor)
  observations.foldlM applyFinalizedEvent (initialState descriptor)

variable {prims descriptor} {log : PoolLog} {raw : RawLog}

theorem decodeLog_of_binds {topics : List Bytes32} {data : List UInt8}
    (h : prims.decodeEventLog topics data = some (log.marketId, log.event))
    (hmarket : log.marketId = descriptor.marketId)
    (hbinds : BindsChain descriptor.chainId log.event) :
    decodeLog prims descriptor topics data = .ok log.event := by
  obtain ⟨marketId, event, timestamp⟩ := log
  rw [decodeLog, h]
  simp only [bind_eq_ok, throwIf_eq_ok, pure_eq_ok]
  refine ⟨_, rfl, (), not_not.2 hmarket, (), ?_, rfl⟩
  cases event <;> first | exact pure_eq_ok.2 rfl | exact throwIf_eq_ok.2 (not_not.2 hbinds)

theorem topicsOf_map_some {topics : List Bytes32} (h₁ : 1 ≤ topics.length)
    (h₄ : topics.length ≤ 4) : topicsOf (topics.map some) = .ok topics := by
  have hknown : (topics.map some).reduceOption = topics := by
    rw [List.reduceOption, List.filterMap_map]
    exact List.filterMap_some ..
  rw [topicsOf, hknown]
  simp only [bind_eq_ok, throwIf_eq_ok, pure_eq_ok, List.length_map]
  exact ⟨(), by omega, trivial⟩

/-- An honestly delivered log is normalized to a finalized observation of its event. -/
theorem normalizeLog_of_delivers (h : Delivers prims descriptor log raw)
    (hmarket : log.marketId = descriptor.marketId)
    (hbinds : BindsChain descriptor.chainId log.event) :
    ∃ o, normalizeLog prims descriptor raw = .ok o ∧ o.observationStatus = .finalized ∧
      o.blockTimestamp = log.blockTimestamp ∧ o.event = log.event := by
  obtain ⟨transactionHash, htransactionHash⟩ := h.transactionHash
  obtain ⟨transactionIndex, htransactionIndex⟩ := h.transactionIndex
  obtain ⟨logIndex, hlogIndex⟩ := h.logIndex
  obtain ⟨blockNumber, hblockNumber⟩ := h.blockNumber
  obtain ⟨blockHash, hblockHash⟩ := h.blockHash
  obtain ⟨observedAt, hobservedAt⟩ := h.observedAt
  obtain ⟨confirmations, hconfirmations, hfinal⟩ := h.confirmations
  obtain ⟨topics, data, htopics, h₁, h₄, hdata, hdecode⟩ := h.payload
  have hstatus : statusFor confirmations descriptor.finalityPolicy = .ok .finalized := by
    rw [statusFor, if_pos hfinal]
    rfl
  simp only [normalizeLog, bind_eq_ok, throwIf_eq_ok, required_eq_ok, pure_eq_ok, htopics]
  exact ⟨_, ⟨(), not_not.2 h.chainId, _, h.contractAddress, (), not_not.2 rfl, _, hlogIndex, _,
    htransactionIndex, _, hconfirmations, _, topicsOf_map_some h₁ h₄, _, hdata, _,
    decodeLog_of_binds hdecode hmarket hbinds, _, htransactionHash, _, hblockNumber, _,
    hblockHash, _, h.blockTimestamp, _, hstatus, _, hobservedAt, rfl⟩, rfl, rfl, rfl⟩

/-- Honestly delivered logs project to what the logs themselves project to. -/
theorem projectLogs_of_delivers {logs : List PoolLog} {raws : List RawLog}
    (h : List.Forall₂ (Delivers prims descriptor) logs raws)
    (hbinding : ∀ log ∈ logs,
      log.marketId = descriptor.marketId ∧ BindsChain descriptor.chainId log.event)
    {state : ProjectionState} (hstate : applyLogs (initialState descriptor) logs = .ok state) :
    projectLogs prims descriptor raws = .ok state := by
  suffices hall : ∃ observations, raws.mapM (normalizeLog prims descriptor) = .ok observations ∧
      ∀ start, observations.foldlM applyFinalizedEvent start = applyLogs start logs by
    obtain ⟨observations, hobservations, hfold⟩ := hall
    rw [projectLogs, bind_eq_ok]
    exact ⟨observations, hobservations, (hfold _).trans hstate⟩
  clear hstate
  induction h with
  | nil => exact ⟨[], rfl, fun _ ↦ rfl⟩
  | @cons log raw logs raws hlog _ ih =>
    obtain ⟨hmarket, hbinds⟩ := hbinding log (List.mem_cons_self ..)
    obtain ⟨o, ho, hfinal, htime, hevent⟩ := normalizeLog_of_delivers hlog hmarket hbinds
    obtain ⟨observations, hrest, hfold⟩ :=
      ih fun log hlog ↦ hbinding log (List.mem_cons_of_mem _ hlog)
    refine ⟨o :: observations, ?_, fun start ↦ ?_⟩
    · exact mapM_eq_ok.2 (.cons ho (mapM_eq_ok.1 hrest))
    · have happly : applyFinalizedEvent start o
          = applyEvent start log.blockTimestamp log.event := by
        rw [applyFinalizedEvent, throwIf, failIf, if_neg (not_not.2 hfinal), htime, hevent]
        rfl
      rw [List.foldlM_cons, happly, applyLogs, List.foldlM_cons]
      exact congrArg _ (funext hfold)

end Delivery

/-- **The projection refines the storage of the pool.**  For every world that successful calls can
reach from a deployment, and any faithful delivery of the logs emitted so far to an indexer of that
pool, no event is refused, and the projection has the pool's cash, debt, reserves, bad debt, share
totals, accrual time, oracle fields and freeze flags, and every account's supply shares, collateral,
debt shares and bad debt. -/
theorem projection_refines_storage {H : Type} {prims : Primitives H} {descriptor : Descriptor}
    {mkt : Market} {w : World} {raws : List RawLog} (h : Reachable mkt w)
    (hchain : descriptor.chainId = mkt.marketChainId) (hmarket : descriptor.marketId = mkt.marketId)
    (hraws : List.Forall₂ (Delivers prims descriptor) w.logs raws) :
    ∃ state, projectLogs prims descriptor raws = .ok state ∧ Agrees state w.pool := by
  obtain ⟨hbinding, state, hstate, hagrees⟩ := Reachable.projects h descriptor
  rw [← hchain, ← hmarket] at hbinding
  exact ⟨state, projectLogs_of_delivers hraws hbinding hstate, hagrees⟩

/-! ## An indexer to look at -/

namespace Sample

/-- The default finality policy. -/
def finalityPolicy : FinalityPolicy where
  includedConfirmations := 1
  safeConfirmations := 2
  finalizedConfirmations := 4
  maxReorgDepth := 32
  included_pos := by decide
  included_lt_safe := by decide
  safe_lt_finalized := by decide
  maxReorgDepth_pos := by decide

/-- An indexer of the market of `Pool.Sample`. -/
def descriptor : Descriptor where
  chainId := 84532
  contractAddress := 99
  marketId := 5
  finalityPolicy

/-- A log as a provider delivers it, in a block of its own with the given number of
confirmations. -/
def rawLog (blockNumber confirmations : ℕ) (log : PoolLog) : RawLog where
  chainId := caip 84532
  contractAddress := some 99
  transactionHash := some (Abi.bytes32 (1000 + blockNumber))
  transactionIndex := some 0
  logIndex := some 0
  blockNumber := some blockNumber
  blockHash := some (Abi.bytes32 (2000 + blockNumber))
  blockTimestamp := some log.blockTimestamp
  confirmations := some confirmations
  topics := (Abi.topics log.marketId log.event).map some
  data := some (Abi.data log.event)
  observedAt := some log.blockTimestamp

theorem delivers (blockNumber : ℕ) {log : PoolLog} (h : Abi.Fits log.event) :
    Delivers prims descriptor log (rawLog blockNumber 4 log) := by
  obtain ⟨h₁, h₄⟩ := Abi.length_topics log.marketId log.event
  exact ⟨rfl, rfl, ⟨_, rfl⟩, ⟨_, rfl⟩, ⟨_, rfl⟩, ⟨_, rfl⟩, ⟨_, rfl⟩, rfl, ⟨_, rfl, le_rfl⟩,
    ⟨_, rfl⟩, _, _, rfl, h₁, h₄, rfl, Abi.decodeEventLog_encode log.marketId h⟩

/-- All logs of a list, each in the block of its position. -/
def rawLogs (logs : List PoolLog) : List RawLog :=
  logs.zipIdx.map fun e ↦ rawLog e.2 4 e.1

theorem delivers_rawLogs {logs : List PoolLog} (h : ∀ log ∈ logs, Abi.Fits log.event) :
    List.Forall₂ (Delivers prims descriptor) logs (rawLogs logs) := by
  have hfrom : ∀ start, List.Forall₂ (Delivers prims descriptor) logs
      ((logs.zipIdx start).map fun e ↦ rawLog e.2 4 e.1) := by
    induction logs with
    | nil => exact fun _ ↦ .nil
    | cons log rest ih =>
      intro start
      rw [List.zipIdx_cons, List.map_cons]
      exact .cons (delivers start (h log (List.mem_cons_self ..)))
        (ih (fun log hlog ↦ h log (List.mem_cons_of_mem _ hlog)) (start + 1))
  exact hfrom 0

end Sample

/-- The logs of a deployment, a deposit, a pledge and a loan. -/
theorem projection_refines_storage_loan :
    let w := Pool.Sample.after Pool.Sample.loan
    w.logs.length = 5 ∧ w.pool.grossDebtAssets = 1000 ∧
      ∃ state, projectLogs Sample.prims Sample.descriptor (Sample.rawLogs w.logs) = .ok state ∧
        Agrees state w.pool := by
  intro w
  have hfits : ∀ log ∈ w.logs, Abi.Fits log.event := by decide +kernel
  exact ⟨by decide +kernel, by decide +kernel,
    projection_refines_storage (Pool.Sample.reachable _) rfl rfl
      (Sample.delivers_rawLogs hfits)⟩

end Indexer
end IpoOne
