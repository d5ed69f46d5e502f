import IpoOne.Indexer.Observation

/-!
# The event indexer

`PoolEventIndexer` of `pool-event-indexer.js` with the store it writes to: `ingest`,
`observeCanonicalBlock` and `restore`, in the order in which the source reads and writes.

A method of the source changes the indexer as it goes and may throw halfway; whatever it has written
by then stays.  So every method here returns its outcome *and* the state it leaves, and the state it
leaves with an error is the one at the moment of the error.  The commit to the store is a
transaction: it either happens as a whole or throws what the database threw, which is an input of
the method, and in that case writes nothing.
-/

set_option autoImplicit false

namespace IpoOne
namespace Indexer

open Fallible

/-! ## Records -/

/-- A cursor with its hash. -/
structure Cursor (H : Type) extends CursorCore H where
  cursorHash : H
  deriving DecidableEq

/-- What a finalized event leaves: the projection right after it. -/
structure FinalizedEffect (H : Type) extends EffectCore H where
  effectHash : H
  projection : Snapshot H
  deriving DecidableEq

/-- The message that announces an effect. -/
structure OutboxMessage (H : Type) where
  outboxMessageId : H
  payloadHash : H
  payload : OutboxCore H
  deriving DecidableEq

/-- Whether new risk is frozen, with a hash. -/
structure RiskControl (H : Type) extends RiskControlCore H where
  controlHash : H
  deriving DecidableEq

/-- A reconciliation that was carried out. -/
structure Reconciliation (H : Type) extends ReconciliationCore H where
  reconciliationId : H
  reconciliationHash : H
  deriving DecidableEq

/-- `freeze_new_risk` comes without approval, `resume_new_risk` with the hashes of the approval and
of who gave it. -/
structure RiskTransition (H : Type) where
  transitionId : H
  previousControlHash : H
  nextControlHash : H
  reconciliationId : H
  approval : Option (Bytes32 × Bytes32)
  reasonCode : ReasonCode
  recordedAt : ℕ
  deriving DecidableEq

/-- What one ingestion hands to the store. -/
structure Bundle (H : Type) where
  observations : List (Observation H)
  effect : Option (FinalizedEffect H × OutboxMessage H)
  cursor : Option (Cursor H)
  deriving DecidableEq

/-- The observation store. -/
structure Store (H : Type) where
  observations : List (Observation H)
  effects : List (FinalizedEffect H)
  cursors : List (Cursor H)
  outbox : List (OutboxMessage H)
  reconciliations : List (Reconciliation H)
  riskControl : Option (RiskControl H)
  riskTransitions : List (RiskTransition H)
  deriving DecidableEq

/-- The last finalized event, and its block. -/
structure Head (H : Type) where
  blockNumber : ℕ
  blockHash : Bytes32
  eventKey : H
  deriving DecidableEq

/-- The fields of `PoolEventIndexer` that change. -/
structure PoolEventIndexer (H : Type) where
  state : ProjectionState
  latestByEventKey : InsertionMap H (Observation H)
  finalizedEventKeys : List H
  finalizedEventKeySet : List H
  finalizedObservations : InsertionMap H (Observation H)
  head : Option (Head H)
  riskControl : RiskControl H
  deriving DecidableEq

/-- The indexer and its store. -/
structure System (H : Type) where
  indexer : PoolEventIndexer H
  store : Store H
  deriving DecidableEq

/-- A new store. -/
def Store.empty {H : Type} : Store H where
  observations := []
  effects := []
  cursors := []
  outbox := []
  reconciliations := []
  riskControl := none
  riskTransitions := []

section Methods

variable {H : Type} [LinearOrder H] (prims : Primitives H) (descriptor : Descriptor)

/-- `#newRiskControl`, at a given time of the clock. -/
def newRiskControl (frozen : Bool) (reasonCode : ReasonCode) (previous : Option (RiskControl H))
    (now : ℕ) : RiskControl H :=
  let core : RiskControlCore H :=
    { chainId := descriptor.chainId, contractAddress := descriptor.contractAddress
      marketId := descriptor.marketId, newRiskFrozen := frozen, reasonCode
      version := (previous.elim 0 (·.version)) + 1
      previousControlHash := previous.map (·.controlHash), changedAt := now }
  { core with controlHash := prims.hashId (.riskControl core) }

/-- The constructor. -/
def PoolEventIndexer.new (now : ℕ) : PoolEventIndexer H where
  state := initialState descriptor
  latestByEventKey := .empty
  finalizedEventKeys := []
  finalizedEventKeySet := []
  finalizedObservations := .empty
  head := none
  riskControl := newRiskControl prims descriptor false .initialLocalNoFundsState none now

/-- `snapshot()` -/
def PoolEventIndexer.snapshot (ix : PoolEventIndexer H) : Snapshot H :=
  projectionSnapshot prims ix.state ix.finalizedEventKeys

/-! ## The projection -/

/-- Where an observation stands on the chain; the key decides between events at one place. -/
def position (o : Observation H) : ℕ ×ₗ ℕ ×ₗ ℕ ×ₗ H :=
  toLex (o.blockNumber, toLex (o.transactionIndex, toLex (o.logIndex, o.eventKey)))

/-- `#orderedFinalized` -/
def orderedFinalized (observations : InsertionMap H (Observation H)) : List (Observation H) :=
  observations.values.mergeSort fun left right ↦ position left ≤ position right

/-- `#rebuildProjection` -/
def rebuildProjection (observations : InsertionMap H (Observation H)) :
    Domain (ProjectionState × List H) := do
  let ordered := orderedFinalized observations
  let state ← ordered.foldlM applyFinalizedEvent (initialState descriptor)
  pure (state, ordered.map (·.eventKey))

/-! ## Admission -/

/-- `#validateTransition` -/
def validateTransition (current : Option (Observation H)) (next : Observation H) : Domain Unit :=
  match current with
  | none => pure ()
  | some current =>
    if current.observationHash = next.observationHash then pure ()
    else if current.observationStatus = .finalized then
      throwIf (current.eventContentHash ≠ next.eventContentHash ∨
          next.observationStatus ≠ .finalized)
        "finalized_pool_event_cannot_reorg" "finalized Pool V1 history cannot change"
    else if current.observationStatus = .invalidated then
      throwIf (current.blockHash = next.blockHash)
        "invalidated_pool_event_reused" "an invalidated block observation cannot be reused"
    else if current.blockHash = next.blockHash then do
      throwIf (current.eventContentHash ≠ next.eventContentHash)
        "pool_event_content_drift" "one tuple/block identity decoded to different event content"
      throwIf (finalityRank next.observationStatus ≤ finalityRank current.observationStatus)
        "pool_finality_regression" "Pool V1 finality must advance monotonically"
    else pure ()

/-- The two ways in which `#applyObservation` recognizes an observation it has already. -/
def isDuplicate (current : Option (Observation H)) (next : Observation H) : Bool :=
  current.any fun current ↦
    current.observationHash = next.observationHash ∨
      (current.eventContentHash = next.eventContentHash ∧
        current.observationStatus = next.observationStatus)

/-- The invalidation of the current observation that `#applyObservation` makes when the next one is
in another block. -/
def replaced (current : Option (Observation H)) (next : Observation H) :
    Domain (List (Observation H)) :=
  match current with
  | none => pure []
  | some current =>
    if current.observationStatus ≠ .invalidated ∧ current.blockHash ≠ next.blockHash then do
      let invalidation ←
        createInvalidation prims current (some next.blockHash) (some next.observedAt)
      pure [invalidation]
    else pure []

/-- What `#applyObservation` checks and creates before it writes anything. -/
def admission (ix : PoolEventIndexer H) (o : Observation H) : Domain (List (Observation H)) := do
  let current := ix.latestByEventKey.get o.eventKey
  validateTransition current o
  replaced prims current o

/-- `#cursorFor`, with the head it leaves. -/
def cursorFor (head : Option (Head H)) (o : Observation H) :
    Domain (Option (Head H) × Cursor H) := do
  throwIf (head.any (fun h ↦ o.blockNumber < h.blockNumber ∧
      descriptor.finalityPolicy.maxReorgDepth < h.blockNumber - o.blockNumber) = true)
    "pool_log_beyond_reorg_window" "reordered pool log is outside the admitted reorg window"
  let head :=
    if head.all (fun h ↦ h.blockNumber < o.blockNumber) then
      some { blockNumber := o.blockNumber, blockHash := o.blockHash, eventKey := o.eventKey }
    else head
  let core : CursorCore H :=
    { chainId := o.chainId, contractAddress := o.contractAddress, marketId := o.marketId
      blockNumber := o.blockNumber, blockHash := o.blockHash, eventKey := some o.eventKey
      observationHash := o.observationHash, recordedAt := o.observedAt }
  pure (head, { core with cursorHash := prims.hashId (.chainCursor core) })

/-! ## Applying an observation -/

/-- The part of `#applyObservation` that moves the projection.  Only a finalized observation of a
new key does. -/
def finalize (ix : PoolEventIndexer H) (o : Observation H) :
    Domain (PoolEventIndexer H × Option (FinalizedEffect H × OutboxMessage H)) :=
  if o.observationStatus = .finalized ∧ o.eventKey ∉ ix.finalizedEventKeySet then do
    let candidates := ix.finalizedObservations.set o.eventKey o
    let (state, eventKeys) ← rebuildProjection descriptor candidates
    let ix := { ix with
      state
      finalizedObservations := candidates
      finalizedEventKeySet := ix.finalizedEventKeySet ++ [o.eventKey]
      finalizedEventKeys := eventKeys }
    let projection := ix.snapshot prims
    let effectCore : EffectCore H :=
      { eventKey := o.eventKey, observationHash := o.observationHash
        projectionHash := projection.snapshotHash, stateHash := projection.stateHash
        eventType := (Abi.shape o.event).1, recordedAt := o.observedAt }
    let effect : FinalizedEffect H :=
      { effectCore with effectHash := prims.hashId (.finalizedEffect effectCore), projection }
    let payload : OutboxCore H :=
      { eventKey := o.eventKey, effectHash := effect.effectHash
        stateHash := projection.stateHash, marketId := o.marketId }
    pure (ix, some (effect,
      { outboxMessageId := prims.hashId (.finalizedOutbox o.eventKey)
        payloadHash := prims.hashId (.finalizedOutboxPayload payload), payload }))
  else pure (ix, none)

/-- `latestByEventKey.set(observation.eventKey, observation)`, one after the other. -/
def setLatest (ix : PoolEventIndexer H) (observations : List (Observation H)) :
    PoolEventIndexer H :=
  { ix with latestByEventKey :=
      observations.foldl (fun latest o ↦ latest.set o.eventKey o) ix.latestByEventKey }

/-- `#applyObservation`: `none` for a duplicate, the bundle to commit otherwise. -/
def applyObservation (ix : PoolEventIndexer H) (o : Observation H) :
    Domain (Option (Bundle H)) × PoolEventIndexer H :=
  if isDuplicate (ix.latestByEventKey.get o.eventKey) o = true then (.ok none, ix)
  else
    match admission prims ix o with
    | .error e => (.error e, ix)
    | .ok invalidations =>
      let observations := invalidations ++ [o]
      let written := setLatest ix observations
      match finalize prims descriptor written o with
      | .error e => (.error e, written)
      | .ok (projected, effect) =>
        match cursorFor prims descriptor projected.head o with
        | .error e => (.error e, projected)
        | .ok (head, cursor) =>
          (.ok (some { observations, effect, cursor := some cursor }), { projected with head })

/-! ## The store -/

/-- What `commitIngestion` answers. -/
structure Persisted where
  replayed : Bool
  observationCount : ℕ
  deriving DecidableEq

/-- `commitIngestion`.  `failure` is what the database throws, if it throws. -/
def commitIngestion (store : Store H) (bundle : Bundle H) (failure : Option DomainError) :
    Domain (Store H × Persisted) :=
  match failure with
  | some e => .error e
  | none =>
    let fresh := bundle.observations.filter fun o ↦
      o.observationHash ∉ store.observations.map (·.observationHash)
    if fresh = [] ∧ bundle.effect = none then
      pure (store, { replayed := true, observationCount := 0 })
    else
      let exposed := bundle.effect.toList.filter fun e ↦
        e.1.eventKey ∉ store.effects.map (·.eventKey)
      pure ({ store with
        observations := store.observations ++ fresh
        effects := store.effects ++ exposed.map (·.1)
        outbox := store.outbox ++ exposed.map (·.2)
        cursors := store.cursors ++ bundle.cursor.toList },
        { replayed := decide (fresh = []), observationCount := fresh.length })

/-! ## The methods -/

/-- What became of a log. -/
inductive Disposition where
  | duplicate
  | observed
  | finalized
  deriving DecidableEq, Repr

/-- What `ingest` returns. -/
structure Ingested (H : Type) where
  disposition : Disposition
  observation : Observation H
  invalidations : List (Observation H)
  effect : Option (FinalizedEffect H)
  snapshot : Snapshot H
  persisted : Option Persisted
  deriving DecidableEq

/-- Takes a log in: applies its observation, and commits what comes of it. -/
def ingest (s : System H) (log : RawLog) (failure : Option DomainError) :
    Domain (Ingested H) × System H :=
  match normalizeLog prims descriptor log with
  | .error e => (.error e, s)
  | .ok observation =>
    match applyObservation prims descriptor s.indexer observation with
    | (.error e, indexer) => (.error e, { s with indexer })
    | (.ok none, indexer) =>
      (.ok { disposition := .duplicate, observation, invalidations := [], effect := none
             snapshot := indexer.snapshot prims, persisted := none }, { s with indexer })
    | (.ok (some bundle), indexer) =>
      match commitIngestion s.store bundle failure with
      | .error e => (.error e, { s with indexer })
      | .ok (store, persisted) =>
        (.ok { disposition := if bundle.effect.isSome then .finalized else .observed
               observation
               invalidations := bundle.observations.filter (·.observationStatus = .invalidated)
               effect := bundle.effect.map (·.1)
               snapshot := indexer.snapshot prims
               persisted := some persisted }, { indexer, store })

/-- The observations that a canonical block contradicts. -/
def contradicted (ix : PoolEventIndexer H) (blockNumber : ℕ) (blockHash : Bytes32) :
    List (Observation H) :=
  ix.latestByEventKey.values.filter fun o ↦
    o.blockNumber = blockNumber ∧ o.blockHash ≠ blockHash ∧ o.observationStatus ≠ .invalidated

/-- What `observeCanonicalBlock` checks and creates before it writes anything: the block, and the
invalidations of everything the block contradicts. -/
def invalidationsOf (ix : PoolEventIndexer H) (blockNumber : Option ℕ)
    (blockHash : Option Bytes32) (observedAt : Option ℕ) :
    Domain (ℕ × Bytes32 × List (Observation H)) := do
  let number ←
    (match blockNumber with
    | some number => .ok number
    | none => .error { code := "invalid_pool_projection"
                       message := "blockNumber must be an unsigned decimal string" })
  let hash ←
    (match blockHash with
    | some hash => .ok hash
    | none => .error { code := "invalid_canonical_block"
                       message := "canonical block hash is invalid" })
  let candidates := contradicted ix number hash
  throwIf (∃ o ∈ candidates, o.observationStatus = .finalized) "finalized_pool_event_cannot_reorg"
    "canonical read conflicts with finalized Pool V1 history"
  let invalidations ←
    candidates.mapM fun o ↦ createInvalidation prims o (some hash) observedAt
  pure (number, hash, invalidations)

/-- `observeCanonicalBlock`, returning the invalidations. -/
def observeCanonicalBlock (s : System H) (blockNumber : Option ℕ) (blockHash : Option Bytes32)
    (observedAt : Option ℕ) (failure : Option DomainError) :
    Domain (List (Observation H)) × System H :=
  match invalidationsOf prims s.indexer blockNumber blockHash observedAt with
  | .error e => (.error e, s)
  | .ok (number, hash, invalidations) =>
    if invalidations = [] then (.ok [], s)
    else
      let indexer := setLatest s.indexer invalidations
      let core : CursorCore H :=
        { chainId := descriptor.chainId, contractAddress := descriptor.contractAddress
          marketId := descriptor.marketId, blockNumber := number, blockHash := hash
          eventKey := none, observationHash := prims.hashId (.emptyCanonicalBlock number hash)
          recordedAt := observedAt.getD 0 }
      let cursor : Cursor H := { core with cursorHash := prims.hashId (.chainCursor core) }
      match commitIngestion s.store
        { observations := invalidations, effect := none, cursor := some cursor } failure with
      | .error e => (.error e, { s with indexer })
      | .ok (store, _) => (.ok invalidations, { indexer, store })

/-- The loop of `restore` over the stored history. -/
def replay : PoolEventIndexer H → List (Observation H) → Domain Unit × PoolEventIndexer H
  | ix, [] => (.ok (), ix)
  | ix, o :: rest =>
    let ix := setLatest ix [o]
    if o.observationStatus = .invalidated then replay ix rest
    else
      match cursorFor prims descriptor ix.head o with
      | .error e => (.error e, ix)
      | .ok (head, _) =>
        replay { ix with
          head
          finalizedObservations :=
            if o.observationStatus = .finalized then ix.finalizedObservations.set o.eventKey o
            else ix.finalizedObservations } rest

/-- What `restore` forgets before it replays. -/
def clear (ix : PoolEventIndexer H) : PoolEventIndexer H :=
  { ix with
    state := initialState descriptor
    latestByEventKey := .empty
    finalizedEventKeys := []
    finalizedEventKeySet := []
    finalizedObservations := .empty
    head := none }

/-- Rebuilds the indexer from the stored observations. -/
def restore (s : System H) (now : ℕ) : Domain (Snapshot H) × System H :=
  match replay prims descriptor (clear descriptor s.indexer) s.store.observations with
  | (.error e, indexer) => (.error e, { s with indexer })
  | (.ok (), indexer) =>
    match rebuildProjection descriptor indexer.finalizedObservations with
    | .error e => (.error e, { s with indexer })
    | .ok (state, eventKeys) =>
      let indexer := { indexer with
        state
        finalizedEventKeys := eventKeys
        finalizedEventKeySet := eventKeys
        riskControl := s.store.riskControl.getD
          (newRiskControl prims descriptor false .restoredLocalNoFundsState
            (some indexer.riskControl) now) }
      (.ok (indexer.snapshot prims), { s with indexer })

end Methods

end Indexer
end IpoOne
