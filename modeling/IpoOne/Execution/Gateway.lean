import IpoOne.Execution.Repository

/-!
# The execution gateway

`HyperliquidTestnetExecutionGateway.execute`: a call asks for the binding and the policy's decision,
reserves a nonce, has the request signed, moves its record to `SUBMITTED`, calls the transport, and
ends the record with what the transport answered.

A call is at one of its `await`s; `resume` takes it on to the next one, with what it was waiting for
and what the clock then shows, which both come with the step, so that the gateways of one repository
need not be told apart.  An operation of the repository is `performed` when its queue gets to it,
and the call goes on with the result in a step of its own.  `submissions` lists the calls of the
transport, with the state that the record had in the repository at that moment.
-/

set_option autoImplicit false

namespace IpoOne
namespace Execution

open Fallible
open Reconciliation (ActionKind)

/-! ## What the collaborators answer -/

/-- The argument of `execute`. -/
structure GatewayInput (H : Type) where
  facilityId : String
  facilityHash : H
  facilityVersion : ℕ
  orderIntentId : String
  orderIntentHash : H
  orderIntentVersion : ℕ
  idempotencyKey : String
  action : ActionInput
  deriving DecidableEq

/-- What the binding resolver answers. -/
structure Binding (H : Type) where
  facilityId : String
  facilityHash : H
  accountBindingHash : H
  signerReferenceHash : H
  simulationOnly : Bool
  liveSignerAvailable : Bool
  apiWalletApproved : Bool
  keyExportable : Bool
  deriving DecidableEq

/-- What the policy evaluator answers. -/
structure PolicyDecision (H : Type) where
  approved : Bool
  policyDecisionHash : H
  actionKind : ActionKind
  serverReduceOnlyProven : Bool
  killSwitchOpen : Bool
  simulationOnly : Bool
  deriving DecidableEq

/-- What the signer answers. -/
structure SignerResult (H : Type) where
  digestHash : H
  signature : Signature H
  signatureHash : H
  simulationOnly : Bool
  keyExportable : Bool
  rawKeyAccessible : Bool
  reusable : Bool
  deriving DecidableEq

/-- What the transport says of a submission. -/
inductive Disposition where
  | confirmed
  | rejected
  | unknown
  deriving DecidableEq, Repr

/-- What the transport answers. -/
structure TransportResult (H : Type) where
  disposition : Disposition
  responseHash : H
  simulationOnly : Bool
  externalSystemQueried : Bool
  externalOrderSubmitted : Bool
  deriving DecidableEq

/-- `terminal[disposition].nextState` -/
def Disposition.nextState : Disposition → HyperliquidExecutionNonceState
  | .confirmed => .confirmed
  | .rejected => .rejected
  | .unknown => .unknown

/-- `terminal[disposition].outcome` -/
def Disposition.outcome : Disposition → ExecutionOutcome
  | .confirmed => .simulatedConfirmed
  | .rejected => .simulatedRejected
  | .unknown => .simulatedUnknown

section Checks

variable {H : Type} [DecidableEq H] (hashId : ExecutionPreimage H → H)

/-- The checks on the argument of `execute`. -/
def assertGatewayInput (value : GatewayInput H) : Domain Unit := do
  identifier "facilityId" value.facilityId
  safePositiveInteger "facilityVersion" value.facilityVersion
  identifier "orderIntentId" value.orderIntentId
  invalidInput (value.orderIntentVersion ∉ [1, 2]) "orderIntentVersion is unsupported"
  invalidInput (utf16Length value.idempotencyKey < 8 ∨ 256 < utf16Length value.idempotencyKey)
    "idempotencyKey must be bounded"

/-- The binding is the one of the facility that was asked for, and cannot sign for real. -/
def assertBinding (value : Binding H) (expected : GatewayInput H) : Domain Unit :=
  throwIf (value.facilityId ≠ expected.facilityId ∨ value.facilityHash ≠ expected.facilityHash ∨
      value.simulationOnly ≠ true ∨ value.liveSignerAvailable ≠ false ∨
      value.apiWalletApproved ≠ false ∨ value.keyExportable ≠ false)
    "hyperliquid_execution_binding_unavailable"
    "an offline simulation-only Facility binding is required"

/-- The policy approves this kind of action, and the kill switch is open. -/
def assertPolicyDecision (value : PolicyDecision H) (actionKind : ActionKind) : Domain Unit := do
  throwIf (value.approved ≠ true ∨ value.actionKind ≠ actionKind ∨ value.killSwitchOpen ≠ true ∨
      value.simulationOnly ≠ true)
    "hyperliquid_execution_policy_denied" "server policy or kill switch denied execution"
  throwIf (actionKind = .reduceOnlyOrder ∧ value.serverReduceOnlyProven ≠ true)
    "hyperliquid_execution_reduce_only_unproven" "reduce-only execution requires server proof"

/-- The signature is over the digest, and a simulated one. -/
def assertSignerResult (value : SignerResult H) (digestHash : H) : Domain Unit :=
  throwIf (value.digestHash ≠ digestHash ∨ value.signature.v ∉ [27, 28] ∨
      value.signatureHash ≠ hashId (.simulatedSignature digestHash value.signature) ∨
      value.simulationOnly ≠ true ∨ value.keyExportable ≠ false ∨
      value.rawKeyAccessible ≠ false ∨ value.reusable ≠ false)
    "invalid_hyperliquid_simulated_signer"
    "simulated signer violated the isolated non-export boundary"

/-- The transport asked nobody outside and submitted nothing there. -/
def assertTransportResult (value : TransportResult H) : Domain Unit :=
  throwIf (value.simulationOnly ≠ true ∨ value.externalSystemQueried ≠ false ∨
      value.externalOrderSubmitted ≠ false)
    "invalid_hyperliquid_simulated_transport"
    "transport attempted to leave the simulation boundary"

/-- `idempotencyKeyHash` of a request -/
def idempotencyKeyHash (input : GatewayInput H) : H := hashId (.idempotency input.idempotencyKey)

/-- The draft with the hash of the request. -/
def createDraft (input : GatewayInput H) (binding : Binding H) (policy : PolicyDecision H)
    (normalized : Normalized H) : ExecutionDraft H :=
  let core : RequestCore H :=
    { facilityId := input.facilityId
      facilityHash := input.facilityHash
      facilityVersion := input.facilityVersion
      orderIntentId := input.orderIntentId
      orderIntentHash := input.orderIntentHash
      orderIntentVersion := input.orderIntentVersion
      accountBindingHash := binding.accountBindingHash
      signerReferenceHash := binding.signerReferenceHash
      idempotencyKeyHash := idempotencyKeyHash hashId input
      policyDecisionHash := policy.policyDecisionHash
      actionKind := normalized.actionKind
      actionHash := hashId (.action normalized.action)
      action := normalized.action
      cloid := normalized.cloid }
  { core with requestHash := hashId (.request core) }

/-- `digestHash` of a reserved record -/
def signingDigest (record : ExecutionRecord H) : H :=
  hashId (.signingDigest record.action record.nonce record.expiresAfter record.signerReferenceHash)

end Checks

/-! ## Calls -/

/-- Where a call of `execute` is. -/
inductive CallState (H : Type) where
  /-- Waiting for `bindingResolver.resolve`. -/
  | resolving (input : GatewayInput H) (normalized : Normalized H)
  /-- Waiting for `policyEvaluator.evaluate`. -/
  | evaluating (input : GatewayInput H) (normalized : Normalized H) (binding : Binding H)
  /-- `repository.reserve` is in the queue. -/
  | reserving (draft : ExecutionDraft H) (nowMs : ℕ)
  /-- `repository.reserve` has returned. -/
  | reserved (reservation : Reservation H)
  /-- Waiting for `signer.sign`. -/
  | signing (record : ExecutionRecord H)
  /-- The transition to `REJECTED` is in the queue, and `error` is thrown after it. -/
  | rejecting (record : ExecutionRecord H) (error : DomainError) (nowMs : ℕ)
  /-- The transition to `SUBMITTED` is in the queue. -/
  | submitting (record : ExecutionRecord H) (signed : SignerResult H) (nowMs : ℕ)
  /-- The transition to `SUBMITTED` has returned. -/
  | submitted (record : ExecutionRecord H) (signed : SignerResult H)
  /-- Waiting for `transport.submit`. -/
  | awaiting (record : ExecutionRecord H) (signed : SignerResult H)
  /-- The transition to the terminal state is in the queue. -/
  | finishing (record : ExecutionRecord H) (disposition : Disposition) (resultHash : H) (nowMs : ℕ)
  | done (outcome : Domain (ExecutionRecord H))
  deriving DecidableEq

/-- What takes a call on. -/
inductive Answer (H : Type) where
  | resolved (answer : Domain (Binding H))
  | evaluated (answer : Domain (PolicyDecision H)) (clock : ℕ)
  /-- The queue of the repository performs the operation. -/
  | performed
  /-- The call goes on with the result of the operation. -/
  | continued
  | signed (answer : Domain (SignerResult H)) (clock : ℕ)
  | responded (answer : Domain (TransportResult H)) (clock : ℕ)

section Call

variable {H : Type} [DecidableEq H] (hashId : ExecutionPreimage H → H)

/-- A call that stops where `x` fails. -/
def orStop {α : Type} (x : Domain α) (k : α → CallState H) : CallState H :=
  match x with
  | .error e => .done (.error e)
  | .ok a => k a

/-- `execute`, up to its first `await`. -/
def startCall (input : GatewayInput H) : CallState H :=
  orStop (do
      assertGatewayInput input
      normalizeAction hashId input.action input.facilityHash input.orderIntentHash
        (idempotencyKeyHash hashId input))
    fun normalized ↦ .resolving input normalized

/-- From the answer of the binding resolver. -/
def afterResolve (input : GatewayInput H) (normalized : Normalized H)
    (answer : Domain (Binding H)) : CallState H :=
  orStop (do let binding ← answer; assertBinding binding input; pure binding)
    fun binding ↦ .evaluating input normalized binding

/-- From the answer of the policy evaluator. -/
def afterEvaluate (input : GatewayInput H) (normalized : Normalized H) (binding : Binding H)
    (answer : Domain (PolicyDecision H)) (clock : ℕ) : CallState H :=
  orStop (do
      let policy ← answer
      assertPolicyDecision policy normalized.actionKind
      let nowMs ← timestamp clock
      pure (createDraft hashId input binding policy normalized, nowMs))
    fun (draft, nowMs) ↦ .reserving draft nowMs

/-- From the reservation: a replay is answered with the stored record. -/
def afterReserve (reservation : Reservation H) : CallState H :=
  if reservation.replayed then .done (.ok reservation.record) else .signing reservation.record

/-- A signer that fails, or that answers what is refused, has the record rejected. -/
def afterSign (record : ExecutionRecord H) (answer : Domain (SignerResult H)) (clock : ℕ) :
    CallState H :=
  match (do
      let signed ← answer
      assertSignerResult hashId signed (signingDigest hashId record)
      pure signed) with
  | .error e => orStop (timestamp clock) fun nowMs ↦ .rejecting record e nowMs
  | .ok signed => orStop (timestamp clock) fun nowMs ↦ .submitting record signed nowMs

/-- A transport that fails, or that answers what is refused, leaves the outcome unknown. -/
def effectiveResponse (record : ExecutionRecord H) (answer : Domain (TransportResult H)) :
    Disposition × H :=
  match (do let result ← answer; assertTransportResult result; pure result) with
  | .error _ => (.unknown, hashId (.unknownResponse record.executionHash))
  | .ok result => (result.disposition, result.responseHash)

/-- From the answer of the transport. -/
def afterRespond (record : ExecutionRecord H) (signed : SignerResult H)
    (answer : Domain (TransportResult H)) (clock : ℕ) : CallState H :=
  let (disposition, responseHash) := effectiveResponse hashId record answer
  let resultHash := hashId (.executionResult record.executionHash signed.signatureHash responseHash
    disposition.outcome)
  orStop (timestamp clock) fun nowMs ↦ .finishing record disposition resultHash nowMs

/-- `resultHash` of a local rejection -/
def localRejection (record : ExecutionRecord H) : H :=
  hashId (.localRejection record.executionHash "simulated_signer_rejected")

/-- Take a call on: where it is then, the repository, and the execution the transport was called
for. -/
def resume (repo : ExecutionRepository H) (call : CallState H) (answer : Answer H) :
    CallState H × ExecutionRepository H × Option ℕ :=
  match call, answer with
  | .resolving input normalized, .resolved answer =>
    (afterResolve input normalized answer, repo, none)
  | .evaluating input normalized binding, .evaluated answer clock =>
    (afterEvaluate hashId input normalized binding answer clock, repo, none)
  | .reserving draft nowMs, .performed =>
    let (reservation, repo) := repo.reserve hashId draft nowMs (nowMs + expiresAfterMs)
    (orStop reservation .reserved, repo, none)
  | .reserved reservation, .continued => (afterReserve reservation, repo, none)
  | .signing record, .signed answer clock => (afterSign hashId record answer clock, repo, none)
  | .rejecting record error nowMs, .performed =>
    let (moved, repo) := repo.transition hashId record.executionId .reserved .rejected
      (some (localRejection hashId record)) (some .simulatedRejected) nowMs
    (orStop moved fun _ ↦ .done (.error error), repo, none)
  | .submitting record signed nowMs, .performed =>
    let (moved, repo) := repo.transition hashId record.executionId .reserved .submitted none none
      nowMs
    (orStop moved fun submitted ↦ .submitted submitted signed, repo, none)
  | .submitted record signed, .continued => (.awaiting record signed, repo, some record.executionId)
  | .awaiting record signed, .responded answer clock =>
    (afterRespond hashId record signed answer clock, repo, none)
  | .finishing record disposition resultHash nowMs, .performed =>
    let (moved, repo) := repo.transition hashId record.executionId .submitted
      disposition.nextState (some resultHash) (some disposition.outcome) nowMs
    (.done moved, repo, none)
  | call, _ => (call, repo, none)

end Call

/-! ## Runs -/

/-- A call of the transport. -/
structure Submission where
  call : ℕ
  executionId : ℕ
  stored : Option HyperliquidExecutionNonceState
  deriving DecidableEq

/-- The repository, the calls in the order in which they were made, and what was submitted. -/
structure World (H : Type) where
  repository : ExecutionRepository H
  calls : List (CallState H)
  submissions : List Submission
  deriving DecidableEq

/-- A new gateway. -/
def World.new {H : Type} : World H where
  repository := .new
  calls := []
  submissions := []

/-- A call is made, or one that waits goes on. -/
inductive GatewayStep (H : Type) where
  | execute (input : GatewayInput H)
  | resume (call : ℕ) (answer : Answer H)

/-- What `resume` did to the call at `index`. -/
def World.resumed {H : Type} (w : World H) (index : ℕ)
    (result : CallState H × ExecutionRepository H × Option ℕ) : World H where
  repository := result.2.1
  calls := w.calls.set index result.1
  submissions := w.submissions ++ result.2.2.toList.map fun id ↦
    { call := index, executionId := id, stored := (result.2.1.records.get id).map (·.nonceState) }

/-- One step of the gateway. -/
def gatewayStep {H : Type} [DecidableEq H] (hashId : ExecutionPreimage H → H) (w : World H) :
    GatewayStep H → World H
  | .execute input => { w with calls := w.calls ++ [startCall hashId input] }
  | .resume index answer =>
    match w.calls[index]? with
    | none => w
    | some call => w.resumed index (resume hashId w.repository call answer)

end Execution
end IpoOne
