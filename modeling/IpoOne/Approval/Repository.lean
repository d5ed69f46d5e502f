import IpoOne.Domain.Validators
import IpoOne.Lib.InsertionMap

/-!
# The approval repository

`InMemoryApprovalRepository`: the commands by idempotency key, the version of every event stream,
and the records.  A commit is refused unless each of its events comes at the version its stream has,
so that a record that was read before another commit is never written back.

The repository does not look into a record beyond its type, its identifier and its version, and is
generic in it (`Projection`).  The committed events are not kept: nothing reads them back.
-/

set_option autoImplicit false

namespace IpoOne
namespace Approval

open Fallible

/-! ## The checks of `approval-utils.js` -/

/-- `IDENTIFIER_PATTERN` -/
def isIdentifier (value : String) : Bool :=
  match value.toList with
  | [] => false
  | c :: rest => isAlphanumeric c && 1 ≤ rest.length && rest.length ≤ 255 &&
    rest.all fun c ↦ isAlphanumeric c || "._:@/-".toList.contains c

/-- `REASON_PATTERN` -/
def isReason (value : String) : Bool :=
  match value.toList with
  | [] => false
  | c :: rest => ('a' ≤ c && c ≤ 'z') && 1 ≤ rest.length && rest.length ≤ 95 &&
    rest.all fun c ↦ ('a' ≤ c && c ≤ 'z') || ('0' ≤ c && c ≤ '9') || c = '_'

/-- `REFERENCE_HASH_PATTERN` -/
def isReferenceHash (value : String) : Bool :=
  32 ≤ value.toList.length && value.toList.length ≤ 128 &&
    value.toList.all fun c ↦ isAlphanumeric c || c = '_' || c = '-'

/-- `assertApprovalString`, with its pattern and the bounds on the length in one test. -/
def assertApprovalString (accepts : String → Bool) (name value : String) : Domain Unit :=
  throwIf (accepts value = false) "invalid_approval_input" (name ++ " is invalid")

/-- The value is an identifier. -/
def assertApprovalIdentifier : String → String → Domain Unit := assertApprovalString isIdentifier

/-- The value is a reason. -/
def assertApprovalReason : String → String → Domain Unit := assertApprovalString isReason

/-- The value is a hash that refers to something outside. -/
def assertApprovalReferenceHash : String → String → Domain Unit :=
  assertApprovalString isReferenceHash

/-- The value is a safe integer from `minimum` on. -/
def assertApprovalVersion (name : String) (value minimum : ℕ) : Domain Unit :=
  throwIf (¬ isSafeInteger value ∨ value < minimum) "invalid_approval_input" (name ++ " is invalid")

/-- Distinct identifiers, no fewer than `minimumItems` and no more than `maximumItems`. -/
def assertApprovalList (name : String) (value : List String) (minimumItems maximumItems : ℕ) :
    Domain Unit := do
  throwIf (value.length < minimumItems ∨ maximumItems < value.length) "invalid_approval_input"
    (name ++ " is invalid")
  let _ ← value.mapM (assertApprovalIdentifier name)
  throwIf (¬ value.Nodup) "invalid_approval_input" (name ++ " contains duplicate values")

/-! ## The records -/

/-- The types of the records. -/
inductive ApprovalProjectionType where
  | approvalProposal
  | approvalDecision
  | approvalExecution
  | breakGlassIncident
  | breakGlassCustodianDecision
  | breakGlassReview
  deriving DecidableEq, Repr

/-- `ID_FIELDS` -/
def ApprovalProjectionType.idField : ApprovalProjectionType → String
  | .approvalProposal => "approvalProposalId"
  | .approvalDecision => "approvalDecisionId"
  | .approvalExecution => "approvalExecutionId"
  | .breakGlassIncident => "breakGlassIncidentId"
  | .breakGlassCustodianDecision => "breakGlassCustodianDecisionId"
  | .breakGlassReview => "breakGlassReviewId"

/-- `MUTABLE_PROJECTIONS` -/
def ApprovalProjectionType.isMutable : ApprovalProjectionType → Bool
  | .approvalProposal | .breakGlassIncident => true
  | _ => false

/-- What the repository reads of a record. -/
class Projection (P : Type) where
  type : P → ApprovalProjectionType
  id : P → String
  version : P → ℕ

/-- `projectionKey`, and `streamKey` too. -/
abbrev ProjectionKey : Type := ApprovalProjectionType × String

/-- The key of a record. -/
def projectionKey {P : Type} [Projection P] (value : P) : ProjectionKey :=
  (Projection.type value, Projection.id value)

/-- A command that was committed, with its answer. -/
structure StoredCommand (H R : Type) where
  commandHash : H
  response : R
  deriving DecidableEq

/-- The maps of `InMemoryApprovalRepository`. -/
structure ApprovalStore (H P R : Type) where
  commands : InsertionMap String (StoredCommand H R)
  streamVersions : InsertionMap ProjectionKey ℕ
  projections : InsertionMap ProjectionKey P

/-- An event as the repository sees it: the stream it belongs to, and the version it comes after. -/
structure EventDescriptor where
  aggregateType : ApprovalProjectionType
  aggregateId : String
  expectedVersion : ℕ
  deriving DecidableEq

/-- The arguments of `commitCommand`. -/
structure CommitRequest (H P R : Type) where
  aggregateId : String
  idempotencyKey : String
  commandHash : H
  events : List EventDescriptor
  writes : List P
  response : R

namespace ApprovalStore

variable {H P R : Type}

/-- A new repository. -/
def empty : ApprovalStore H P R := ⟨.empty, .empty, .empty⟩

/-- The version of a stream. -/
def streamVersion (store : ApprovalStore H P R) (type : ApprovalProjectionType) (id : String) : ℕ :=
  (store.streamVersions.get (type, id)).getD 0

/-- The answer to a command that was committed under the key; another command there is a
conflict. -/
def findCommand [DecidableEq H] (store : ApprovalStore H P R) (idempotencyKey : String)
    (commandHash : H) : Domain (Option R) := do
  assertApprovalIdentifier "idempotencyKey" idempotencyKey
  match store.commands.get idempotencyKey with
  | none => pure none
  | some command =>
    throwIf (command.commandHash ≠ commandHash) "approval_idempotency_conflict"
      "approval idempotency key was reused"
    pure (some command.response)

/-- The loop of `commitCommand` over the events. -/
def advanceStreams (versions : InsertionMap ProjectionKey ℕ) :
    List EventDescriptor → Domain (InsertionMap ProjectionKey ℕ)
  | [] => pure versions
  | descriptor :: rest => do
    let key := (descriptor.aggregateType, descriptor.aggregateId)
    let current := (versions.get key).getD 0
    throwIf (descriptor.expectedVersion ≠ current) "stale_aggregate_version"
      "approval aggregate changed since it was read"
    advanceStreams (versions.set key (current + 1)) rest

variable [Projection P]

/-- The checks of a record against the one it replaces. -/
def assertReplaces [DecidableEq H] (hashId : P → H) (value : P) : Option P → Domain Unit
  | none => pure ()
  | some existing =>
    if (Projection.type value).isMutable then
      throwIf (Projection.version value ≠ Projection.version existing + 1)
        "stale_approval_proposal" "approval proposal version is stale"
    else
      throwIf (hashId existing ≠ hashId value) "approval_projection_conflict"
        "immutable approval projection changed"

/-- The loop of `commitCommand` over the records. -/
def writeProjections [DecidableEq H] (hashId : P → H) (projections : InsertionMap ProjectionKey P)
    (writeKeys : List ProjectionKey) : List P → Domain (InsertionMap ProjectionKey P)
  | [] => pure projections
  | value :: rest => do
    let key := projectionKey value
    assertApprovalIdentifier (Projection.type value).idField (Projection.id value)
    throwIf (key ∈ writeKeys) "duplicate_approval_projection" "approval projection is duplicated"
    assertReplaces hashId value (projections.get key)
    writeProjections hashId (projections.set key value) (key :: writeKeys) rest

/-- `commitCommand` up to where it waits for `findCommand`: the response of the command if it was
committed before. -/
def beginCommit [DecidableEq H] (store : ApprovalStore H P R) (request : CommitRequest H P R) :
    Domain (Option R) := do
  assertApprovalIdentifier "aggregateId" request.aggregateId
  assertApprovalIdentifier "idempotencyKey" request.idempotencyKey
  store.findCommand request.idempotencyKey request.commandHash

/-- The rest of `commitCommand`.  Nothing is assigned before all the checks have passed. -/
def commitCommand [DecidableEq H] (hashId : P → H) (store : ApprovalStore H P R)
    (request : CommitRequest H P R) : Domain (ApprovalStore H P R) := do
  throwIf (request.events = [] ∨ request.writes.isEmpty) "invalid_approval_repository_input"
    "approval command is empty"
  let nextVersions ← advanceStreams store.streamVersions request.events
  let nextProjections ← writeProjections hashId store.projections [] request.writes
  pure
    { commands := store.commands.set request.idempotencyKey
        { commandHash := request.commandHash, response := request.response }
      streamVersions := nextVersions
      projections := nextProjections }

/-! ## What a commit does -/

theorem advanceStreams_cons_eq_ok {versions versions' : InsertionMap ProjectionKey ℕ}
    {descriptor : EventDescriptor} {rest : List EventDescriptor} :
    advanceStreams versions (descriptor :: rest) = .ok versions' ↔
      (versions.get (descriptor.aggregateType, descriptor.aggregateId)).getD 0 =
          descriptor.expectedVersion ∧
        advanceStreams (versions.set (descriptor.aggregateType, descriptor.aggregateId)
          (descriptor.expectedVersion + 1)) rest = .ok versions' := by
  simp only [advanceStreams, bind_eq_ok, throwIf_eq_ok, not_not]
  constructor
  · rintro ⟨_, hversion, h⟩
    rw [← hversion] at h
    exact ⟨hversion.symm, hversion ▸ h⟩
  · rintro ⟨hversion, h⟩
    rw [hversion]
    exact ⟨(), rfl, h⟩

variable [DecidableEq H] {hashId : P → H} {store store' : ApprovalStore H P R}

theorem writeProjections_cons {projections projections' : InsertionMap ProjectionKey P}
    {writeKeys : List ProjectionKey} {value : P} {rest : List P}
    (h : writeProjections hashId projections writeKeys (value :: rest) = .ok projections') :
    writeProjections hashId (projections.set (projectionKey value) value)
      (projectionKey value :: writeKeys) rest = .ok projections' := by
  simp only [writeProjections, bind_eq_ok] at h
  obtain ⟨_, _, _, _, _, _, h⟩ := h
  exact h

/-- Every record is stored under its own key, and its version is that of its stream. -/
def Filed (store : ApprovalStore H P R) : Prop :=
  ∀ key value, store.projections.get key = some value →
    projectionKey value = key ∧ store.streamVersion key.1 key.2 = Projection.version value

/-- A record and the event that it is written with. -/
structure Recorded (event : EventDescriptor) (value : P) : Prop where
  key : (event.aggregateType, event.aggregateId) = projectionKey value
  version : Projection.version value = event.expectedVersion + 1

omit [DecidableEq H] in
/-- A record that is written with its version keeps the store filed. -/
theorem Filed.set (hfiled : Filed store) {value : P}
    (hversions : store'.streamVersions =
      store.streamVersions.set (projectionKey value) (Projection.version value))
    (hprojections : store'.projections = store.projections.set (projectionKey value) value) :
    Filed store' := by
  intro key found h
  rw [hprojections, InsertionMap.get_set] at h
  rw [streamVersion, hversions, InsertionMap.get_set]
  by_cases hkey : key = projectionKey value
  · rw [if_pos hkey] at h
    obtain rfl := Option.some.inj h
    rw [if_pos hkey]
    exact ⟨hkey.symm, rfl⟩
  · rw [if_neg hkey] at h
    rw [if_neg hkey]
    exact hfiled key found h

/-- The commit of one record: its stream is at the version it was read at. -/
theorem commitCommand_one {request : CommitRequest H P R} {event : EventDescriptor} {value : P}
    (hevents : request.events = [event]) (hwrites : request.writes = [value])
    (hrecorded : Recorded event value) (h : store.commitCommand hashId request = .ok store') :
    store.streamVersion event.aggregateType event.aggregateId = event.expectedVersion ∧
      store'.streamVersions =
        store.streamVersions.set (projectionKey value) (Projection.version value) ∧
      store'.projections = store.projections.set (projectionKey value) value := by
  rw [commitCommand, hevents, hwrites] at h
  simp only [bind_eq_ok, pure_eq_ok] at h
  obtain ⟨_, _, versions, hversions, projections, hprojections, rfl⟩ := h
  obtain ⟨hversion, hversions⟩ := advanceStreams_cons_eq_ok.1 hversions
  refine ⟨hversion, ?_, ?_⟩
  · rw [hrecorded.key, ← hrecorded.version] at hversions
    exact (pure_eq_ok.1 hversions).symm
  · exact (pure_eq_ok.1 (writeProjections_cons hprojections)).symm

/-- The commit of two records with different keys. -/
theorem commitCommand_two {request : CommitRequest H P R} {event event' : EventDescriptor}
    {value value' : P} (hevents : request.events = [event, event'])
    (hwrites : request.writes = [value, value']) (hrecorded : Recorded event value)
    (hrecorded' : Recorded event' value') (hne : projectionKey value' ≠ projectionKey value)
    (h : store.commitCommand hashId request = .ok store') :
    store.streamVersion event.aggregateType event.aggregateId = event.expectedVersion ∧
      store.streamVersion event'.aggregateType event'.aggregateId = event'.expectedVersion ∧
      store'.streamVersions =
        (store.streamVersions.set (projectionKey value) (Projection.version value)).set
          (projectionKey value') (Projection.version value') ∧
      store'.projections =
        (store.projections.set (projectionKey value) value).set (projectionKey value') value' := by
  rw [commitCommand, hevents, hwrites] at h
  simp only [bind_eq_ok, pure_eq_ok] at h
  obtain ⟨_, _, versions, hversions, projections, hprojections, rfl⟩ := h
  obtain ⟨hversion, hversions⟩ := advanceStreams_cons_eq_ok.1 hversions
  obtain ⟨hversion', hversions⟩ := advanceStreams_cons_eq_ok.1 hversions
  refine ⟨hversion, ?_, ?_, ?_⟩
  · rw [hrecorded.key, hrecorded'.key, InsertionMap.get_set_of_ne _ _ hne, ← hrecorded'.key]
      at hversion'
    exact hversion'
  · rw [hrecorded.key, hrecorded'.key, ← hrecorded.version, ← hrecorded'.version] at hversions
    exact (pure_eq_ok.1 hversions).symm
  · exact (pure_eq_ok.1 (writeProjections_cons (writeProjections_cons hprojections))).symm

end ApprovalStore

end Approval
end IpoOne
