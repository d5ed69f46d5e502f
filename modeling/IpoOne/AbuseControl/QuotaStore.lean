import IpoOne.Domain.Validators
import IpoOne.Lib.InsertionMap
import IpoOne.Lib.Throwing

/-!
# The quota store

`InMemoryAtomicQuotaStore`, with the checks of `quota-store-contract.js`.  A request is admitted
with a lease if its rates and its capacities allow it.  Rates are counted in windows of time.
Capacity is held while the admission is pending, and comes back when the admission is finished, when
its lease runs out, or when it is released by name; a command is charged once.

Times are milliseconds, and a clock reading is `none` where the clock gives no date.  The checks of
an object's shape are left to the types, and the hook that injects faults is left out.
-/

set_option autoImplicit false

namespace IpoOne
namespace AbuseControl

open Fallible
open Throwing (get modify lift)

/-! ## Requests -/

/-- `PARTITIONS` -/
inductive Partition where
  | tenant
  | service
  deriving DecidableEq, Repr

/-- `RELEASE_MODES` -/
inductive ReleaseMode where
  | always
  | onFailure
  deriving DecidableEq, Repr

/-- Units of a rate window that a request asks for. -/
structure RateReservation where
  keyHash : String
  dimension : String
  windowMs : ℤ
  limit : ℤ
  units : ℤ
  commandScoped : Bool
  partition : Partition
  deriving DecidableEq, Repr

/-- Units of a capacity that a request asks for. -/
structure CapacityReservation where
  keyHash : String
  kind : String
  limit : ℤ
  units : ℤ
  release : ReleaseMode
  commandScoped : Bool
  partition : Partition
  deriving DecidableEq, Repr

/-- The argument of `reserve`. -/
structure QuotaStoreRequest where
  admissionId : String
  tenantId : String
  operationId : String
  quotaClass : String
  policyVersion : String
  rateReservations : List RateReservation
  capacityReservations : List CapacityReservation
  leaseMs : ℤ
  commandRefHash : Option String := none
  actorRefHash : Option String := none
  clientRefHash : Option String := none
  deriving DecidableEq, Repr

/-- What is given back by name. -/
structure ResourceRelease where
  keyHash : String
  kind : String
  units : ℤ
  deriving DecidableEq, Repr

/-- The argument of `release`. -/
structure QuotaStoreRelease where
  tenantId : String
  reservations : List ResourceRelease
  deriving DecidableEq, Repr

/-- The characters `[A-Za-z0-9]`. -/
def isAlphanumeric (c : Char) : Bool :=
  ('A' ≤ c && c ≤ 'Z') || ('a' ≤ c && c ≤ 'z') || ('0' ≤ c && c ≤ '9')

/-- `IDENTIFIER_PATTERN` -/
def isIdentifier (value : String) : Bool :=
  match value.toList with
  | [] => false
  | first :: rest =>
    isAlphanumeric first && 1 ≤ rest.length && rest.length ≤ 255 &&
      rest.all fun c ↦ isAlphanumeric c || ['.', '_', ':', '@', '/', '-'].contains c

/-- `HASH_PATTERN` -/
def isHash (value : String) : Bool :=
  match value.toList with
  | '0' :: 'x' :: digits =>
    digits.length == 64 && digits.all fun c ↦ ('0' ≤ c && c ≤ '9') || ('a' ≤ c && c ≤ 'f')
  | _ => false

/-- Refuses an input that meets the condition. -/
def invalidInput (c : Prop) [Decidable c] (message : String) : Domain Unit :=
  throwIf c "invalid_abuse_control_input" message

/-- The value is an identifier. -/
def assertAbuseIdentifier (name value : String) : Domain Unit :=
  invalidInput (isIdentifier value = false) (name ++ " is invalid")

/-- The value is a hash. -/
def assertAbuseHash (name value : String) : Domain Unit :=
  invalidInput (isHash value = false) (name ++ " is invalid")

/-- A hash that may be left out. -/
def assertOptionalHash (name : String) (value : Option String) : Domain Unit :=
  match value with
  | none => pure ()
  | some value => assertAbuseHash name value

/-- The value lies between 1 and `maximum`. -/
def assertPositiveInteger (name : String) (value maximum : ℤ) : Domain Unit :=
  invalidInput (value < 1 ∨ maximum < value) (name ++ " is invalid")

/-- The checks on one reservation of a rate. -/
def assertRateReservation (reservation : RateReservation) : Domain Unit := do
  assertAbuseHash "rate keyHash" reservation.keyHash
  assertAbuseIdentifier "rate dimension" reservation.dimension
  assertPositiveInteger "rate windowMs" reservation.windowMs 600000
  assertPositiveInteger "rate limit" reservation.limit 25000
  assertPositiveInteger "rate units" reservation.units reservation.limit

/-- The checks on one reservation of a capacity. -/
def assertCapacityReservation (reservation : CapacityReservation) : Domain Unit := do
  assertAbuseHash "capacity keyHash" reservation.keyHash
  assertAbuseIdentifier "capacity kind" reservation.kind
  assertPositiveInteger "capacity units" reservation.units 10000
  assertPositiveInteger "capacity limit" reservation.limit 10000
  invalidInput (reservation.limit < reservation.units) "capacity reservation is invalid"

/-- `assertCapacityReservation` of what is given back. -/
def assertResourceRelease (reservation : ResourceRelease) : Domain Unit := do
  assertAbuseHash "capacity keyHash" reservation.keyHash
  assertAbuseIdentifier "capacity kind" reservation.kind
  assertPositiveInteger "capacity units" reservation.units 10000

/-- The loop over a list of reservations: each is checked, and none has the key of an earlier
one. -/
def assertReservations {R : Type} (check : R → Domain Unit) (keyHash : R → String)
    (duplicated : String) : List String → List R → Domain Unit
  | _, [] => pure ()
  | keys, reservation :: rest => do
    check reservation
    invalidInput (keyHash reservation ∈ keys) duplicated
    assertReservations check keyHash duplicated (keyHash reservation :: keys) rest

/-- The checks on a request, every reservation of it included. -/
def assertQuotaStoreRequest (request : QuotaStoreRequest) : Domain Unit := do
  assertAbuseIdentifier "admissionId" request.admissionId
  assertAbuseIdentifier "tenantId" request.tenantId
  assertAbuseIdentifier "operationId" request.operationId
  assertAbuseIdentifier "quotaClass" request.quotaClass
  assertAbuseIdentifier "policyVersion" request.policyVersion
  assertOptionalHash "commandRefHash" request.commandRefHash
  assertOptionalHash "actorRefHash" request.actorRefHash
  assertOptionalHash "clientRefHash" request.clientRefHash
  assertPositiveInteger "leaseMs" request.leaseMs 60000
  invalidInput
    (request.rateReservations.length < 1 ∨ 16 < request.rateReservations.length ∨
      request.capacityReservations.length < 1 ∨ 16 < request.capacityReservations.length)
    "quota reservations are invalid"
  assertReservations assertRateReservation RateReservation.keyHash "rate reservation is duplicated"
    [] request.rateReservations
  assertReservations assertCapacityReservation CapacityReservation.keyHash
    "capacity reservation is duplicated" [] request.capacityReservations

/-- The checks on a release. -/
def assertQuotaStoreRelease (input : QuotaStoreRelease) : Domain Unit := do
  assertAbuseIdentifier "tenantId" input.tenantId
  invalidInput (input.reservations.length < 1 ∨ 4 < input.reservations.length)
    "resource release is invalid"
  assertReservations assertResourceRelease ResourceRelease.keyHash "resource release is duplicated"
    [] input.reservations

/-! ## The store -/

/-- What was used of a rate in the current window. -/
structure RateWindow where
  windowStartedAt : ℤ
  expiresAt : ℤ
  used : ℤ
  limit : ℤ
  dimension : String
  deriving DecidableEq, Repr

/-- What is taken of a capacity. -/
structure CapacityBucket where
  used : ℤ
  limit : ℤ
  kind : String
  deriving DecidableEq, Repr

/-- The states of an admission. -/
inductive AdmissionState where
  | pending
  | completed
  | expired
  deriving DecidableEq, Repr

/-- An outcome; every text besides the other two counts as a failure. -/
inductive AdmissionOutcome where
  | succeeded
  | failed
  | expired
  deriving DecidableEq, Repr

/-- A stored admission, with the capacities that it took. -/
structure Admission extends QuotaStoreRequest where
  state : AdmissionState
  issuedAt : ℤ
  expiresAt : ℤ
  replayed : Bool
  appliedCapacities : List CapacityReservation
  outcome : Option AdmissionOutcome := none
  completedAt : Option ℤ := none
  deriving DecidableEq, Repr

/-- What became of the command that was charged. -/
inductive ChargeStatus where
  | pending
  | succeeded
  | failed
  deriving DecidableEq, Repr

/-- A command's charge, and the admission that it was made for. -/
structure Charge where
  status : ChargeStatus
  admissionId : String
  expiresAt : ℤ
  deriving DecidableEq, Repr

/-- The fields of the store. -/
structure QuotaStore where
  rates : InsertionMap String RateWindow
  capacities : InsertionMap String CapacityBucket
  admissions : InsertionMap String Admission
  charges : InsertionMap String Charge
  lastNow : ℤ
  deriving DecidableEq

/-- A new store. -/
def QuotaStore.new : QuotaStore where
  rates := .empty
  capacities := .empty
  admissions := .empty
  charges := .empty
  lastNow := 0

/-- `size()` -/
def QuotaStore.size (store : QuotaStore) : ℕ :=
  store.rates.size + store.capacities.size + store.admissions.size + store.charges.size

/-- `COMMAND_RETENTION_MS` -/
def commandRetentionMs : ℤ := 24 * 60 * 60000

/-- `#rateKey` and `#capacityKey` -/
def bucketKey (tenantId keyHash : String) (partition : Partition) : String :=
  (if partition = .service then "__service__" else tenantId) ++ "\x00" ++ keyHash

/-- `#chargeKey` -/
def chargeKey (tenantId commandRefHash : String) : String := tenantId ++ "\x00" ++ commandRefHash

/-- The bucket a rate is counted in. -/
def RateReservation.key (tenantId : String) (reservation : RateReservation) : String :=
  bucketKey tenantId reservation.keyHash reservation.partition

/-- The bucket a capacity is taken from. -/
def CapacityReservation.key (tenantId : String) (reservation : CapacityReservation) : String :=
  bucketKey tenantId reservation.keyHash reservation.partition

/-- The bucket a capacity is given back to: of those of the tenant only. -/
def ResourceRelease.key (tenantId : String) (reservation : ResourceRelease) : String :=
  bucketKey tenantId reservation.keyHash .tenant

/-- A method of the store. -/
abbrev Store (α : Type) : Type := Throwing DomainError QuotaStore α

/-- `#now`: the store's time does not go back. -/
def now (clock : Option ℤ) : Store ℤ :=
  match clock with
  | none => lift (.error { code := "quota_store_clock_invalid",
                           message := "quota store clock is invalid" })
  | some timestamp => do
    modify fun store ↦ { store with lastNow := max store.lastNow timestamp }
    let store ← get
    pure store.lastNow

/-- `#decrementCapacity` -/
def decrementCapacity (key : String) (units : ℤ) : Store Unit := do
  let store ← get
  match store.capacities.get key with
  | none =>
    lift (.error { code := "TypeError",
                   message := "Cannot read properties of undefined (reading 'used')" })
  | some current =>
    let used := current.used - units
    modify fun store ↦
      { store with
        capacities :=
          if used = 0 then store.capacities.erase key
          else store.capacities.set key { current with used } }

/-- Does an admission that ends this way give the reservation back? -/
def CapacityReservation.returned (reservation : CapacityReservation) (outcome : AdmissionOutcome) :
    Prop :=
  reservation.release = .always ∨ outcome ≠ .succeeded ∧ reservation.release = .onFailure

instance (reservation : CapacityReservation) (outcome : AdmissionOutcome) :
    Decidable (reservation.returned outcome) :=
  inferInstanceAs (Decidable (_ ∨ _))

/-- The loop of `#finishAdmission`. -/
def returnCapacities (tenantId : String) (outcome : AdmissionOutcome) :
    List CapacityReservation → Store Unit
  | [] => pure ()
  | reservation :: rest => do
    if reservation.returned outcome then
      decrementCapacity (reservation.key tenantId) reservation.units
    returnCapacities tenantId outcome rest

/-- What is left of an admission that has ended. -/
def Admission.ended (admission : Admission) (outcome : AdmissionOutcome) (now : ℤ) : Admission :=
  { admission with
    state := if outcome = .expired then .expired else .completed
    outcome := some outcome
    completedAt := some now }

/-- What becomes of the charge of a command when its admission ends. -/
def settleCharge (charges : InsertionMap String Charge) (admission : Admission)
    (outcome : AdmissionOutcome) (now : ℤ) : InsertionMap String Charge :=
  match admission.commandRefHash with
  | none => charges
  | some commandRefHash =>
    if admission.replayed then charges
    else
      let key := chargeKey admission.tenantId commandRefHash
      match charges.get key with
      | none => charges
      | some charge =>
        if charge.admissionId = admission.admissionId then
          charges.set key
            { charge with
              status := if outcome = .succeeded then .succeeded else .failed
              expiresAt := now + commandRetentionMs }
        else charges

/-- `#finishAdmission` -/
def finishAdmission (admission : Admission) (outcome : AdmissionOutcome) (now : ℤ) :
    Store Unit := do
  returnCapacities admission.tenantId outcome admission.appliedCapacities
  modify fun store ↦
    { store with
      admissions := store.admissions.set admission.admissionId (admission.ended outcome now)
      charges := settleCharge store.charges admission outcome now }

/-- A pending admission whose lease has run out. -/
def Admission.overdue (admission : Admission) (now : ℤ) : Prop :=
  admission.state = .pending ∧ admission.expiresAt ≤ now

instance (admission : Admission) (now : ℤ) : Decidable (admission.overdue now) :=
  inferInstanceAs (Decidable (_ ∧ _))

/-- The first loop of `#cleanup`. -/
def expireOverdue (now : ℤ) (excludedAdmissionId : Option String) : List Admission → Store Unit
  | [] => pure ()
  | admission :: rest => do
    if some admission.admissionId ≠ excludedAdmissionId ∧ admission.overdue now then
      finishAdmission admission .expired now
    expireOverdue now excludedAdmissionId rest

/-- The other loops of `#cleanup`: elapsed windows and the charges of commands that have ended. -/
def dropElapsed (now : ℤ) (store : QuotaStore) : QuotaStore :=
  { store with
    rates := store.rates.filter fun _ value ↦ now < value.expiresAt
    charges := store.charges.filter fun _ value ↦
      now < value.expiresAt ∨ value.status = .pending }

/-- `#cleanup` -/
def cleanup (now : ℤ) (excludedAdmissionId : Option String) : Store Unit := do
  let store ← get
  expireOverdue now excludedAdmissionId store.admissions.values
  modify (dropElapsed now)

/-- The loop of `#ensureCapacity` over the admissions that have ended. -/
def evict (maxEntries additionalEntries : ℕ) : List (String × Admission) → Store Unit
  | [] =>
    lift (.error { code := "quota_store_capacity_exceeded",
                   message := "quota store capacity is unavailable" })
  | (admissionId, _) :: rest => do
    modify fun store ↦ { store with admissions := store.admissions.erase admissionId }
    let store ← get
    if store.size + additionalEntries ≤ maxEntries then pure ()
    else evict maxEntries additionalEntries rest

/-- The admissions that have ended, the one that ended first in front. -/
def evictable (store : QuotaStore) : List (String × Admission) :=
  (store.admissions.entries.filter fun entry ↦ entry.2.state ≠ .pending).mergeSort
    fun left right ↦
      left.2.completedAt.getD left.2.expiresAt ≤ right.2.completedAt.getD right.2.expiresAt

/-- `#ensureCapacity` -/
def ensureCapacity (maxEntries additionalEntries : ℕ) : Store Unit := do
  let store ← get
  if store.size + additionalEntries ≤ maxEntries then pure ()
  else evict maxEntries additionalEntries (evictable store)

/-! ## Reserving -/

/-- Why a request is denied. -/
inductive DenialReason where
  | idempotency
  | rate
  | capacity
  deriving DecidableEq, Repr

/-- What `reserve` answers. -/
inductive ReserveResult where
  | denied (reason : DenialReason)
  | admitted (replayed : Bool) (issuedAt expiresAt : ℤ)
  deriving DecidableEq, Repr

/-- The window a rate is counted in. -/
def RateReservation.windowStartedAt (reservation : RateReservation) (now : ℤ) : ℤ :=
  now / reservation.windowMs * reservation.windowMs

/-- The window of a bucket, if it is the one that starts then. -/
def currentWindow (rates : InsertionMap String RateWindow) (key : String) (windowStartedAt : ℤ) :
    Option RateWindow :=
  (rates.get key).filter fun current ↦ current.windowStartedAt = windowStartedAt

/-- The loop over the rates: what is written of each, or none if one is used up. -/
def nextRates (rates : InsertionMap String RateWindow) (tenantId : String) (now : ℤ) :
    List RateReservation → Option (List (String × RateWindow))
  | [] => some []
  | reservation :: rest =>
    let key := reservation.key tenantId
    let windowStartedAt := reservation.windowStartedAt now
    let current := currentWindow rates key windowStartedAt
    let used := (current.map RateWindow.used).getD 0
    if reservation.limit < used + reservation.units then none
    else do
      let others ← nextRates rates tenantId now rest
      some ((key,
        { windowStartedAt
          expiresAt := windowStartedAt + reservation.windowMs
          used := used + reservation.units
          limit := (current.map fun current ↦ min current.limit reservation.limit).getD
            reservation.limit
          dimension := reservation.dimension }) :: others)

/-- The loop over the capacities. -/
def nextCapacities (capacities : InsertionMap String CapacityBucket) (tenantId : String) :
    List CapacityReservation → Option (List (String × CapacityBucket))
  | [] => some []
  | reservation :: rest =>
    let key := reservation.key tenantId
    let current := capacities.get key
    let used := (current.map CapacityBucket.used).getD 0
    let limit := (current.map fun current ↦ min current.limit reservation.limit).getD
      reservation.limit
    if limit < used + reservation.units then none
    else do
      let others ← nextCapacities capacities tenantId rest
      some ((key, { used := used + reservation.units, limit, kind := reservation.kind }) :: others)

/-- What a request that is admitted writes. -/
structure Plan where
  replayed : Bool
  appliedCapacities : List CapacityReservation
  nextRates : List (String × RateWindow)
  nextCapacities : List (String × CapacityBucket)
  deriving DecidableEq, Repr

/-- The charge of the command of a request. -/
def commandCharge (store : QuotaStore) (request : QuotaStoreRequest) : Option Charge :=
  request.commandRefHash.bind fun commandRefHash ↦
    store.charges.get (chargeKey request.tenantId commandRefHash)

/-- What `reserve` decides before it writes. -/
def plan (store : QuotaStore) (request : QuotaStoreRequest) (now : ℤ) :
    Except DenialReason Plan :=
  let charged := (commandCharge store request).filter fun charge ↦ now < charge.expiresAt
  if charged.map Charge.status = some .pending then .error .idempotency
  else
    let replayed : Bool := charged.map Charge.status = some .succeeded
    let rates := request.rateReservations.filter fun item ↦ !item.commandScoped || !replayed
    let capacities := request.capacityReservations.filter fun item ↦
      !item.commandScoped || !replayed
    match nextRates store.rates request.tenantId now rates with
    | none => .error .rate
    | some nextRates =>
      match nextCapacities store.capacities request.tenantId capacities with
      | none => .error .capacity
      | some nextCapacities =>
        .ok { replayed, appliedCapacities := capacities, nextRates, nextCapacities }

/-- How many entries a plan adds. -/
def Plan.additionalEntries (plan : Plan) (store : QuotaStore) (request : QuotaStoreRequest) : ℕ :=
  (plan.nextRates.filter fun item ↦ (store.rates.get item.1).isNone).length +
    (plan.nextCapacities.filter fun item ↦ (store.capacities.get item.1).isNone).length + 1 +
    (if request.commandRefHash.isSome ∧ commandCharge store request = none then 1 else 0)

/-- `map.set` of each item. -/
def setAll {V : Type} (map : InsertionMap String V) (items : List (String × V)) :
    InsertionMap String V :=
  items.foldl (fun map item ↦ map.set item.1 item.2) map

/-- The admission of a request. -/
def Plan.admission (plan : Plan) (request : QuotaStoreRequest) (now : ℤ) : Admission :=
  { request with
    state := .pending
    issuedAt := now
    expiresAt := now + request.leaseMs
    replayed := plan.replayed
    appliedCapacities := plan.appliedCapacities }

/-- The charge of a command that was admitted. -/
def Plan.charges (plan : Plan) (charges : InsertionMap String Charge)
    (request : QuotaStoreRequest) (now : ℤ) : InsertionMap String Charge :=
  match request.commandRefHash with
  | none => charges
  | some commandRefHash =>
    if plan.replayed then charges
    else
      charges.set (chargeKey request.tenantId commandRefHash)
        { status := .pending
          admissionId := request.admissionId
          expiresAt := now + commandRetentionMs }

/-- The writes of `reserve`. -/
def Plan.write (plan : Plan) (request : QuotaStoreRequest) (now : ℤ) (store : QuotaStore) :
    QuotaStore :=
  { store with
    rates := setAll store.rates plan.nextRates
    capacities := setAll store.capacities plan.nextCapacities
    admissions := store.admissions.set request.admissionId (plan.admission request now)
    charges := plan.charges store.charges request now }

/-- `reserve` once the store is cleaned up and the request is checked. -/
def admitReservation (maxEntries : ℕ) (request : QuotaStoreRequest) (now : ℤ) :
    Store ReserveResult := do
  let store ← get
  match plan store request now with
  | .error reason => pure (.denied reason)
  | .ok plan => do
    ensureCapacity maxEntries (plan.additionalEntries store request)
    modify (plan.write request now)
    pure (.admitted plan.replayed now (now + request.leaseMs))

/-- Cleans up, checks the request, and admits it or denies it. -/
def reserve (maxEntries : ℕ) (clock : Option ℤ) (request : QuotaStoreRequest) :
    Store ReserveResult := do
  let now ← now clock
  cleanup now none
  lift (assertQuotaStoreRequest request)
  admitReservation maxEntries request now

/-! ## Finishing and releasing -/

/-- The argument of `finish`. -/
structure FinishInput where
  admissionId : String
  tenantId : String
  outcome : AdmissionOutcome
  deriving DecidableEq, Repr

/-- `finish` once the store is cleaned up. -/
def complete (input : FinishInput) (now : ℤ) : Store AdmissionState := do
  let store ← get
  match (store.admissions.get input.admissionId).filter
      (fun admission ↦ admission.tenantId = input.tenantId) with
  | none =>
    lift (.error { code := "admission_not_found",
                   message := "request admission is not available" })
  | some admission =>
    if admission.state ≠ .pending then pure admission.state
    else do
      finishAdmission admission input.outcome now
      pure (admission.ended input.outcome now).state

/-- Ends an admission with its outcome; one that is over stays as it is. -/
def finish (clock : Option ℤ) (input : FinishInput) : Store AdmissionState := do
  let now ← now clock
  cleanup now (some input.admissionId)
  lift (assertAbuseIdentifier "admissionId" input.admissionId)
  complete input now

/-- The check of `release` on each reservation. -/
def assertReleasable (capacities : InsertionMap String CapacityBucket) (tenantId : String) :
    List ResourceRelease → Domain Unit
  | [] => pure ()
  | reservation :: rest => do
    throwIf
      ((capacities.get (reservation.key tenantId)).all (fun current ↦
        current.kind ≠ reservation.kind ∨ current.used < reservation.units) = true)
      "resource_counter_underflow" "resource counter release is invalid"
    assertReleasable capacities tenantId rest

/-- The second loop of `release`. -/
def releaseAll (tenantId : String) : List ResourceRelease → Store Unit
  | [] => pure ()
  | reservation :: rest => do
    decrementCapacity (reservation.key tenantId) reservation.units
    releaseAll tenantId rest

/-- Gives capacities back by name, all of them or none. -/
def release (clock : Option ℤ) (input : QuotaStoreRelease) : Store Unit := do
  let _ ← now clock
  lift (assertQuotaStoreRelease input)
  let store ← get
  lift (assertReleasable store.capacities input.tenantId input.reservations)
  releaseAll input.tenantId input.reservations

/-! ## Keys -/

theorem length_of_isHash {value : String} (h : isHash value = true) : value.toList.length = 66 := by
  rw [isHash] at h
  split at h
  · rename_i digits hdigits
    rw [Bool.and_eq_true, beq_iff_eq] at h
    rw [hdigits, List.length_cons, List.length_cons, h.1]
  · cases h

/-- Hashes have one length, so that what stands before them does not matter. -/
theorem eq_of_append_hash {owner owner' keyHash keyHash' : String} (h : isHash keyHash = true)
    (h' : isHash keyHash' = true)
    (heq : owner ++ "\x00" ++ keyHash = owner' ++ "\x00" ++ keyHash') :
    owner = owner' ∧ keyHash = keyHash' := by
  have hlist := congrArg String.toList heq
  simp only [String.toList_append] at hlist
  have hlength : keyHash.toList.length = keyHash'.toList.length := by
    rw [length_of_isHash h, length_of_isHash h']
  obtain ⟨hfirst, hlast⟩ := List.append_inj' hlist hlength
  exact ⟨String.toList_inj.1 (List.append_inj' hfirst rfl).1, String.toList_inj.1 hlast⟩

theorem keyHash_eq_of_bucketKey_eq {tenantId tenantId' keyHash keyHash' : String}
    {partition partition' : Partition} (h : isHash keyHash = true) (h' : isHash keyHash' = true)
    (heq : bucketKey tenantId keyHash partition = bucketKey tenantId' keyHash' partition') :
    keyHash = keyHash' :=
  (eq_of_append_hash h h' heq).2

/-! ## What a checked request is like -/

@[simp] theorem invalidInput_eq_ok {c : Prop} [Decidable c] {message : String} {u : Unit} :
    invalidInput c message = .ok u ↔ ¬ c :=
  throwIf_eq_ok

/-- Every reservation passes its check, and no two have the same key. -/
theorem assertReservations_ok {R : Type} {check : R → Domain Unit} {keyHash : R → String}
    {duplicated : String} {reservations : List R} {keys : List String} {u : Unit}
    (h : assertReservations check keyHash duplicated keys reservations = .ok u) :
    (∀ reservation ∈ reservations, check reservation = .ok ()) ∧
      (reservations.map keyHash).Nodup ∧
      ∀ reservation ∈ reservations, keyHash reservation ∉ keys := by
  induction reservations generalizing keys with
  | nil => simp
  | cons reservation rest ih =>
    simp only [assertReservations, bind_eq_ok, invalidInput_eq_ok] at h
    obtain ⟨_, hcheck, _, hnew, hrest⟩ := h
    obtain ⟨hchecks, hnodup, hkeys⟩ := ih hrest
    simp only [List.mem_cons, not_or] at hkeys
    refine ⟨?_, ?_, ?_⟩
    · rintro r hr
      rcases List.mem_cons.1 hr with rfl | hr
      · exact hcheck
      · exact hchecks r hr
    · rw [List.map_cons, List.nodup_cons, List.mem_map]
      refine ⟨?_, hnodup⟩
      rintro ⟨r, hr, hkey⟩
      exact (hkeys r hr).1 hkey
    · rintro r hr
      rcases List.mem_cons.1 hr with rfl | hr
      · exact hnew
      · exact (hkeys r hr).2

/-- The reservations of a checked list fall into different buckets. -/
theorem nodup_keys {R : Type} {keyHash : R → String} {partition : R → Partition}
    {reservations : List R} (tenantId : String) (hnodup : (reservations.map keyHash).Nodup)
    (hhash : ∀ reservation ∈ reservations, isHash (keyHash reservation) = true) :
    (reservations.map fun reservation ↦
      bucketKey tenantId (keyHash reservation) (partition reservation)).Nodup := by
  rw [List.Nodup, List.pairwise_map] at hnodup ⊢
  refine hnodup.imp_of_mem fun {a b} ha hb hne heq ↦ hne ?_
  exact keyHash_eq_of_bucketKey_eq (hhash a ha) (hhash b hb) heq

theorem assertPositiveInteger_ok {name : String} {value maximum : ℤ} {u : Unit}
    (h : assertPositiveInteger name value maximum = .ok u) : 0 < value ∧ value ≤ maximum := by
  rw [assertPositiveInteger, invalidInput_eq_ok] at h
  omega

theorem assertAbuseHash_ok {name value : String} {u : Unit}
    (h : assertAbuseHash name value = .ok u) : isHash value = true := by
  rw [assertAbuseHash, invalidInput_eq_ok, Bool.not_eq_false] at h
  exact h

theorem assertCapacityReservation_ok {reservation : CapacityReservation}
    (h : assertCapacityReservation reservation = .ok ()) :
    isHash reservation.keyHash = true ∧ 0 < reservation.units := by
  simp only [assertCapacityReservation, bind_eq_ok] at h
  obtain ⟨_, hhash, _, _, _, hunits, _⟩ := h
  exact ⟨assertAbuseHash_ok hhash, (assertPositiveInteger_ok hunits).1⟩

theorem assertResourceRelease_ok {reservation : ResourceRelease}
    (h : assertResourceRelease reservation = .ok ()) :
    isHash reservation.keyHash = true ∧ 0 < reservation.units := by
  simp only [assertResourceRelease, bind_eq_ok] at h
  obtain ⟨_, hhash, _, _, hunits⟩ := h
  exact ⟨assertAbuseHash_ok hhash, (assertPositiveInteger_ok hunits).1⟩

theorem assertRateReservation_ok {reservation : RateReservation}
    (h : assertRateReservation reservation = .ok ()) :
    isHash reservation.keyHash = true ∧ 0 < reservation.units ∧ 0 < reservation.windowMs := by
  simp only [assertRateReservation, bind_eq_ok] at h
  obtain ⟨_, hhash, _, _, _, hwindow, _, _, hunits⟩ := h
  exact ⟨assertAbuseHash_ok hhash, (assertPositiveInteger_ok hunits).1,
    (assertPositiveInteger_ok hwindow).1⟩

/-- What was checked of the reservations of a request. -/
theorem assertQuotaStoreRequest_reservations {request : QuotaStoreRequest} {u : Unit}
    (h : assertQuotaStoreRequest request = .ok u) :
    ((∀ reservation ∈ request.rateReservations, assertRateReservation reservation = .ok ()) ∧
      (request.rateReservations.map RateReservation.keyHash).Nodup) ∧
    (∀ reservation ∈ request.capacityReservations,
      assertCapacityReservation reservation = .ok ()) ∧
      (request.capacityReservations.map CapacityReservation.keyHash).Nodup := by
  simp only [assertQuotaStoreRequest, bind_eq_ok] at h
  obtain ⟨_, _, _, _, _, _, _, _, _, _, _, _, _, _, _, _, _, _, _, _, _, hrates, hcapacities⟩ := h
  obtain ⟨hrateChecks, hrateKeys, -⟩ := assertReservations_ok hrates
  obtain ⟨hcapacityChecks, hcapacityKeys, -⟩ := assertReservations_ok hcapacities
  exact ⟨⟨hrateChecks, hrateKeys⟩, hcapacityChecks, hcapacityKeys⟩

theorem nodup_rateKeys {request : QuotaStoreRequest} {u : Unit}
    (h : assertQuotaStoreRequest request = .ok u) :
    (request.rateReservations.map (RateReservation.key request.tenantId)).Nodup := by
  obtain ⟨⟨hchecks, hnodup⟩, -⟩ := assertQuotaStoreRequest_reservations h
  exact nodup_keys _ hnodup fun r hr ↦ (assertRateReservation_ok (hchecks r hr)).1

theorem nodup_capacityKeys {request : QuotaStoreRequest} {u : Unit}
    (h : assertQuotaStoreRequest request = .ok u) :
    (request.capacityReservations.map (CapacityReservation.key request.tenantId)).Nodup := by
  obtain ⟨-, hchecks, hnodup⟩ := assertQuotaStoreRequest_reservations h
  exact nodup_keys _ hnodup fun r hr ↦ (assertCapacityReservation_ok (hchecks r hr)).1

/-! ## Plans -/

/-- What `reserve` decided, if it did not refuse. -/
theorem plan_ok {store : QuotaStore} {request : QuotaStoreRequest} {now : ℤ} {plan : Plan}
    (h : AbuseControl.plan store request now = .ok plan) :
    plan.appliedCapacities =
        (request.capacityReservations.filter fun item ↦ !item.commandScoped || !plan.replayed) ∧
      nextCapacities store.capacities request.tenantId plan.appliedCapacities =
        some plan.nextCapacities ∧
      nextRates store.rates request.tenantId now
        (request.rateReservations.filter fun item ↦ !item.commandScoped || !plan.replayed) =
          some plan.nextRates := by
  simp only [AbuseControl.plan] at h
  split at h
  · cases h
  · split at h
    · cases h
    · rename_i hrates
      split at h
      · cases h
      · rename_i hcapacities
        obtain rfl := Except.ok.inj h
        exact ⟨rfl, hcapacities, hrates⟩

theorem setAll_cons {V : Type} (map : InsertionMap String V) (key : String) (value : V)
    (items : List (String × V)) :
    setAll map ((key, value) :: items) = setAll (map.set key value) items :=
  rfl

theorem setAll_get_of_notMem {V : Type} {items : List (String × V)} {key : String}
    (h : key ∉ items.map Prod.fst) (map : InsertionMap String V) :
    (setAll map items).get key = map.get key := by
  induction items generalizing map with
  | nil => rfl
  | cons item rest ih =>
    rw [List.map_cons, List.mem_cons, not_or] at h
    rw [setAll_cons, ih h.2, InsertionMap.get_set_of_ne _ _ h.1]

theorem keys_nextRates {rates : InsertionMap String RateWindow} {tenantId : String} {now : ℤ}
    {items : List RateReservation} :
    ∀ {next : List (String × RateWindow)}, nextRates rates tenantId now items = some next →
      next.map Prod.fst = items.map (RateReservation.key tenantId) := by
  induction items with
  | nil =>
    intro next h
    obtain rfl := Option.some.inj h
    rfl
  | cons item rest ih =>
    intro next h
    rw [nextRates] at h
    split at h
    · cases h
    · simp only [Option.bind_eq_bind, Option.bind_eq_some_iff, Option.some.injEq] at h
      obtain ⟨others, hothers, rfl⟩ := h
      rw [List.map_cons, List.map_cons, ih hothers]

theorem keys_nextCapacities {capacities : InsertionMap String CapacityBucket} {tenantId : String}
    {items : List CapacityReservation} :
    ∀ {next : List (String × CapacityBucket)}, nextCapacities capacities tenantId items
      = some next →
      next.map Prod.fst = items.map (CapacityReservation.key tenantId) := by
  induction items with
  | nil =>
    intro next h
    obtain rfl := Option.some.inj h
    rfl
  | cons item rest ih =>
    intro next h
    rw [nextCapacities] at h
    split at h
    · cases h
    · simp only [Option.bind_eq_bind, Option.bind_eq_some_iff, Option.some.injEq] at h
      obtain ⟨others, hothers, rfl⟩ := h
      rw [List.map_cons, List.map_cons, ih hothers]

/-! ## Runs -/

/-- A call of a method of the store, with what the clock reads. -/
inductive Call where
  | reserve (clock : Option ℤ) (request : QuotaStoreRequest)
  | finish (clock : Option ℤ) (input : FinishInput)
  | release (clock : Option ℤ) (input : QuotaStoreRelease)
  deriving DecidableEq, Repr

/-- The store after a call, whether it returned or threw. -/
def step (maxEntries : ℕ) (store : QuotaStore) : Call → QuotaStore
  | .reserve clock request => (reserve maxEntries clock request store).2
  | .finish clock input => (finish clock input store).2
  | .release clock input => (release clock input store).2

end AbuseControl
end IpoOne
