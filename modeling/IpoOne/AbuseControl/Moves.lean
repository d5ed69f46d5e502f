import IpoOne.AbuseControl.QuotaStore
import IpoOne.Lib.Run
import Mathlib

/-!
# What a call can do to the quota store

Whether it returns or throws, a call moves the store by small steps, all at one time: units are
taken from buckets or given back, a pending admission ends, elapsed entries are dropped, an
admission that has ended is evicted, or a request is admitted (`Move`).  What every move keeps,
every call keeps (`step_induct`).
-/

set_option autoImplicit false

namespace IpoOne
namespace AbuseControl

open Fallible
open Throwing (get modify lift)
open Relation (ReflTransGen)

/-- A store with other buckets. -/
def QuotaStore.withCapacities (store : QuotaStore)
    (capacities : InsertionMap String CapacityBucket) : QuotaStore :=
  { store with capacities }

/-- The store with an admission that has ended. -/
def QuotaStore.recorded (store : QuotaStore) (admission : Admission) (outcome : AdmissionOutcome)
    (now : ℤ) : QuotaStore :=
  { store with
    admissions := store.admissions.set admission.admissionId (admission.ended outcome now)
    charges := settleCharge store.charges admission outcome now }

/-- A store without an admission. -/
def QuotaStore.without (store : QuotaStore) (id : String) : QuotaStore :=
  { store with admissions := store.admissions.erase id }

/-- The store at a later time. -/
def QuotaStore.at (store : QuotaStore) (timestamp : ℤ) : QuotaStore :=
  { store with lastNow := max store.lastNow timestamp }

/-- Every admission is stored under its own identifier. -/
def OwnIds (store : QuotaStore) : Prop :=
  ∀ id admission, store.admissions.get id = some admission → admission.admissionId = id

/-- An admission that has ended is evicted. -/
def Evict (store store' : QuotaStore) : Prop :=
  ∃ id, (∀ admission, store.admissions.get id = some admission → admission.state ≠ .pending) ∧
    store' = store.without id

/-- What happens to the store at a time, while a request is answered. -/
inductive Move (now : ℤ) (requested : Option QuotaStoreRequest) : QuotaStore → QuotaStore → Prop
  | buckets (store : QuotaStore) (capacities : InsertionMap String CapacityBucket) :
      Move now requested store (store.withCapacities capacities)
  | ended {store : QuotaStore} {admission : Admission}
      (hget : store.admissions.get admission.admissionId = some admission)
      (hpending : admission.state = .pending) (outcome : AdmissionOutcome) :
      Move now requested store (store.recorded admission outcome now)
  | elapsed (store : QuotaStore) : Move now requested store (dropElapsed now store)
  | evicted {store store' : QuotaStore} (h : Evict store store') : Move now requested store store'
  | admitted {store : QuotaStore} {request : QuotaStoreRequest} {plan : Plan}
      (hrequest : requested = some request)
      (hvalid : assertQuotaStoreRequest request = .ok ())
      (hlive : ∀ id admission, store.admissions.get id = some admission → ¬ admission.overdue now)
      (hplan : AbuseControl.plan store request now = .ok plan) :
      Move now requested store (plan.write request now store)

/-- A sequence of moves at one time. -/
abbrev Moves (now : ℤ) (requested : Option QuotaStoreRequest) : QuotaStore → QuotaStore → Prop :=
  ReflTransGen (Move now requested)

variable {requested : Option QuotaStoreRequest}

theorem Moves.induct {now : ℤ} {P : QuotaStore → Prop} {store store' : QuotaStore}
    (h : Moves now requested store store') (hmove : ∀ s s', P s → Move now requested s s' → P s')
    (hP : P store) :
    P store' := by
  induction h with
  | refl => exact hP
  | tail _ hlast ih => exact hmove _ _ ih hlast

/-- What happens without a request may happen with one. -/
theorem moves_of_none {now : ℤ} {store store' : QuotaStore} (h : Moves now none store store') :
    Moves now requested store store' := by
  refine ReflTransGen.mono (fun s s' hmove ↦ ?_) _ _ h
  cases hmove with
  | buckets capacities => exact .buckets s capacities
  | ended hget hpending outcome => exact .ended hget hpending outcome
  | elapsed => exact .elapsed s
  | evicted h => exact .evicted h
  | admitted hrequest => cases hrequest

theorem OwnIds.recorded {store : QuotaStore} (hown : OwnIds store) (admission : Admission)
    (outcome : AdmissionOutcome) (now : ℤ) : OwnIds (store.recorded admission outcome now) := by
  intro id other hother
  rw [QuotaStore.recorded, InsertionMap.get_set] at hother
  split at hother
  · rename_i hid
    obtain rfl := Option.some.inj hother
    exact hid.symm
  · exact hown id other hother

theorem ownIds_move {now : ℤ} {store store' : QuotaStore} (hown : OwnIds store)
    (h : Move now requested store store') : OwnIds store' := by
  cases h with
  | buckets => exact hown
  | ended hget hpending outcome => exact hown.recorded _ outcome now
  | elapsed => exact hown
  | evicted h =>
    obtain ⟨evicted, -, rfl⟩ := h
    intro id admission hadmission
    rw [QuotaStore.without, InsertionMap.get_erase] at hadmission
    split at hadmission
    · cases hadmission
    · exact hown id admission hadmission
  | admitted hrequest hvalid hlive hplan =>
    intro id admission hadmission
    rw [Plan.write, InsertionMap.get_set] at hadmission
    split at hadmission
    · rename_i hid
      obtain rfl := Option.some.inj hadmission
      exact hid.symm
    · exact hown id admission hadmission

/-! ## The methods as moves -/

/-- However it ends, only buckets are changed. -/
def OnlyBuckets {α : Type} (x : Store α) : Prop :=
  ∀ store, ∃ capacities, (x store).2 = store.withCapacities capacities

theorem decrementCapacity_onlyBuckets (key : String) (units : ℤ) :
    OnlyBuckets (decrementCapacity key units) := by
  intro store
  rcases hget : store.capacities.get key with _ | current
  · refine ⟨store.capacities, ?_⟩
    simp only [decrementCapacity, Throwing.bind_apply, Throwing.get_apply, hget]
    rfl
  · refine ⟨if current.used - units = 0 then store.capacities.erase key
      else store.capacities.set key { current with used := current.used - units }, ?_⟩
    simp only [decrementCapacity, Throwing.bind_apply, Throwing.get_apply, hget]
    rfl

theorem OnlyBuckets.bind {x y : Store Unit} (hx : OnlyBuckets x) (hy : OnlyBuckets y) :
    OnlyBuckets (x >>= fun _ ↦ y) := by
  intro store
  obtain ⟨capacities, hx⟩ := hx store
  rw [Throwing.bind_apply]
  rcases hxs : x store with ⟨_ | _, store'⟩
  · rw [hxs] at hx
    exact ⟨capacities, hx⟩
  · rw [hxs] at hx
    obtain rfl : store' = _ := hx
    obtain ⟨capacities', hy⟩ := hy (store.withCapacities capacities)
    exact ⟨capacities', hy⟩

theorem returnCapacities_onlyBuckets (tenantId : String) (outcome : AdmissionOutcome)
    (items : List CapacityReservation) : OnlyBuckets (returnCapacities tenantId outcome items) := by
  induction items with
  | nil => exact fun store ↦ ⟨store.capacities, rfl⟩
  | cons item rest ih =>
    rw [returnCapacities]
    split
    · exact OnlyBuckets.bind (decrementCapacity_onlyBuckets _ _) ih
    · exact ih

theorem releaseAll_onlyBuckets (tenantId : String) (items : List ResourceRelease) :
    OnlyBuckets (releaseAll tenantId items) := by
  induction items with
  | nil => exact fun store ↦ ⟨store.capacities, rfl⟩
  | cons item rest ih => exact OnlyBuckets.bind (decrementCapacity_onlyBuckets _ _) ih

/-- If the capacities come back, the end of the admission is recorded. -/
theorem finishAdmission_cases (admission : Admission) (outcome : AdmissionOutcome) (now : ℤ)
    (store : QuotaStore) :
    ∃ capacities,
      (∃ error, finishAdmission admission outcome now store =
        (.error error, store.withCapacities capacities)) ∨
      finishAdmission admission outcome now store =
        (.ok (), (store.withCapacities capacities).recorded admission outcome now) := by
  obtain ⟨capacities, hreturn⟩ :=
    returnCapacities_onlyBuckets admission.tenantId outcome admission.appliedCapacities store
  refine ⟨capacities, ?_⟩
  rw [finishAdmission, Throwing.bind_apply]
  rcases hreturned : returnCapacities admission.tenantId outcome admission.appliedCapacities store
    with ⟨error | _, store'⟩
  · rw [hreturned] at hreturn
    exact .inl ⟨error, by rw [← hreturn]⟩
  · rw [hreturned] at hreturn
    obtain rfl : store' = _ := hreturn
    exact .inr rfl

theorem finishAdmission_moves {store : QuotaStore} {admission : Admission}
    (hget : store.admissions.get admission.admissionId = some admission)
    (hpending : admission.state = .pending) (outcome : AdmissionOutcome) (now : ℤ) :
    Moves now requested store (finishAdmission admission outcome now store).2 := by
  obtain ⟨capacities, ⟨error, h⟩ | h⟩ := finishAdmission_cases admission outcome now store
  · rw [h]
    exact .single (.buckets store capacities)
  · rw [h]
    have hended : Move now requested (store.withCapacities capacities)
        ((store.withCapacities capacities).recorded admission outcome now) :=
      @Move.ended now requested (store.withCapacities capacities) admission hget hpending outcome
    exact (ReflTransGen.single (.buckets store capacities)).tail hended

/-- The stored admissions of a list, all under different identifiers. -/
structure Listed (store : QuotaStore) (admissions : List Admission) : Prop where
  nodup : (admissions.map fun admission ↦ admission.admissionId).Nodup
  stored : ∀ admission ∈ admissions,
    store.admissions.get admission.admissionId = some admission

theorem OwnIds.listed {store : QuotaStore} (h : OwnIds store) :
    Listed store store.admissions.values := by
  have hids : ∀ entry ∈ store.admissions.entries, entry.2.admissionId = entry.1 :=
    fun entry hentry ↦
    h entry.1 entry.2 ((store.admissions.mem_entries_iff ..).1 hentry)
  constructor
  · have hkeys : store.admissions.values.map (fun admission ↦ admission.admissionId) =
        store.admissions.entries.map Prod.fst := by
      rw [InsertionMap.values, List.map_map]
      exact List.map_congr_left hids
    rw [hkeys]
    exact store.admissions.nodup
  · intro admission hadmission
    obtain ⟨id, hid⟩ := (InsertionMap.mem_values_iff ..).1 hadmission
    rw [h id admission hid]
    exact hid

theorem Listed.tail {store : QuotaStore} {admission : Admission} {rest : List Admission}
    (h : Listed store (admission :: rest)) : Listed store rest :=
  ⟨(List.nodup_cons.1 h.nodup).2, fun other hother ↦ h.stored other (List.mem_cons_of_mem _ hother)⟩

/-- The end of the first admission leaves the others as they are. -/
theorem Listed.tail_recorded {store : QuotaStore} {admission : Admission} {rest : List Admission}
    (h : Listed store (admission :: rest)) (capacities : InsertionMap String CapacityBucket)
    (outcome : AdmissionOutcome) (now : ℤ) :
    Listed ((store.withCapacities capacities).recorded admission outcome now) rest := by
  have hnodup := h.nodup
  rw [List.map_cons, List.nodup_cons] at hnodup
  refine ⟨hnodup.2, fun other hother ↦ ?_⟩
  rw [QuotaStore.recorded, InsertionMap.get_set_of_ne]
  · exact h.stored other (List.mem_cons_of_mem _ hother)
  · exact fun heq ↦ hnodup.1 (heq ▸ List.mem_map_of_mem hother)

theorem expireOverdue_moves {now : ℤ} {excluded : Option String} {admissions : List Admission} :
    ∀ {store : QuotaStore}, Listed store admissions →
      Moves now requested store (expireOverdue now excluded admissions store).2 := by
  induction admissions with
  | nil => exact fun _ ↦ .refl
  | cons admission rest ih =>
    intro store hlisted
    rw [expireOverdue]
    split
    · rename_i hdue
      have hfinish : Moves now requested store (finishAdmission admission .expired now store).2 :=
        finishAdmission_moves (hlisted.stored admission List.mem_cons_self) hdue.2.1 .expired now
      rw [Throwing.bind_apply]
      obtain ⟨capacities, ⟨error, h⟩ | h⟩ := finishAdmission_cases admission .expired now store
      · rw [h] at hfinish ⊢
        exact hfinish
      · rw [h] at hfinish ⊢
        exact hfinish.trans (ih (hlisted.tail_recorded capacities .expired now))
    · exact ih hlisted.tail

/-- After the overdue leases have ended, none of the list is overdue. -/
theorem not_overdue_of_expireOverdue {now : ℤ} {admissions : List Admission} :
    ∀ {store store' : QuotaStore}, OwnIds store →
      expireOverdue now none admissions store = (.ok (), store') →
      ∀ id admission, store'.admissions.get id = some admission → admission.overdue now →
        store.admissions.get id = some admission ∧ admission ∉ admissions := by
  induction admissions with
  | nil =>
    intro store store' _ h id admission hget _
    obtain rfl := (Prod.mk.inj h).2
    exact ⟨hget, List.not_mem_nil⟩
  | cons first rest ih =>
    intro store store' hown h id admission hget hdue
    rw [expireOverdue] at h
    split at h
    · rw [Throwing.bind_eq_return] at h
      obtain ⟨_, middle, hfinish, hrest⟩ := h
      obtain ⟨capacities, ⟨error, h⟩ | h⟩ := finishAdmission_cases first .expired now store
      · rw [h] at hfinish
        cases hfinish
      · rw [h] at hfinish
        obtain rfl := (Prod.mk.inj hfinish).2
        have hown' : OwnIds (store.withCapacities capacities) := hown
        obtain ⟨hmiddle, hnot⟩ := ih (hown'.recorded first .expired now) hrest id admission
          hget hdue
        rw [QuotaStore.recorded, InsertionMap.get_set] at hmiddle
        split at hmiddle
        · obtain rfl := Option.some.inj hmiddle
          cases hdue.1
        · rename_i hne
          refine ⟨hmiddle, ?_⟩
          rw [List.mem_cons, not_or]
          refine ⟨?_, hnot⟩
          rintro rfl
          exact hne (hown id admission hmiddle).symm
    · rename_i hnotDue
      obtain ⟨hstored, hnot⟩ := ih hown h id admission hget hdue
      refine ⟨hstored, ?_⟩
      rw [List.mem_cons, not_or]
      refine ⟨?_, hnot⟩
      rintro rfl
      exact hnotDue ⟨by simp, hdue⟩

theorem cleanup_moves {store : QuotaStore} (hown : OwnIds store) (now : ℤ)
    (excluded : Option String) : Moves now requested store (cleanup now excluded store).2 := by
  have hexpire := @expireOverdue_moves requested now excluded _ _ hown.listed
  show Moves now requested store ((expireOverdue now excluded store.admissions.values >>= _ :
    Store Unit) store).2
  rw [Throwing.bind_apply]
  rcases h : expireOverdue now excluded store.admissions.values store with ⟨error | _, store'⟩
  · rw [h] at hexpire
    exact hexpire
  · rw [h] at hexpire
    exact hexpire.tail (.elapsed store')

/-- A cleanup that returns leaves no lease overdue. -/
theorem not_overdue_of_cleanup {store store' : QuotaStore} (hown : OwnIds store) {now : ℤ}
    (h : cleanup now none store = (.ok (), store')) :
    ∀ id admission, store'.admissions.get id = some admission → ¬ admission.overdue now := by
  intro id admission hget hdue
  rw [cleanup, Throwing.get_bind_eq_return, Throwing.bind_eq_return] at h
  obtain ⟨_, middle, hexpire, hdrop⟩ := h
  obtain rfl := (Prod.mk.inj hdrop).2
  obtain ⟨hstored, hnot⟩ := not_overdue_of_expireOverdue hown hexpire id admission hget hdue
  exact hnot ((InsertionMap.mem_values_iff ..).2 ⟨id, hstored⟩)

theorem evict_cons (maxEntries additionalEntries : ℕ) (entry : String × Admission)
    (rest : List (String × Admission)) (store : QuotaStore) :
    evict maxEntries additionalEntries (entry :: rest) store =
      if (store.without entry.1).size + additionalEntries ≤ maxEntries then
        (.ok (), store.without entry.1)
      else evict maxEntries additionalEntries rest (store.without entry.1) := by
  show (if _ then pure () else evict maxEntries additionalEntries rest : Store Unit) _ = _
  rw [Throwing.ite_apply]
  rfl

theorem evict_evictions {maxEntries additionalEntries : ℕ} {entries : List (String × Admission)} :
    ∀ {store : QuotaStore}, (∀ entry ∈ entries, ∀ admission,
        store.admissions.get entry.1 = some admission → admission.state ≠ .pending) →
      ReflTransGen Evict store (evict maxEntries additionalEntries entries store).2 := by
  induction entries with
  | nil => exact fun _ ↦ .refl
  | cons entry rest ih =>
    intro store h
    have hfirst : Evict store (store.without entry.1) := ⟨entry.1, h entry List.mem_cons_self, rfl⟩
    rw [evict_cons]
    split
    · exact .single hfirst
    · refine ReflTransGen.head hfirst (ih fun other hother admission hget ↦ ?_)
      rw [QuotaStore.without, InsertionMap.get_erase] at hget
      split at hget
      · cases hget
      · exact h other (List.mem_cons_of_mem _ hother) admission hget

theorem ensureCapacity_evictions (maxEntries additionalEntries : ℕ) (store : QuotaStore) :
    ReflTransGen Evict store (ensureCapacity maxEntries additionalEntries store).2 := by
  show ReflTransGen Evict store ((if _ then pure ()
    else evict maxEntries additionalEntries (evictable store) : Store Unit) store).2
  rw [Throwing.ite_apply]
  split
  · exact .refl
  · refine evict_evictions fun entry hentry admission hget ↦ ?_
    rw [evictable, List.mem_mergeSort, List.mem_filter, decide_eq_true_eq] at hentry
    have hstored := (store.admissions.mem_entries_iff entry.1 entry.2).1 hentry.1
    rw [hget] at hstored
    rw [Option.some.inj hstored]
    exact hentry.2

/-- Evictions take out admissions, and nothing else. -/
structure Evicts (store store' : QuotaStore) : Prop where
  rates : store'.rates = store.rates
  capacities : store'.capacities = store.capacities
  charges : store'.charges = store.charges
  stored : ∀ id admission, store'.admissions.get id = some admission →
    store.admissions.get id = some admission

theorem evicts_of_evictions {store store' : QuotaStore} (h : ReflTransGen Evict store store') :
    Evicts store store' := by
  induction h with
  | refl => exact ⟨rfl, rfl, rfl, fun _ _ h ↦ h⟩
  | tail _ hlast ih =>
    obtain ⟨evicted, -, rfl⟩ := hlast
    refine ⟨ih.rates, ih.capacities, ih.charges, fun id admission hget ↦ ?_⟩
    rw [QuotaStore.without, InsertionMap.get_erase] at hget
    split at hget
    · cases hget
    · exact ih.stored id admission hget

/-- What was planned stays planned. -/
theorem Evicts.plan_eq {store store' : QuotaStore} (h : Evicts store store')
    (request : QuotaStoreRequest) (now : ℤ) : plan store' request now = plan store request now := by
  rw [plan, plan, commandCharge, commandCharge, h.rates, h.capacities, h.charges]

/-- A request that is checked is refused for lack of room, denied, or planned and written. -/
theorem admit_cases (store : QuotaStore) (request : QuotaStoreRequest) (maxEntries : ℕ) (now : ℤ) :
    ∃ store', ReflTransGen Evict store store' ∧
      ((∃ error, admitReservation maxEntries request now store = (.error error, store')) ∨
        (store' = store ∧ ∃ reason, admitReservation maxEntries request now store
          = (.ok (.denied reason), store) ∧
          plan store request now = .error reason) ∨
        ∃ plan, AbuseControl.plan store request now = .ok plan ∧
          admitReservation maxEntries request now store =
            (.ok (.admitted plan.replayed now (now + request.leaseMs)),
              plan.write request now store')) := by
  rcases hplan : plan store request now with reason | plan
  · refine ⟨store, .refl, .inr (.inl ⟨rfl, reason, ?_, rfl⟩)⟩
    simp only [admitReservation, Throwing.bind_apply, Throwing.get_apply, hplan]
    rfl
  · have hevictions :=
      ensureCapacity_evictions maxEntries (plan.additionalEntries store request) store
    rcases hensure : ensureCapacity maxEntries (plan.additionalEntries store request) store
      with ⟨error | _, store'⟩
    · rw [hensure] at hevictions
      refine ⟨store', hevictions, .inl ⟨error, ?_⟩⟩
      simp only [admitReservation, Throwing.bind_apply, Throwing.get_apply, hplan, hensure]
    · rw [hensure] at hevictions
      refine ⟨store', hevictions, .inr (.inr ⟨plan, rfl, ?_⟩)⟩
      simp only [admitReservation, Throwing.bind_apply, Throwing.get_apply, hplan, hensure]
      rfl

/-! ## Calls -/

theorem reserve_some (maxEntries : ℕ) (timestamp : ℤ) (request : QuotaStoreRequest)
    (store : QuotaStore) :
    reserve maxEntries (some timestamp) request store =
      (cleanup (store.at timestamp).lastNow none >>= fun _ ↦
        lift (assertQuotaStoreRequest request) >>= fun _ ↦
          admitReservation maxEntries request (store.at timestamp).lastNow) (store.at timestamp) :=
            rfl

/-- The ways `reserve` ends: it throws, it denies the request in a store that is cleaned up, or it
writes what it planned there, after it made room. -/
theorem reserve_cases {store : QuotaStore} (hown : OwnIds store) (maxEntries : ℕ) (timestamp : ℤ)
    (request : QuotaStoreRequest) :
    ∃ store', Moves (store.at timestamp).lastNow none (store.at timestamp) store' ∧
      ((∃ error, reserve maxEntries (some timestamp) request store = (.error error, store')) ∨
        (cleanup (store.at timestamp).lastNow none (store.at timestamp) = (.ok (), store') ∧
          ∃ reason, reserve maxEntries (some timestamp) request store =
            (.ok (.denied reason), store')) ∨
        ∃ plan cleaned,
          cleanup (store.at timestamp).lastNow none (store.at timestamp) = (.ok (), cleaned) ∧
          Evicts cleaned store' ∧
          assertQuotaStoreRequest request = .ok () ∧
          (∀ id admission, store'.admissions.get id = some admission →
            ¬ admission.overdue (store.at timestamp).lastNow) ∧
          AbuseControl.plan store' request (store.at timestamp).lastNow = .ok plan ∧
          reserve maxEntries (some timestamp) request store =
            (.ok (.admitted plan.replayed (store.at timestamp).lastNow
              ((store.at timestamp).lastNow + request.leaseMs)),
              plan.write request (store.at timestamp).lastNow store')) := by
  have hownAt : OwnIds (store.at timestamp) := hown
  have hmoves := @cleanup_moves none _ hownAt (store.at timestamp).lastNow none
  rcases hcleanup : cleanup (store.at timestamp).lastNow none (store.at timestamp)
    with ⟨error | _, cleaned⟩
  · rw [hcleanup] at hmoves
    refine ⟨cleaned, hmoves, .inl ⟨error, ?_⟩⟩
    rw [reserve_some, Throwing.bind_apply, hcleanup]
  · rw [hcleanup] at hmoves
    have hreserve : reserve maxEntries (some timestamp) request store =
        (lift (assertQuotaStoreRequest request) >>= fun _ ↦
          admitReservation maxEntries request (store.at timestamp).lastNow) cleaned := by
      rw [reserve_some, Throwing.bind_apply_ok hcleanup]
    rw [hreserve, Throwing.bind_apply, Throwing.lift_apply]
    rcases hvalid : assertQuotaStoreRequest request with error | u
    · exact ⟨cleaned, hmoves, .inl ⟨error, rfl⟩⟩
    · obtain ⟨store', hevictions, hcases⟩ :=
        admit_cases cleaned request maxEntries (store.at timestamp).lastNow
      have hevicts := evicts_of_evictions hevictions
      refine ⟨store', hmoves.trans (ReflTransGen.mono (fun _ _ ↦ Move.evicted) _ _ hevictions), ?_⟩
      rcases hcases with ⟨error, hadmitted⟩ | ⟨rfl, reason, hadmitted, -⟩ | ⟨plan, hplan, hadmitted⟩
      · exact .inl ⟨error, hadmitted⟩
      · exact .inr (.inl ⟨rfl, reason, hadmitted⟩)
      · refine .inr (.inr ⟨plan, cleaned, rfl, hevicts, rfl, ?_, ?_, hadmitted⟩)
        · intro id admission hget
          exact not_overdue_of_cleanup hownAt hcleanup id admission
            (hevicts.stored id admission hget)
        · rw [hevicts.plan_eq]
          exact hplan

theorem finish_some (timestamp : ℤ) (input : FinishInput) (store : QuotaStore) :
    finish (some timestamp) input store =
      (cleanup (store.at timestamp).lastNow (some input.admissionId) >>= fun _ ↦
        lift (assertAbuseIdentifier "admissionId" input.admissionId) >>= fun _ ↦
          complete input (store.at timestamp).lastNow) (store.at timestamp) := rfl

theorem release_some (timestamp : ℤ) (input : QuotaStoreRelease) (store : QuotaStore) :
    release (some timestamp) input store =
      (lift (assertQuotaStoreRelease input) >>= fun _ ↦
        lift (assertReleasable store.capacities input.tenantId input.reservations) >>= fun _ ↦
          releaseAll input.tenantId input.reservations) (store.at timestamp) := by
  show (lift (assertQuotaStoreRelease input) >>= _ : Store Unit) (store.at timestamp) = _
  rw [Throwing.bind_apply, Throwing.bind_apply]
  rcases hvalid : assertQuotaStoreRelease input with error | u
  · rfl
  · rfl

/-- What the clock reads at a call. -/
def Call.clock : Call → Option ℤ
  | .reserve clock _ => clock
  | .finish clock _ => clock
  | .release clock _ => clock

/-- What is asked for by a call. -/
def Call.request : Call → Option QuotaStoreRequest
  | .reserve _ request => some request
  | _ => none

/-- The admission that a call of `finish` would end. -/
def finishable (store : QuotaStore) (input : FinishInput) : Option Admission :=
  (store.admissions.get input.admissionId).filter fun admission ↦
    admission.tenantId = input.tenantId ∧ admission.state = .pending

theorem complete_moves {store : QuotaStore} (hown : OwnIds store) (input : FinishInput) (now : ℤ) :
    Moves now requested store (complete input now store).2 := by
  rcases hget : (store.admissions.get input.admissionId).filter
      (fun admission ↦ admission.tenantId = input.tenantId) with _ | admission
  · simp only [complete, Throwing.bind_apply, Throwing.get_apply, hget, Throwing.lift_apply]
    exact .refl
  · obtain ⟨hstored, -⟩ := Option.filter_eq_some_iff.1 hget
    simp only [complete, Throwing.bind_apply, Throwing.get_apply, hget]
    rw [Throwing.ite_apply]
    split
    · exact .refl
    · rename_i hpending
      rw [Throwing.left_bind fun _ ↦ Throwing.reads_pure _]
      refine finishAdmission_moves ?_ (not_not.1 hpending) input.outcome now
      rw [hown _ _ hstored]
      exact hstored

/-- **Every call is made of moves**, after the store's time was brought up to date. -/
theorem step_moves {store : QuotaStore} (hown : OwnIds store) (maxEntries : ℕ) (call : Call) :
    match call.clock with
    | none => step maxEntries store call = store
    | some timestamp =>
      Moves (store.at timestamp).lastNow call.request (store.at timestamp)
        (step maxEntries store call) := by
  have hownAt : ∀ timestamp, OwnIds (store.at timestamp) := fun _ ↦ hown
  have hcleaned : ∀ timestamp excluded, OwnIds
      (cleanup (store.at timestamp).lastNow excluded (store.at timestamp)).2 :=
    fun timestamp excluded ↦ (@cleanup_moves none _ (hownAt timestamp) _ excluded).induct
      (fun _ _ ↦ ownIds_move) (hownAt timestamp)
  cases call with
  | reserve clock request =>
    rcases clock with _ | timestamp
    · rfl
    · show Moves _ _ _ (reserve maxEntries (some timestamp) request store).2
      obtain ⟨store', hmoves, hcases⟩ := reserve_cases hown maxEntries timestamp request
      have hmoves' := @moves_of_none (some request) _ _ _ hmoves
      rcases hcases with ⟨error, h⟩ | ⟨-, reason, h⟩
        | ⟨plan, cleaned, -, -, hvalid, hlive, hplan, h⟩
      · rw [h]
        exact hmoves'
      · rw [h]
        exact hmoves'
      · rw [h]
        exact hmoves'.tail (.admitted rfl hvalid hlive hplan)
  | finish clock input =>
    rcases clock with _ | timestamp
    · rfl
    · show Moves _ _ _ (finish (some timestamp) input store).2
      have hmoves := @cleanup_moves none _ (hownAt timestamp) (store.at timestamp).lastNow
        (some input.admissionId)
      have hown' := hcleaned timestamp (some input.admissionId)
      rw [finish_some, Throwing.bind_apply]
      rcases hcleanup : cleanup (store.at timestamp).lastNow (some input.admissionId)
        (store.at timestamp) with ⟨error | _, store'⟩
      · rw [hcleanup] at hmoves
        exact hmoves
      · rw [hcleanup] at hmoves hown'
        refine Throwing.left_lift_bind (Moves _ _ _) hmoves fun _ _ ↦ hmoves.trans ?_
        exact complete_moves hown' input _
  | release clock input =>
    rcases clock with _ | timestamp
    · rfl
    · show Moves _ _ _ (release (some timestamp) input store).2
      rw [release_some]
      refine Throwing.left_lift_bind (Moves _ _ _) .refl fun _ _ ↦ ?_
      refine Throwing.left_lift_bind (Moves _ _ _) .refl fun _ _ ↦ ?_
      obtain ⟨capacities, hrelease⟩ :=
        releaseAll_onlyBuckets input.tenantId input.reservations (store.at timestamp)
      rw [hrelease]
      exact .single (.buckets _ capacities)

/-- **What every move keeps, every call keeps.** -/
theorem step_induct {P : QuotaStore → Prop} {store : QuotaStore} (hown : OwnIds store)
    (maxEntries : ℕ) (call : Call) (hP : P store) (hat : ∀ timestamp, P (store.at timestamp))
    (hmove : ∀ timestamp, call.clock = some timestamp → ∀ s s', P s →
      Move (store.at timestamp).lastNow call.request s s' → P s') :
    P (step maxEntries store call) := by
  have hmoves := step_moves hown maxEntries call
  rcases hclock : call.clock with _ | timestamp
  · rw [hclock] at hmoves
    rw [hmoves]
    exact hP
  · rw [hclock] at hmoves
    exact Moves.induct hmoves (hmove timestamp hclock) (hat timestamp)

/-- The identifiers that the requests of a run ask for. -/
def admissionIds (calls : List Call) : List String :=
  calls.filterMap fun call ↦ call.request.map QuotaStoreRequest.admissionId

/-- An admission is of an earlier request, or of this one. -/
theorem stored_step {store : QuotaStore} (hown : OwnIds store) (maxEntries : ℕ) (call : Call)
    {id : String} (h : store.admissions.get id = none)
    (hid : ∀ request, call.request = some request → request.admissionId ≠ id) :
    (step maxEntries store call).admissions.get id = none := by
  refine step_induct (P := fun s ↦ s.admissions.get id = none) hown maxEntries call h (fun _ ↦ h) ?_
  intro timestamp _ s s' hs hmove
  cases hmove with
  | buckets => exact hs
  | ended hget =>
    rw [QuotaStore.recorded, InsertionMap.get_set_of_ne _ _ ?_]
    · exact hs
    · rintro rfl
      rw [hget] at hs
      cases hs
  | elapsed => exact hs
  | evicted hevict =>
    obtain ⟨evicted, -, rfl⟩ := hevict
    rw [QuotaStore.without, InsertionMap.get_erase, hs, ite_self]
  | admitted hrequest =>
    rw [Plan.write, InsertionMap.get_set_of_ne _ _ (hid _ hrequest).symm]
    exact hs

end AbuseControl
end IpoOne
