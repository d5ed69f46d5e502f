import IpoOne.AbuseControl.Moves
import Mathlib

/-!
# Where the units of a capacity bucket are

The units in use of a bucket are held by pending admissions, or free: kept by admissions that
succeeded and not yet released.  `free` is what no pending admission holds, and every operation is
described by what it does to it.  Finishing with success adds to it, `release` takes from it, and
nothing else changes it (`Accounts`).

`release` compares what it gives back with all that is in use, and so may take units that a pending
admission holds.  Then the admission can no longer be ended: its bucket is gone, or goes below zero.
As long as no release does this, no bucket is overdrawn and every pending admission can be ended.
-/

set_option autoImplicit false

namespace IpoOne
namespace AbuseControl

open Fallible
open Throwing (get modify lift)
open Relation (ReflTransGen)

/-! ## The capacities of a request -/

/-- What the store relies on of the capacities of a request. -/
structure GoodCapacities (tenantId : String) (capacities : List CapacityReservation) : Prop where
  positive : ∀ reservation ∈ capacities, 0 < reservation.units
  nodup : (capacities.map (CapacityReservation.key tenantId)).Nodup

theorem assertQuotaStoreRequest_capacities {request : QuotaStoreRequest} {u : Unit}
    (h : assertQuotaStoreRequest request = .ok u) :
    GoodCapacities request.tenantId request.capacityReservations := by
  obtain ⟨-, hchecks, -⟩ := assertQuotaStoreRequest_reservations h
  exact ⟨fun r hr ↦ (assertCapacityReservation_ok (hchecks r hr)).2, nodup_capacityKeys h⟩

theorem GoodCapacities.filter {tenantId : String} {capacities : List CapacityReservation}
    (h : GoodCapacities tenantId capacities) (p : CapacityReservation → Bool) :
    GoodCapacities tenantId (capacities.filter p) :=
  ⟨fun r hr ↦ h.positive r (List.mem_of_mem_filter hr),
    h.nodup.sublist (List.filter_sublist.map _)⟩

/-! ## Units -/

/-- The units in use of a bucket. -/
def usedIn (capacities : InsertionMap String CapacityBucket) (key : String) : ℤ :=
  ((capacities.get key).map CapacityBucket.used).getD 0

/-- The units that a list of items has under a key. -/
def unitsUnder {R : Type} (keyOf : R → String) (units : R → ℤ) (items : List R)
    (key : String) : ℤ :=
  (items.map fun item ↦ if keyOf item = key then units item else 0).sum

/-- The units of capacity reservations under a key. -/
def capacityUnits (tenantId : String) (items : List CapacityReservation) (key : String) : ℤ :=
  unitsUnder (CapacityReservation.key tenantId) CapacityReservation.units items key

/-- What a pending admission holds of a bucket. -/
def Admission.held (admission : Admission) (key : String) : ℤ :=
  if admission.state = .pending then
    capacityUnits admission.tenantId admission.appliedCapacities key
  else 0

/-- What pending admissions hold of a bucket. -/
def held (store : QuotaStore) (key : String) : ℤ :=
  (store.admissions.values.map fun admission ↦ admission.held key).sum

/-- What is in use of a bucket and held by no pending admission. -/
def free (store : QuotaStore) (key : String) : ℤ := usedIn store.capacities key - held store key

/-- What an admission that ends this way keeps of a bucket. -/
def Admission.retained (admission : Admission) (outcome : AdmissionOutcome) (key : String) : ℤ :=
  capacityUnits admission.tenantId
    (admission.appliedCapacities.filter fun reservation ↦ ¬ reservation.returned outcome) key

theorem unitsUnder_nonneg {R : Type} {keyOf : R → String} {units : R → ℤ} {items : List R}
    (h : ∀ item ∈ items, 0 < units item) (key : String) : 0 ≤ unitsUnder keyOf units items key := by
  refine List.sum_nonneg ?_
  intro x hx
  obtain ⟨item, hitem, rfl⟩ := List.mem_map.1 hx
  split
  · exact (h item hitem).le
  · exact le_rfl

theorem unitsUnder_filter {R : Type} {keyOf : R → String} {units : R → ℤ} (items : List R)
    (p : R → Prop) [DecidablePred p] (key : String) :
    unitsUnder keyOf units (items.filter fun item ↦ p item) key +
      unitsUnder keyOf units (items.filter fun item ↦ ¬ p item) key =
        unitsUnder keyOf units items key := by
  induction items with
  | nil => rfl
  | cons item rest ih =>
    simp only [unitsUnder] at ih ⊢
    by_cases hp : p item
    · simp only [List.filter_cons, hp, not_true, decide_true, decide_false, if_true,
        Bool.false_eq_true, if_false, List.map_cons, List.sum_cons]
      omega
    · simp only [List.filter_cons, hp, not_false_eq_true, decide_true, decide_false, if_true,
        Bool.false_eq_true, if_false, List.map_cons, List.sum_cons]
      omega

theorem unitsUnder_cons {R : Type} (keyOf : R → String) (units : R → ℤ) (item : R) (rest : List R)
    (key : String) :
    unitsUnder keyOf units (item :: rest) key =
      (if keyOf item = key then units item else 0) + unitsUnder keyOf units rest key :=
  List.sum_cons

theorem unitsUnder_of_notMem {R : Type} {keyOf : R → String} {units : R → ℤ} {items : List R}
    {key : String} (h : key ∉ items.map keyOf) : unitsUnder keyOf units items key = 0 := by
  refine List.sum_eq_zero fun x hx ↦ ?_
  obtain ⟨item, hitem, rfl⟩ := List.mem_map.1 hx
  refine if_neg fun heq ↦ h ?_
  rw [← heq]
  exact List.mem_map_of_mem hitem

/-- Under different keys there is one item under each. -/
theorem unitsUnder_of_mem {R : Type} {keyOf : R → String} {units : R → ℤ} {items : List R}
    (hnodup : (items.map keyOf).Nodup) {item : R} (hitem : item ∈ items) :
    unitsUnder keyOf units items (keyOf item) = units item := by
  induction items with
  | nil => cases hitem
  | cons first rest ih =>
    rw [List.map_cons, List.nodup_cons] at hnodup
    rw [unitsUnder_cons]
    rcases List.mem_cons.1 hitem with rfl | hitem
    · rw [if_pos rfl, unitsUnder_of_notMem hnodup.1, add_zero]
    · rw [if_neg, zero_add, ih hnodup.2 hitem]
      exact fun heq ↦ hnodup.1 (heq ▸ List.mem_map_of_mem hitem)

/-- What is in a bucket is positive and within its limit. -/
def Bounded (capacities : InsertionMap String CapacityBucket) : Prop :=
  ∀ key bucket, capacities.get key = some bucket → 0 < bucket.used ∧ bucket.used ≤ bucket.limit

theorem usedIn_nonneg {capacities : InsertionMap String CapacityBucket} (h : Bounded capacities)
    (key : String) : 0 ≤ usedIn capacities key := by
  rw [usedIn]
  rcases hget : capacities.get key with _ | bucket
  · exact le_rfl
  · exact (h key bucket hget).1.le

/-! ## Giving units back -/

/-- Units that are in use can be given back. -/
theorem decrementCapacity_spec {store : QuotaStore} (hbounded : Bounded store.capacities)
    {key : String} {units : ℤ} (hpos : 0 < units) (hle : units ≤ usedIn store.capacities key) :
    ∃ capacities, decrementCapacity key units store = (.ok (), store.withCapacities capacities) ∧
      Bounded capacities ∧
      ∀ key', usedIn capacities key' =
        usedIn store.capacities key' - if key = key' then units else 0 := by
  rcases hget : store.capacities.get key with _ | current
  · simp only [usedIn, hget, Option.map_none, Option.getD_none] at hle
    omega
  · obtain ⟨hused, hlimit⟩ := hbounded key current hget
    simp only [usedIn, hget, Option.map_some, Option.getD_some] at hle
    refine ⟨if current.used - units = 0 then store.capacities.erase key
      else store.capacities.set key { current with used := current.used - units }, ?_, ?_, ?_⟩
    · simp only [decrementCapacity, Throwing.bind_apply, Throwing.get_apply, hget]
      rfl
    · intro key' bucket hbucket
      split at hbucket
      · rw [InsertionMap.get_erase] at hbucket
        split at hbucket
        · cases hbucket
        · exact hbounded key' bucket hbucket
      · rw [InsertionMap.get_set] at hbucket
        split at hbucket
        · obtain rfl := Option.some.inj hbucket
          exact ⟨by show 0 < current.used - units; omega,
            by show current.used - units ≤ current.limit; omega⟩
        · exact hbounded key' bucket hbucket
    · intro key'
      by_cases hkey : key = key'
      · obtain rfl := hkey
        rw [if_pos rfl]
        split
        · simp only [usedIn, InsertionMap.get_erase, hget, if_true, Option.map_none,
            Option.getD_none, Option.map_some, Option.getD_some]
          omega
        · simp only [usedIn, InsertionMap.get_set, hget, if_true, Option.map_some,
            Option.getD_some]
      · rw [if_neg hkey, sub_zero]
        split
        · simp only [usedIn, InsertionMap.get_erase, if_neg (Ne.symm hkey)]
        · simp only [usedIn, InsertionMap.get_set, if_neg (Ne.symm hkey)]

/-- One decrement after the other; both loops over reservations are of this form. -/
def decrementAll : List (String × ℤ) → Store Unit
  | [] => pure ()
  | (key, units) :: rest => do
    decrementCapacity key units
    decrementAll rest

theorem returnCapacities_eq (tenantId : String) (outcome : AdmissionOutcome)
    (items : List CapacityReservation) :
    returnCapacities tenantId outcome items =
      decrementAll ((items.filter fun item ↦ item.returned outcome).map fun item ↦
        (item.key tenantId, item.units)) := by
  induction items with
  | nil => rfl
  | cons item rest ih =>
    rw [returnCapacities, ih, List.filter_cons]
    by_cases h : item.returned outcome
    · rw [if_pos h, if_pos (decide_eq_true h)]
      rfl
    · rw [if_neg h, if_neg (by simpa using h)]

theorem releaseAll_eq (tenantId : String) (items : List ResourceRelease) :
    releaseAll tenantId items =
      decrementAll (items.map fun item ↦ (item.key tenantId, item.units)) := by
  induction items with
  | nil => rfl
  | cons item rest ih =>
    rw [releaseAll, ih]
    rfl

theorem unitsUnder_map {R : Type} (keyOf : R → String) (units : R → ℤ) (items : List R)
    (key : String) :
    unitsUnder Prod.fst Prod.snd (items.map fun item ↦ (keyOf item, units item)) key =
      unitsUnder keyOf units items key := by
  rw [unitsUnder, unitsUnder, List.map_map]
  rfl

/-- Units that are all in use can all be given back. -/
theorem decrementAll_spec {items : List (String × ℤ)} (hpos : ∀ item ∈ items, 0 < item.2) :
    ∀ {store : QuotaStore}, Bounded store.capacities →
      (∀ key, unitsUnder Prod.fst Prod.snd items key ≤ usedIn store.capacities key) →
      ∃ capacities, decrementAll items store = (.ok (), store.withCapacities capacities) ∧
        Bounded capacities ∧
        ∀ key, usedIn capacities key =
          usedIn store.capacities key - unitsUnder Prod.fst Prod.snd items key := by
  induction items with
  | nil =>
    intro store hbounded _
    refine ⟨store.capacities, rfl, hbounded, fun key ↦ ?_⟩
    simp [unitsUnder]
  | cons item rest ih =>
    intro store hbounded hle
    have hunits := unitsUnder_cons Prod.fst Prod.snd item rest
    have hrest : ∀ item ∈ rest, 0 < item.2 := fun i hi ↦ hpos i (List.mem_cons_of_mem _ hi)
    have hfirst : item.2 ≤ usedIn store.capacities item.1 := by
      have hkey := hle item.1
      have hnonneg := @unitsUnder_nonneg _ Prod.fst Prod.snd rest hrest item.1
      rw [hunits, if_pos rfl] at hkey
      omega
    obtain ⟨capacities, hdecrement, hbounded', hused⟩ :=
      decrementCapacity_spec hbounded (hpos item List.mem_cons_self) hfirst
    obtain ⟨capacities', hdecrements, hbounded'', hused'⟩ :=
      @ih hrest (store.withCapacities capacities) hbounded' (by
        intro key
        have hkey := hle key
        rw [hunits] at hkey
        show _ ≤ usedIn capacities key
        rw [hused]
        omega)
    refine ⟨capacities', ?_, hbounded'', fun key ↦ ?_⟩
    · rw [decrementAll, Throwing.bind_apply_ok hdecrement, hdecrements]
      rfl
    · rw [hused', hunits]
      show usedIn capacities key - _ = _
      rw [hused]
      omega

/-! ## The invariant -/

/-- What the store relies on: its buckets are within their limits, and cover what pending admissions
hold. -/
structure Sound (store : QuotaStore) : Prop where
  bounded : Bounded store.capacities
  covered : ∀ key, 0 ≤ free store key
  ownIds : OwnIds store
  identifier : ∀ id admission, store.admissions.get id = some admission → isIdentifier id = true
  positive : ∀ id admission, store.admissions.get id = some admission →
    ∀ reservation ∈ admission.appliedCapacities, 0 < reservation.units

theorem sound_new : Sound .new where
  bounded := by rintro _ _ ⟨⟩
  covered _ := le_rfl
  ownIds := by rintro _ _ ⟨⟩
  identifier := by rintro _ _ ⟨⟩
  positive := by rintro _ _ ⟨⟩

theorem Admission.held_nonneg {admission : Admission} (key : String)
    (h : ∀ reservation ∈ admission.appliedCapacities, 0 < reservation.units) :
    0 ≤ admission.held key := by
  rw [Admission.held]
  split
  · exact unitsUnder_nonneg h key
  · exact le_rfl

/-- What is held, when an admission is written. -/
theorem held_set (admissions : InsertionMap String Admission) (id : String) (admission : Admission)
    (key : String) :
    ((admissions.set id admission).values.map fun admission ↦ admission.held key).sum +
        ((admissions.get id).map fun admission ↦ admission.held key).getD 0 =
      (admissions.values.map fun admission ↦ admission.held key).sum + admission.held key :=
  admissions.sum_map_values_set id admission fun admission ↦ admission.held key

/-- A pending admission holds no more than what is held. -/
theorem Sound.held_le {store : QuotaStore} (h : Sound store) {id : String} {admission : Admission}
    (hget : store.admissions.get id = some admission) (key : String) :
    admission.held key ≤ usedIn store.capacities key := by
  have hle : admission.held key ≤ held store key := by
    refine List.single_le_sum ?_ _ ?_
    · intro x hx
      obtain ⟨other, hother, rfl⟩ := List.mem_map.1 hx
      obtain ⟨otherId, hother⟩ := (InsertionMap.mem_values_iff _ _).1 hother
      exact Admission.held_nonneg key (h.positive otherId other hother)
    · exact List.mem_map_of_mem ((InsertionMap.mem_values_iff _ _).2 ⟨id, hget⟩)
  have hfree := h.covered key
  rw [free] at hfree
  omega

theorem Admission.ended_held (admission : Admission) (outcome : AdmissionOutcome) (now : ℤ)
    (key : String) : (admission.ended outcome now).held key = 0 := by
  rw [Admission.held, Admission.ended]
  refine if_neg ?_
  show (if outcome = .expired then AdmissionState.expired else .completed) ≠ .pending
  split <;> exact nofun

/-- What an admission that ends this way gives back. -/
def Admission.returnedItems (admission : Admission) (outcome : AdmissionOutcome) :
    List (String × ℤ) :=
  (admission.appliedCapacities.filter fun item ↦ item.returned outcome).map fun item ↦
    (item.key admission.tenantId, item.units)

/-- What a pending admission holds, it gives back or keeps. -/
theorem Admission.returned_add_retained {admission : Admission}
    (hpending : admission.state = .pending) (outcome : AdmissionOutcome) (key : String) :
    unitsUnder Prod.fst Prod.snd (admission.returnedItems outcome) key +
      admission.retained outcome key = admission.held key := by
  rw [Admission.held, if_pos hpending, Admission.returnedItems, unitsUnder_map]
  exact unitsUnder_filter admission.appliedCapacities (fun item ↦ item.returned outcome) key

/-- A pending admission can be ended, and what it keeps becomes free. -/
theorem finishAdmission_spec {store : QuotaStore} (hsound : Sound store) {admission : Admission}
    (hget : store.admissions.get admission.admissionId = some admission)
    (hpending : admission.state = .pending) (outcome : AdmissionOutcome) (now : ℤ) :
    ∃ capacities, finishAdmission admission outcome now store =
        (.ok (), (store.withCapacities capacities).recorded admission outcome now) ∧
      Sound ((store.withCapacities capacities).recorded admission outcome now) ∧
      ∀ key, free ((store.withCapacities capacities).recorded admission outcome now) key =
        free store key + admission.retained outcome key := by
  have hpositive := hsound.positive _ _ hget
  have hretained : ∀ key, 0 ≤ admission.retained outcome key := fun key ↦
    unitsUnder_nonneg (fun item hitem ↦ hpositive item (List.mem_of_mem_filter hitem)) key
  have hunits : ∀ item ∈ admission.returnedItems outcome, 0 < item.2 := by
    intro item hitem
    obtain ⟨reservation, hreservation, rfl⟩ := List.mem_map.1 hitem
    exact hpositive reservation (List.mem_of_mem_filter hreservation)
  -- what is given back was in use
  have hinUse : ∀ key, unitsUnder Prod.fst Prod.snd (admission.returnedItems outcome) key ≤
      usedIn store.capacities key := by
    intro key
    have hle := hsound.held_le hget key
    have hsplit := admission.returned_add_retained hpending outcome key
    have hretained := hretained key
    omega
  obtain ⟨capacities, hreturn, hbounded, hused⟩ :=
    decrementAll_spec hunits hsound.bounded hinUse
  have hfree : ∀ key, free ((store.withCapacities capacities).recorded admission outcome now) key =
      free store key + admission.retained outcome key := by
    intro key
    have hset := held_set store.admissions admission.admissionId (admission.ended outcome now) key
    rw [hget, Option.map_some, Option.getD_some, Admission.ended_held] at hset
    have hsplit := admission.returned_add_retained hpending outcome key
    show usedIn capacities key -
      ((store.admissions.set admission.admissionId (admission.ended outcome now)).values.map
        fun admission ↦ admission.held key).sum = _
    rw [hused, free, held]
    omega
  refine ⟨capacities, ?_, ⟨hbounded, ?_, ?_, ?_, ?_⟩, hfree⟩
  · rw [finishAdmission, returnCapacities_eq]
    exact Throwing.bind_apply_ok hreturn
  · intro key
    rw [hfree]
    exact add_nonneg (hsound.covered key) (hretained key)
  · exact OwnIds.recorded (fun id other ↦ hsound.ownIds id other) admission outcome now
  · intro id other hother
    rw [QuotaStore.recorded, InsertionMap.get_set] at hother
    split at hother
    · rename_i hid
      exact hid ▸ hsound.identifier _ _ hget
    · exact hsound.identifier id other hother
  · intro id other hother
    rw [QuotaStore.recorded, InsertionMap.get_set] at hother
    split at hother
    · obtain rfl := Option.some.inj hother
      exact hpositive
    · exact hsound.positive id other hother

/-- An admission that does not succeed keeps nothing. -/
theorem Admission.retained_of_ne {admission : Admission} {outcome : AdmissionOutcome}
    (h : outcome ≠ .succeeded) (key : String) : admission.retained outcome key = 0 := by
  have hnone : (admission.appliedCapacities.filter fun item ↦ ¬ item.returned outcome) = [] := by
    rw [List.filter_eq_nil_iff]
    intro item _ hitem
    rw [decide_eq_true_eq] at hitem
    refine hitem ?_
    rcases hrelease : item.release with _ | _
    · exact .inl hrelease
    · exact .inr ⟨h, hrelease⟩
  rw [Admission.retained, hnone]
  rfl

/-- No admission appears, and the excluded one is not touched. -/
def Keeps (excluded : Option String) (store store' : QuotaStore) : Prop :=
  ∀ id, store.admissions.get id = none ∨ excluded = some id →
    store'.admissions.get id = store.admissions.get id

theorem Keeps.trans {excluded : Option String} {store store' store'' : QuotaStore}
    (h : Keeps excluded store store') (h' : Keeps excluded store' store'') :
    Keeps excluded store store'' := by
  intro id hid
  rw [← h id hid]
  refine h' id ?_
  rcases hid with hid | hid
  · rw [h id (.inl hid)]
    exact .inl hid
  · exact .inr hid

/-- Overdue leases can be ended, which leaves what is free as it is. -/
theorem expireOverdue_spec {now : ℤ} {excluded : Option String} {admissions : List Admission} :
    ∀ {store : QuotaStore}, Sound store → Listed store admissions →
      ∃ store', expireOverdue now excluded admissions store = (.ok (), store') ∧
        Sound store' ∧ (∀ key, free store' key = free store key) ∧ Keeps excluded store store' := by
  induction admissions with
  | nil => exact fun {store} hsound _ ↦ ⟨store, rfl, hsound, fun _ ↦ rfl, fun _ _ ↦ rfl⟩
  | cons admission rest ih =>
    intro store hsound hlisted
    by_cases hdue : some admission.admissionId ≠ excluded ∧ admission.overdue now
    · have hget := hlisted.stored admission List.mem_cons_self
      obtain ⟨capacities, hfinish, hsound', hfree⟩ :=
        finishAdmission_spec hsound hget hdue.2.1 .expired now
      obtain ⟨store', hrest, hsound'', hfree', hkeeps⟩ :=
        ih hsound' (hlisted.tail_recorded capacities .expired now)
      refine ⟨store', ?_, hsound'', fun key ↦ ?_, Keeps.trans ?_ hkeeps⟩
      · rw [expireOverdue, if_pos hdue]
        exact (Throwing.bind_apply_ok hfinish).trans hrest
      · have hexpired : AdmissionOutcome.expired ≠ .succeeded := by decide
        rw [hfree', hfree, Admission.retained_of_ne hexpired, add_zero]
      · intro id hid
        refine InsertionMap.get_set_of_ne _ _ ?_
        rintro rfl
        rcases hid with hid | hid
        · rw [hget] at hid
          cases hid
        · exact hdue.1 hid.symm
    · obtain ⟨store', hrest, hspec⟩ := ih hsound hlisted.tail
      refine ⟨store', ?_, hspec⟩
      rw [expireOverdue, if_neg hdue]
      exact hrest

theorem sound_dropElapsed {store : QuotaStore} (h : Sound store) (now : ℤ) :
    Sound (dropElapsed now store) :=
  ⟨h.bounded, h.covered, h.ownIds, h.identifier, h.positive⟩

/-- **Cleaning up never throws**, and leaves what is free as it is. -/
theorem cleanup_spec {store : QuotaStore} (hsound : Sound store) (now : ℤ)
    (excluded : Option String) :
    ∃ store', cleanup now excluded store = (.ok (), store') ∧ Sound store' ∧
      (∀ key, free store' key = free store key) ∧ Keeps excluded store store' := by
  obtain ⟨store', hexpire, hsound', hfree, hkeeps⟩ :=
    @expireOverdue_spec now excluded _ _ hsound hsound.ownIds.listed
  refine ⟨dropElapsed now store', ?_, sound_dropElapsed hsound' now, hfree, hkeeps⟩
  exact Throwing.bind_apply_ok hexpire

/-! ## Admitting -/

theorem held_evict {store store' : QuotaStore} (h : Evict store store') (key : String) :
    held store' key = held store key := by
  obtain ⟨id, hended, rfl⟩ := h
  have herase := store.admissions.sum_map_values_erase id fun admission ↦ admission.held key
  have hzero : ((store.admissions.get id).map fun admission ↦ admission.held key).getD 0 = 0 := by
    rcases hget : store.admissions.get id with _ | admission
    · rfl
    · exact if_neg (hended admission hget)
  rw [hzero, add_zero] at herase
  exact herase

/-- Evicting does not change what is free. -/
theorem free_evictions {store store' : QuotaStore} (h : ReflTransGen Evict store store')
    (key : String) : free store' key = free store key := by
  have hheld : held store' key = held store key := by
    induction h with
    | refl => rfl
    | tail _ hlast ih => rw [held_evict hlast, ih]
  rw [free, free, hheld, (evicts_of_evictions h).capacities]

/-- What is written of the capacities: each bucket has what it had and the units of the request. -/
theorem setAll_nextCapacities {start : InsertionMap String CapacityBucket} {tenantId : String}
    {items : List CapacityReservation} :
    ∀ {current : InsertionMap String CapacityBucket} {next : List (String × CapacityBucket)},
      GoodCapacities tenantId items → nextCapacities start tenantId items = some next →
      (∀ item ∈ items, current.get (item.key tenantId) = start.get (item.key tenantId)) →
      Bounded current →
      Bounded (setAll current next) ∧
        ∀ key, usedIn (setAll current next) key =
          usedIn current key + capacityUnits tenantId items key := by
  induction items with
  | nil =>
    intro current next _ hnext _ hbounded
    obtain rfl := Option.some.inj hnext
    exact ⟨hbounded, fun key ↦ (add_zero _).symm⟩
  | cons item rest ih =>
    intro current next hgood hnext hcurrent hbounded
    have hnodup := hgood.nodup
    rw [List.map_cons, List.nodup_cons] at hnodup
    have hitem := hcurrent item List.mem_cons_self
    have hunits := hgood.positive item List.mem_cons_self
    have hused : ((start.get (item.key tenantId)).map CapacityBucket.used).getD 0 =
        usedIn current (item.key tenantId) := by
      rw [usedIn, hitem]
    have hnonneg := usedIn_nonneg hbounded (item.key tenantId)
    have hsum : ∀ key, capacityUnits tenantId (item :: rest) key =
        (if item.key tenantId = key then item.units else 0) + capacityUnits tenantId rest key :=
      unitsUnder_cons _ _ item rest
    have hrest : GoodCapacities tenantId rest :=
      ⟨fun r hr ↦ hgood.positive r (List.mem_cons_of_mem _ hr), hnodup.2⟩
    -- the rest looks at other buckets
    have hcurrent' : ∀ bucket, ∀ r ∈ rest,
        (current.set (item.key tenantId) bucket).get (r.key tenantId) =
          start.get (r.key tenantId) := by
      intro bucket r hr
      rw [InsertionMap.get_set_of_ne]
      · exact hcurrent r (List.mem_cons_of_mem _ hr)
      · exact fun heq ↦ hnodup.1 (heq ▸ List.mem_map_of_mem hr)
    have hbucket : ∀ (bucket : CapacityBucket) (others : List (String × CapacityBucket)),
        nextCapacities start tenantId rest = some others →
        bucket.used = usedIn current (item.key tenantId) + item.units →
        bucket.used ≤ bucket.limit →
        Bounded (setAll (current.set (item.key tenantId) bucket) others) ∧
          ∀ key, usedIn (setAll (current.set (item.key tenantId) bucket) others) key =
            usedIn current key + capacityUnits tenantId (item :: rest) key := by
      intro bucket others hothers hbucketUsed hlimit
      have hset : Bounded (current.set (item.key tenantId) bucket) := by
        intro key bucket' hget
        rw [InsertionMap.get_set] at hget
        split at hget
        · obtain rfl := Option.some.inj hget
          exact ⟨by omega, hlimit⟩
        · exact hbounded key bucket' hget
      obtain ⟨hbounded', hused'⟩ := ih hrest hothers (hcurrent' bucket) hset
      refine ⟨hbounded', fun key ↦ ?_⟩
      rw [hused', hsum, usedIn, InsertionMap.get_set]
      by_cases hkey : key = item.key tenantId
      · rw [if_pos hkey, if_pos hkey.symm, Option.map_some, Option.getD_some, hbucketUsed, hkey,
          add_assoc]
      · rw [if_neg hkey, if_neg (Ne.symm hkey), zero_add, usedIn]
    rw [nextCapacities] at hnext
    split at hnext
    · cases hnext
    · rename_i hlimit
      simp only [Option.bind_eq_bind, Option.bind_eq_some_iff, Option.some.injEq] at hnext
      obtain ⟨others, hothers, rfl⟩ := hnext
      rw [setAll_cons]
      exact hbucket _ others hothers (by rw [hused]) (not_lt.1 hlimit)

theorem sound_evictions {store store' : QuotaStore} (h : ReflTransGen Evict store store')
    (hsound : Sound store) : Sound store' := by
  have hevicts := evicts_of_evictions h
  refine ⟨?_, fun key ↦ ?_, fun id admission hget ↦ ?_, fun id admission hget ↦ ?_,
    fun id admission hget ↦ ?_⟩
  · rw [hevicts.capacities]
    exact hsound.bounded
  · rw [free_evictions h]
    exact hsound.covered key
  · exact hsound.ownIds id admission (hevicts.stored id admission hget)
  · exact hsound.identifier id admission (hevicts.stored id admission hget)
  · exact hsound.positive id admission (hevicts.stored id admission hget)

/-- A request that is written takes what it holds, under an identifier that is not in use. -/
theorem write_spec {store : QuotaStore} (hsound : Sound store) {request : QuotaStoreRequest}
    {plan : Plan} (now : ℤ) (hidentifier : isIdentifier request.admissionId = true)
    (hfresh : store.admissions.get request.admissionId = none)
    (hgood : GoodCapacities request.tenantId plan.appliedCapacities)
    (hnext : nextCapacities store.capacities request.tenantId plan.appliedCapacities =
      some plan.nextCapacities) :
    Sound (plan.write request now store) ∧
      ∀ key, free (plan.write request now store) key = free store key := by
  obtain ⟨hbounded, hused⟩ :=
    setAll_nextCapacities hgood hnext (fun _ _ ↦ rfl) hsound.bounded
  have hfree : ∀ key, free (plan.write request now store) key = free store key := by
    intro key
    have hset := held_set store.admissions request.admissionId (plan.admission request now) key
    rw [hfresh, Option.map_none, Option.getD_none, add_zero] at hset
    have hheld : (plan.admission request now).held key =
        capacityUnits request.tenantId plan.appliedCapacities key := if_pos rfl
    show usedIn (setAll store.capacities plan.nextCapacities) key -
      ((store.admissions.set request.admissionId (plan.admission request now)).values.map
        fun admission ↦ admission.held key).sum = _
    rw [hused, free, held]
    omega
  refine ⟨⟨hbounded, fun key ↦ ?_, fun id admission hget ↦ ?_, fun id admission hget ↦ ?_,
    fun id admission hget ↦ ?_⟩, hfree⟩
  · rw [hfree]
    exact hsound.covered key
  · rw [Plan.write, InsertionMap.get_set] at hget
    split at hget
    · rename_i hid
      obtain rfl := Option.some.inj hget
      exact hid.symm
    · exact hsound.ownIds id admission hget
  · rw [Plan.write, InsertionMap.get_set] at hget
    split at hget
    · rename_i hid
      exact hid ▸ hidentifier
    · exact hsound.identifier id admission hget
  · rw [Plan.write, InsertionMap.get_set] at hget
    split at hget
    · obtain rfl := Option.some.inj hget
      exact hgood.positive
    · exact hsound.positive id admission hget

/-! ## The methods -/

theorem Sound.at {store : QuotaStore} (h : Sound store) (timestamp : ℤ) :
    Sound (store.at timestamp) :=
  ⟨h.bounded, h.covered, h.ownIds, h.identifier, h.positive⟩

/-- A store that is sound, and where what is free is as in another one. -/
def SoundAs (store store' : QuotaStore) : Prop :=
  Sound store' ∧ ∀ key, free store' key = free store key

theorem assertQuotaStoreRequest_admissionId {request : QuotaStoreRequest} {u : Unit}
    (h : assertQuotaStoreRequest request = .ok u) : isIdentifier request.admissionId = true := by
  simp only [assertQuotaStoreRequest, assertAbuseIdentifier, bind_eq_ok, invalidInput_eq_ok,
    Bool.not_eq_false] at h
  obtain ⟨_, hid, _⟩ := h
  exact hid

theorem admit_left {store : QuotaStore} (hsound : Sound store) {request : QuotaStoreRequest}
    (maxEntries : ℕ) (now : ℤ) (hvalid : assertQuotaStoreRequest request = .ok ())
    (hfresh : store.admissions.get request.admissionId = none) :
    SoundAs store (admitReservation maxEntries request now store).2 := by
  obtain ⟨store', hevictions, hcases⟩ := admit_cases store request maxEntries now
  have hsound' := sound_evictions hevictions hsound
  rcases hcases with ⟨error, hadmitted⟩ | ⟨rfl, reason, hadmitted, -⟩ | ⟨plan, hplan, hadmitted⟩
  · rw [hadmitted]
    exact ⟨hsound', free_evictions hevictions⟩
  · rw [hadmitted]
    exact ⟨hsound, fun _ ↦ rfl⟩
  · rw [hadmitted]
    obtain ⟨happlied, hnext, -⟩ := plan_ok hplan
    have hevicts := evicts_of_evictions hevictions
    have hfresh' : store'.admissions.get request.admissionId = none := by
      rcases hget : store'.admissions.get request.admissionId with _ | admission
      · rfl
      · rw [hevicts.stored _ _ hget] at hfresh
        cases hfresh
    have hgood : GoodCapacities request.tenantId plan.appliedCapacities := by
      rw [happlied]
      exact (assertQuotaStoreRequest_capacities hvalid).filter _
    rw [← hevicts.capacities] at hnext
    obtain ⟨hwritten, hfree⟩ := write_spec hsound' now
      (assertQuotaStoreRequest_admissionId hvalid) hfresh' hgood hnext
    exact ⟨hwritten, fun key ↦ (hfree key).trans (free_evictions hevictions key)⟩

/-- A request that is answered, denied or refused leaves what is free as it is. -/
theorem reserve_left {store : QuotaStore} (hsound : Sound store) (maxEntries : ℕ)
    (clock : Option ℤ) {request : QuotaStoreRequest}
    (hfresh : store.admissions.get request.admissionId = none) :
    SoundAs store (reserve maxEntries clock request store).2 := by
  rcases clock with _ | timestamp
  · exact ⟨hsound, fun _ ↦ rfl⟩
  · obtain ⟨store', hcleanup, hsound', hfree, hkeeps⟩ :=
      cleanup_spec (hsound.at timestamp) (store.at timestamp).lastNow none
    rw [reserve_some, Throwing.bind_apply_ok hcleanup]
    refine Throwing.left_lift_bind (SoundAs store) ⟨hsound', hfree⟩ fun _ hvalid ↦ ?_
    have hfresh' : store'.admissions.get request.admissionId = none := by
      rw [hkeeps _ (.inl hfresh)]
      exact hfresh
    obtain ⟨hsound'', hfree'⟩ := admit_left hsound' maxEntries _ hvalid hfresh'
    exact ⟨hsound'', fun key ↦ (hfree' key).trans (hfree key)⟩

/-- A pending admission can be finished: what it keeps becomes free. -/
theorem complete_pending {store : QuotaStore} (hsound : Sound store) {input : FinishInput}
    {admission : Admission} (hget : store.admissions.get input.admissionId = some admission)
    (htenant : admission.tenantId = input.tenantId) (hpending : admission.state = .pending)
    (now : ℤ) :
    ∃ state store', complete input now store = (.ok state, store') ∧ Sound store' ∧
      ∀ key, free store' key = free store key + admission.retained input.outcome key := by
  have hid := hsound.ownIds _ _ hget
  obtain ⟨capacities, hfinish, hsound', hfree⟩ :=
    finishAdmission_spec hsound (by rw [hid]; exact hget) hpending input.outcome now
  refine ⟨(admission.ended input.outcome now).state, _, ?_, hsound', hfree⟩
  simp only [complete, Throwing.bind_apply, Throwing.get_apply, hget, Option.filter_some, htenant,
    decide_true, if_true, hpending, ne_eq, not_true, if_false, hfinish]
  rfl

/-- Otherwise nothing is changed. -/
theorem complete_other {store : QuotaStore} {input : FinishInput}
    (h : ∀ admission, store.admissions.get input.admissionId = some admission →
      admission.tenantId = input.tenantId → admission.state ≠ .pending) (now : ℤ) :
    (complete input now store).2 = store := by
  rcases hget : (store.admissions.get input.admissionId).filter
      (fun admission ↦ admission.tenantId = input.tenantId) with _ | admission
  · simp only [complete, Throwing.bind_apply, Throwing.get_apply, hget, Throwing.lift_apply]
  · obtain ⟨hstored, htenant⟩ := Option.filter_eq_some_iff.1 hget
    have hended := h admission hstored (of_decide_eq_true htenant)
    simp only [complete, Throwing.bind_apply, Throwing.get_apply, hget, if_pos hended]
    rfl

/-- **A pending admission can be finished at any time**, and what it keeps becomes free. -/
theorem finish_pending {store : QuotaStore} (hsound : Sound store) {input : FinishInput}
    {admission : Admission} (h : finishable store input = some admission) (timestamp : ℤ) :
    ∃ state store', finish (some timestamp) input store = (.ok state, store') ∧ Sound store' ∧
      ∀ key, free store' key = free store key + admission.retained input.outcome key := by
  rw [finishable, Option.filter_eq_some_iff, decide_eq_true_eq] at h
  obtain ⟨hget, htenant, hpending⟩ := h
  obtain ⟨store', hcleanup, hsound', hfree, hkeeps⟩ :=
    cleanup_spec (hsound.at timestamp) (store.at timestamp).lastNow (some input.admissionId)
  have hget' : store'.admissions.get input.admissionId = some admission := by
    rw [hkeeps _ (.inr rfl)]
    exact hget
  obtain ⟨state, store'', hcomplete, hsound'', hfree'⟩ :=
    complete_pending hsound' hget' htenant hpending (store.at timestamp).lastNow
  refine ⟨state, store'', ?_, hsound'', fun key ↦ ?_⟩
  · have hid : assertAbuseIdentifier "admissionId" input.admissionId = .ok () := by
      rw [assertAbuseIdentifier, invalidInput_eq_ok, hsound.identifier _ _ hget]
      exact nofun
    rw [finish_some, Throwing.bind_apply_ok hcleanup, hid]
    exact hcomplete
  · rw [hfree', hfree]
    rfl

theorem finish_other {store : QuotaStore} (hsound : Sound store) {input : FinishInput}
    (h : finishable store input = none) (clock : Option ℤ) :
    SoundAs store (finish clock input store).2 := by
  rcases clock with _ | timestamp
  · exact ⟨hsound, fun _ ↦ rfl⟩
  · obtain ⟨store', hcleanup, hsound', hfree, hkeeps⟩ :=
      cleanup_spec (hsound.at timestamp) (store.at timestamp).lastNow (some input.admissionId)
    rw [finish_some, Throwing.bind_apply_ok hcleanup]
    refine Throwing.left_lift_bind (SoundAs store) ⟨hsound', hfree⟩ fun _ _ ↦ ?_
    rw [complete_other]
    · exact ⟨hsound', hfree⟩
    · intro admission hget htenant hpending
      rw [hkeeps _ (.inr rfl)] at hget
      rw [finishable, Option.filter_eq_none_iff] at h
      exact h admission hget (decide_eq_true ⟨htenant, hpending⟩)

/-- What is given back by name, bucket by bucket. -/
def QuotaStoreRelease.units (input : QuotaStoreRelease) (key : String) : ℤ :=
  unitsUnder (ResourceRelease.key input.tenantId) ResourceRelease.units input.reservations key

/-- A release that passes its checks. -/
def accepted (store : QuotaStore) (input : QuotaStoreRelease) : Prop :=
  assertQuotaStoreRelease input = .ok () ∧
    assertReleasable store.capacities input.tenantId input.reservations = .ok ()

/-- A release of what is free goes through, and takes just that. -/
theorem release_accepted {store : QuotaStore} (hsound : Sound store) {input : QuotaStoreRelease}
    (haccepted : accepted store input)
    (hfree : ∀ reservation ∈ input.reservations,
      reservation.units ≤ free store (reservation.key input.tenantId)) (timestamp : ℤ) :
    ∃ store', release (some timestamp) input store = (.ok (), store') ∧ Sound store' ∧
      ∀ key, free store' key = free store key - input.units key := by
  obtain ⟨hvalid, hreleasable⟩ := haccepted
  have hreservations : assertReservations assertResourceRelease ResourceRelease.keyHash
      "resource release is duplicated" [] input.reservations = .ok () := by
    simp only [assertQuotaStoreRelease, bind_eq_ok] at hvalid
    obtain ⟨_, _, _, _, h⟩ := hvalid
    exact h
  obtain ⟨hchecks, hnodup, -⟩ := assertReservations_ok hreservations
  have hkeys : (input.reservations.map (ResourceRelease.key input.tenantId)).Nodup :=
    nodup_keys _ hnodup fun r hr ↦ (assertResourceRelease_ok (hchecks r hr)).1
  have hpositive : ∀ item ∈ input.reservations.map
      (fun item ↦ (item.key input.tenantId, item.units)), 0 < item.2 := by
    intro item hitem
    obtain ⟨reservation, hreservation, rfl⟩ := List.mem_map.1 hitem
    exact (assertResourceRelease_ok (hchecks reservation hreservation)).2
  have hle : ∀ key, input.units key ≤ free store key := by
    intro key
    by_cases hkey : key ∈ input.reservations.map (ResourceRelease.key input.tenantId)
    · obtain ⟨reservation, hreservation, rfl⟩ := List.mem_map.1 hkey
      rw [QuotaStoreRelease.units, unitsUnder_of_mem hkeys hreservation]
      exact hfree reservation hreservation
    · rw [QuotaStoreRelease.units, unitsUnder_of_notMem hkey]
      exact hsound.covered key
  have hheld : ∀ key, 0 ≤ held store key := by
    intro key
    refine List.sum_nonneg fun x hx ↦ ?_
    obtain ⟨admission, hadmission, rfl⟩ := List.mem_map.1 hx
    obtain ⟨id, hid⟩ := (InsertionMap.mem_values_iff _ _).1 hadmission
    exact Admission.held_nonneg key (hsound.positive id admission hid)
  obtain ⟨capacities, hrelease, hbounded, hused⟩ :=
    @decrementAll_spec _ hpositive (store.at timestamp) hsound.bounded (by
      intro key
      have hle := hle key
      have hheld := hheld key
      rw [unitsUnder_map]
      rw [free, QuotaStoreRelease.units] at hle
      show _ ≤ usedIn store.capacities key
      omega)
  have hfree' : ∀ key, free ((store.at timestamp).withCapacities capacities) key =
      free store key - input.units key := by
    intro key
    show usedIn capacities key - held store key = _
    rw [hused, unitsUnder_map, free, QuotaStoreRelease.units]
    show usedIn store.capacities key - _ - _ = _
    omega
  refine ⟨(store.at timestamp).withCapacities capacities, ?_,
    ⟨hbounded, fun key ↦ ?_, hsound.ownIds, hsound.identifier, hsound.positive⟩, hfree'⟩
  · rw [release_some, hvalid, hreleasable]
    rw [← releaseAll_eq] at hrelease
    exact hrelease
  · rw [hfree']
    have hle := hle key
    omega

theorem release_refused {store : QuotaStore} (hsound : Sound store) {input : QuotaStoreRelease}
    (h : ¬ accepted store input) (clock : Option ℤ) :
    (∃ error, (release clock input store).1 = .error error) ∧
      SoundAs store (release clock input store).2 := by
  rcases clock with _ | timestamp
  · exact ⟨⟨_, rfl⟩, hsound, fun _ ↦ rfl⟩
  · rw [release_some]
    rcases hvalid : assertQuotaStoreRelease input with error | u
    · exact ⟨⟨error, rfl⟩, hsound.at timestamp, fun _ ↦ rfl⟩
    · rcases hreleasable : assertReleasable store.capacities input.tenantId input.reservations
        with error | u
      · exact ⟨⟨error, rfl⟩, hsound.at timestamp, fun _ ↦ rfl⟩
      · exact absurd ⟨hvalid, hreleasable⟩ h

/-! ## Runs -/

/-- What an admission keeps that a call finishes with success. -/
def retainedBy (store : QuotaStore) (call : Call) (key : String) : ℤ :=
  match call with
  | .finish clock input =>
    match finish clock input store with
    | (.ok _, _) =>
      if input.outcome = .succeeded then
        ((finishable store input).map fun admission ↦ admission.retained .succeeded key).getD 0
      else 0
    | (.error _, _) => 0
  | _ => 0

/-- What a call releases by name. -/
def releasedBy (store : QuotaStore) (call : Call) (key : String) : ℤ :=
  match call with
  | .release clock input =>
    match release clock input store with
    | (.ok _, _) => input.units key
    | (.error _, _) => 0
  | _ => 0

/-- A release, if it passes its checks, asks for no more than what is free. -/
def ReleasesFree (store : QuotaStore) (call : Call) : Prop :=
  match call with
  | .release _ input => accepted store input → ∀ reservation ∈ input.reservations,
      reservation.units ≤ free store (reservation.key input.tenantId)
  | _ => True

/-- A request comes under an identifier that is not in use. -/
def FreshId (store : QuotaStore) (call : Call) : Prop :=
  match call with
  | .reserve _ request => store.admissions.get request.admissionId = none
  | _ => True

theorem finish_step {store : QuotaStore} (hsound : Sound store) (clock : Option ℤ)
    (input : FinishInput) :
    Sound (finish clock input store).2 ∧
      ∀ key, free (finish clock input store).2 key =
        free store key + retainedBy store (.finish clock input) key := by
  rcases hfinishable : finishable store input with _ | admission
  · obtain ⟨hsound', hfree⟩ := finish_other hsound hfinishable clock
    refine ⟨hsound', fun key ↦ ?_⟩
    have hzero : retainedBy store (.finish clock input) key = 0 := by
      simp only [retainedBy, hfinishable, Option.map_none, Option.getD_none, ite_self]
      split <;> rfl
    rw [hfree, hzero, add_zero]
  · rcases clock with _ | timestamp
    · exact ⟨hsound, fun _ ↦ (add_zero _).symm⟩
    · obtain ⟨state, store', hfinish, hsound', hfree⟩ :=
        finish_pending hsound hfinishable timestamp
      have hkept : ∀ key, retainedBy store (.finish (some timestamp) input) key =
          admission.retained input.outcome key := by
        intro key
        simp only [retainedBy, hfinish, hfinishable, Option.map_some, Option.getD_some]
        split
        · rename_i houtcome
          rw [houtcome]
        · rename_i houtcome
          rw [Admission.retained_of_ne houtcome]
      rw [hfinish]
      exact ⟨hsound', fun key ↦ by rw [hkept]; exact hfree key⟩

theorem release_step {store : QuotaStore} (hsound : Sound store) {clock : Option ℤ}
    {input : QuotaStoreRelease} (hfree : ReleasesFree store (.release clock input)) :
    Sound (release clock input store).2 ∧
      ∀ key, free (release clock input store).2 key =
        free store key - releasedBy store (.release clock input) key := by
  by_cases haccepted : accepted store input
  · rcases clock with _ | timestamp
    · exact ⟨hsound, fun _ ↦ (sub_zero _).symm⟩
    · obtain ⟨store', hrelease, hsound', hfree'⟩ :=
        release_accepted hsound haccepted (hfree haccepted) timestamp
      have hunits : ∀ key, releasedBy store (.release (some timestamp) input) key =
          input.units key := fun key ↦ by
        simp only [releasedBy, hrelease]
      rw [hrelease]
      exact ⟨hsound', fun key ↦ by rw [hunits]; exact hfree' key⟩
  · obtain ⟨⟨error, herror⟩, hsound', hfree'⟩ := release_refused hsound haccepted clock
    refine ⟨hsound', fun key ↦ ?_⟩
    have hzero : releasedBy store (.release clock input) key = 0 := by
      simp only [releasedBy]
      split
      · rename_i hok
        rw [hok] at herror
        cases herror
      · rfl
    rw [hfree', hzero, sub_zero]

/-- **What a call does to what is free.** -/
theorem step_free {store : QuotaStore} (hsound : Sound store) {call : Call} (maxEntries : ℕ)
    (hfresh : FreshId store call) (hfree : ReleasesFree store call) :
    Sound (step maxEntries store call) ∧
      ∀ key, free (step maxEntries store call) key =
        free store key + retainedBy store call key - releasedBy store call key := by
  cases call with
  | reserve clock request =>
    obtain ⟨hsound', hfree'⟩ := reserve_left hsound maxEntries clock hfresh
    refine ⟨hsound', fun key ↦ ?_⟩
    show _ = free store key + 0 - 0
    rw [add_zero, sub_zero]
    exact hfree' key
  | finish clock input =>
    obtain ⟨hsound', hfree'⟩ := finish_step hsound clock input
    refine ⟨hsound', fun key ↦ ?_⟩
    show _ = free store key + _ - 0
    rw [sub_zero]
    exact hfree' key
  | release clock input =>
    obtain ⟨hsound', hfree'⟩ := release_step hsound hfree
    refine ⟨hsound', fun key ↦ ?_⟩
    show _ = free store key + 0 - _
    rw [add_zero]
    exact hfree' key

/-- Units are where they should be: every bucket has what pending admissions hold and what was
retained and not released, within its limit, and every pending admission can be ended. -/
structure Conserved (store : QuotaStore) (retained released : String → ℤ) : Prop where
  used : ∀ key, usedIn store.capacities key = held store key + retained key - released key
  within : ∀ key bucket, store.capacities.get key = some bucket →
    0 ≤ bucket.used ∧ bucket.used ≤ bucket.limit
  finish : ∀ id admission, store.admissions.get id = some admission → admission.state = .pending →
    ∀ timestamp outcome, ∃ state,
      (AbuseControl.finish (some timestamp)
        { admissionId := id, tenantId := admission.tenantId, outcome } store).1 = .ok state
  cleanup : ∀ now excluded, (AbuseControl.cleanup now excluded store).1 = .ok ()

/-- What was retained or released of a bucket along a run. -/
def alongRun (maxEntries : ℕ) (added : QuotaStore → Call → String → ℤ) (calls : List Call)
    (key : String) : ℤ :=
  Run.total (step maxEntries) (fun store call ↦ added store call key) .new calls

theorem Sound.conserved {store : QuotaStore} (h : Sound store) {retained released : String → ℤ}
    (hfree : ∀ key, free store key = retained key - released key) :
    Conserved store retained released where
  used key := by
    have hfree := hfree key
    rw [free] at hfree
    omega
  within key bucket hget := ⟨(h.bounded key bucket hget).1.le, (h.bounded key bucket hget).2⟩
  finish id admission hget hpending timestamp outcome := by
    have hfinishable : finishable store
        { admissionId := id, tenantId := admission.tenantId, outcome } = some admission := by
      simp only [finishable, hget, Option.filter_some, hpending, and_self, decide_true, if_true]
    obtain ⟨state, store', hfinish, -⟩ := finish_pending h hfinishable timestamp
    exact ⟨state, by rw [hfinish]⟩
  cleanup now excluded := by
    obtain ⟨store', hcleanup, -⟩ := cleanup_spec h now excluded
    rw [hcleanup]

/-- What holds at the end of a run whose releases ask for what is free only. -/
structure Accounted (maxEntries : ℕ) (calls : List Call) : Prop where
  sound : Sound (Run.run (step maxEntries) .new calls)
  free : ∀ key, AbuseControl.free (Run.run (step maxEntries) .new calls) key =
    alongRun maxEntries retainedBy calls key - alongRun maxEntries releasedBy calls key
  ids : ∀ id, id ∉ admissionIds calls →
    (Run.run (step maxEntries) .new calls).admissions.get id = none

theorem accounted_append {maxEntries : ℕ} {past : List Call} {call : Call}
    (h : Accounted maxEntries past)
    (hids : ∀ request, call.request = some request → request.admissionId ∉ admissionIds past)
    (hfree : ReleasesFree (Run.run (step maxEntries) .new past) call) :
    Accounted maxEntries (past ++ [call]) := by
  have hfresh : FreshId (Run.run (step maxEntries) .new past) call := by
    cases call with
    | reserve clock request => exact h.ids _ (hids request rfl)
    | finish => trivial
    | release => trivial
  have hrun : Run.run (step maxEntries) .new (past ++ [call]) =
      step maxEntries (Run.run (step maxEntries) .new past) call := Run.run_append ..
  obtain ⟨hsound, hstep⟩ := step_free h.sound maxEntries hfresh hfree
  refine ⟨hrun ▸ hsound, fun key ↦ ?_, fun id hid ↦ ?_⟩
  · have htotal : ∀ added : QuotaStore → Call → String → ℤ,
        alongRun maxEntries added (past ++ [call]) key = alongRun maxEntries added past key +
          added (Run.run (step maxEntries) .new past) call key := by
      intro added
      rw [alongRun, Run.total_append, Run.total, Run.total, add_zero]
      rfl
    rw [hrun, hstep, h.free, htotal, htotal]
    omega
  · have hids' : admissionIds (past ++ [call]) = admissionIds past ++ admissionIds [call] :=
      List.filterMap_append
    rw [hids', List.mem_append, not_or] at hid
    rw [hrun]
    refine stored_step h.sound.ownIds maxEntries call (h.ids id hid.1) fun request hrequest heq ↦ ?_
    refine hid.2 ?_
    rw [admissionIds, List.mem_filterMap]
    exact ⟨call, List.mem_singleton_self _, by rw [hrequest, Option.map_some, heq]⟩

/-- **Capacity is conserved** in every run of requests under distinct identifiers in which no
release asks for units that pending admissions hold. -/
theorem capacity_conserved (maxEntries : ℕ) (calls : List Call) (hids : (admissionIds calls).Nodup)
    (hfree : Run.Steps (step maxEntries) ReleasesFree .new calls) :
    Conserved (Run.run (step maxEntries) .new calls) (alongRun maxEntries retainedBy calls)
      (alongRun maxEntries releasedBy calls) := by
  have haccounted : (admissionIds calls).Nodup → Accounted maxEntries calls := by
    refine Run.history_induct (P := fun calls ↦ (admissionIds calls).Nodup →
      Accounted maxEntries calls) ?_ ?_ calls hfree
    · exact fun _ ↦ ⟨sound_new, fun _ ↦ rfl, fun _ _ ↦ rfl⟩
    · intro past call ih hcall hnodup
      have hids' : admissionIds (past ++ [call]) = admissionIds past ++ admissionIds [call] :=
        List.filterMap_append
      rw [hids', List.nodup_append] at hnodup
      refine accounted_append (ih hnodup.1) (fun request hrequest hmem ↦ ?_) hcall
      refine hnodup.2.2 _ hmem request.admissionId ?_ rfl
      rw [admissionIds, List.mem_filterMap]
      exact ⟨call, List.mem_singleton_self _, by rw [hrequest, Option.map_some]⟩
  have h := haccounted hids
  exact h.sound.conserved h.free

/-- A request for one unit of one bucket, which is kept if it succeeds. -/
def oneUnit (admissionId : String) : QuotaStoreRequest where
  admissionId
  tenantId := "tenant-1"
  operationId := "operation-1"
  quotaClass := "economic"
  policyVersion := "v1"
  rateReservations :=
    [{ keyHash := "0x0000000000000000000000000000000000000000000000000000000000000001"
       dimension := "tenant", windowMs := 60000, limit := 10, units := 1
       commandScoped := false, partition := .tenant }]
  capacityReservations :=
    [{ keyHash := "0x0000000000000000000000000000000000000000000000000000000000000002"
       kind := "open_obligations", limit := 10, units := 1, release := .onFailure
       commandScoped := true, partition := .tenant }]
  leaseMs := 1000

/-- The release of that unit. -/
def oneUnitReleased : QuotaStoreRelease where
  tenantId := "tenant-1"
  reservations :=
    [{ keyHash := "0x0000000000000000000000000000000000000000000000000000000000000002"
       kind := "open_obligations", units := 1 }]

/-- The unit is released after its admission has succeeded. -/
def releasedAfterSuccess : List Call :=
  [.reserve (some 1) (oneUnit "admission-1"),
    .finish (some 2)
      { admissionId := "admission-1", tenantId := "tenant-1", outcome := .succeeded },
    .release (some 3) oneUnitReleased]

theorem capacity_conserved_released :
    Run.Steps (step 100) ReleasesFree .new releasedAfterSuccess ∧
      Conserved (Run.run (step 100) .new releasedAfterSuccess)
        (alongRun 100 retainedBy releasedAfterSuccess)
        (alongRun 100 releasedBy releasedAfterSuccess) := by
  have hsteps : Run.Steps (step 100) ReleasesFree .new releasedAfterSuccess := by
    refine ⟨trivial, trivial, fun _ reservation hreservation ↦ ?_, trivial⟩
    obtain rfl := List.mem_singleton.1 hreservation
    decide +kernel
  exact ⟨hsteps, capacity_conserved 100 releasedAfterSuccess (by decide +kernel) hsteps⟩

/-- The unit is released while its admission is pending. -/
def releasedWhilePending : List Call :=
  [.reserve (some 1) (oneUnit "admission-1"), .release (some 2) oneUnitReleased]

/-- **Released while pending, a unit is gone** when the lease runs out, and cleaning up throws. -/
theorem not_conserved_releasedWhilePending :
    (admissionIds releasedWhilePending).Nodup ∧
      assertQuotaStoreRequest (oneUnit "admission-1") = .ok () ∧
      assertQuotaStoreRelease oneUnitReleased = .ok () ∧
      ¬ Conserved (Run.run (step 100) .new releasedWhilePending)
        (alongRun 100 retainedBy releasedWhilePending)
        (alongRun 100 releasedBy releasedWhilePending) := by
  refine ⟨by decide +kernel, by decide +kernel, by decide +kernel, fun h ↦ ?_⟩
  have hcleanup := h.cleanup 1001 none
  revert hcleanup
  decide +kernel

end AbuseControl
end IpoOne
