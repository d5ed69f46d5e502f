import IpoOne.AbuseControl.Capacity
import IpoOne.AbuseControl.Commands

/-!
# Rates, and what a denial leaves alone

A rate is counted in the window of its bucket.  If all requests for a bucket carry one limit and one
length of window, then the bucket's window is the one that the store's time is in, or is over, and
what it has counted is what was admitted in that window (`Counts`).

A request that is denied leaves the store as the cleanup left it.  The cleanup ends the leases that
are overdue, and it drops the windows and the charges of ended commands whose time is over
(`OnlyExpires`).
-/

set_option autoImplicit false

namespace IpoOne
namespace AbuseControl

open Fallible
open Throwing (get modify lift)
open Relation (ReflTransGen)

variable {requested : Option QuotaStoreRequest}

/-! ## Rates -/

/-- The start of the window of a length that a time is in. -/
def windowStart (windowMs now : ℤ) : ℤ := now / windowMs * windowMs

theorem windowStart_mono {windowMs now now' : ℤ} (hpos : 0 < windowMs) (h : now ≤ now') :
    windowStart windowMs now ≤ windowStart windowMs now' :=
  Int.mul_le_mul_of_nonneg_right (Int.ediv_le_ediv hpos h) hpos.le

theorem lt_windowStart_add {windowMs : ℤ} (hpos : 0 < windowMs) (now : ℤ) :
    now < windowStart windowMs now + windowMs := by
  have h := Int.lt_ediv_add_one_mul_self now hpos
  rw [add_mul, one_mul] at h
  exact h

/-- What the window of a bucket has counted, if it starts then. -/
def countedIn (rates : InsertionMap String RateWindow) (key : String) (windowStartedAt : ℤ) : ℤ :=
  ((currentWindow rates key windowStartedAt).map RateWindow.used).getD 0

/-- The units that a request counts in a window of a bucket. -/
def countedUnits (request : QuotaStoreRequest) (replayed : Bool) (now : ℤ) (key : String)
    (windowStartedAt : ℤ) : ℤ :=
  unitsUnder (RateReservation.key request.tenantId) RateReservation.units
    ((request.rateReservations.filter fun item ↦ !item.commandScoped || !replayed).filter
      fun item ↦ item.windowStartedAt now = windowStartedAt) key

/-- The units that a call admits in a window of a bucket. -/
def admittedUnits (maxEntries : ℕ) (key : String) (windowStartedAt : ℤ) (store : QuotaStore)
    (call : Call) : ℤ :=
  match call with
  | .reserve clock request =>
    match reserve maxEntries clock request store with
    | (.ok (.admitted replayed issuedAt _), _) =>
      countedUnits request replayed issuedAt key windowStartedAt
    | _ => 0
  | _ => 0

/-- All rates that are asked for in a bucket have one limit and one length of window. -/
def Uniform (key : String) (limit windowMs : ℤ) (call : Call) : Prop :=
  ∀ request, call.request = some request → ∀ reservation ∈ request.rateReservations,
    reservation.key request.tenantId = key →
      reservation.limit = limit ∧ reservation.windowMs = windowMs

/-- The window of a bucket has counted what was admitted in it, and no window admitted more than the
limit. -/
structure Counts (key : String) (limit windowMs : ℤ) (admitted : ℤ → ℤ) (store : QuotaStore) :
    Prop where
  window : ∀ window, store.rates.get key = some window →
    window.windowStartedAt ≤ windowStart windowMs store.lastNow ∧
      window.expiresAt = window.windowStartedAt + windowMs
  within : ∀ windowStartedAt, admitted windowStartedAt ≤ limit
  later : ∀ windowStartedAt, windowStart windowMs store.lastNow < windowStartedAt →
    admitted windowStartedAt = 0
  counted : countedIn store.rates key (windowStart windowMs store.lastNow) =
    admitted (windowStart windowMs store.lastNow)

section Counts

variable {key : String} {limit windowMs : ℤ} {admitted : ℤ → ℤ} {store store' : QuotaStore}

theorem counts_new (hlimit : 0 ≤ limit) : Counts key limit windowMs (fun _ ↦ 0) .new where
  window := by rintro _ ⟨⟩
  within _ := hlimit
  later _ _ := rfl
  counted := rfl

/-- In a later window nothing was counted yet. -/
theorem Counts.at (hpos : 0 < windowMs) (h : Counts key limit windowMs admitted store)
    (timestamp : ℤ) : Counts key limit windowMs admitted (store.at timestamp) := by
  have hmono : windowStart windowMs store.lastNow ≤
      windowStart windowMs (store.at timestamp).lastNow := windowStart_mono hpos (le_max_left ..)
  refine ⟨fun window hget ↦ ?_, h.within, fun start hstart ↦ ?_, ?_⟩
  · obtain ⟨hstarted, hexpires⟩ := h.window window hget
    exact ⟨hstarted.trans hmono, hexpires⟩
  · exact h.later start (lt_of_le_of_lt hmono hstart)
  · rcases hmono.eq_or_lt with heq | hlt
    · rw [← heq]
      exact h.counted
    · rw [h.later _ hlt, countedIn, currentWindow]
      rcases hget : (store.at timestamp).rates.get key with _ | window
      · rfl
      · have hstarted := (h.window window hget).1
        rw [Option.filter_some, if_neg]
        · rfl
        · rw [decide_eq_true_eq]
          omega

/-- What keeps the windows keeps the count. -/
theorem Counts.of_rates_eq (h : Counts key limit windowMs admitted store)
    (hrates : store'.rates.get key = store.rates.get key) (hnow : store'.lastNow = store.lastNow) :
    Counts key limit windowMs admitted store' := by
  refine ⟨fun window hget ↦ ?_, h.within, fun start hstart ↦ ?_, ?_⟩
  · rw [hrates] at hget
    rw [hnow]
    exact h.window window hget
  · rw [hnow] at hstart
    exact h.later start hstart
  · rw [hnow, ← h.counted, countedIn, countedIn, currentWindow, currentWindow, hrates]

/-- A window that is not over is not dropped. -/
theorem Counts.elapsed (hpos : 0 < windowMs) (h : Counts key limit windowMs admitted store) :
    Counts key limit windowMs admitted (dropElapsed store.lastNow store) := by
  have hrates : (dropElapsed store.lastNow store).rates.get key =
      (store.rates.get key).filter fun value ↦ store.lastNow < value.expiresAt :=
    InsertionMap.get_filter ..
  refine ⟨fun window hget ↦ ?_, h.within, h.later, ?_⟩
  · rw [hrates, Option.filter_eq_some_iff] at hget
    exact h.window window hget.1
  · refine Eq.trans ?_ h.counted
    rw [countedIn, countedIn, currentWindow, currentWindow, hrates]
    show ((((store.rates.get key).filter _).filter fun current ↦
      current.windowStartedAt = windowStart windowMs store.lastNow).map RateWindow.used).getD 0 = _
    rcases hget : store.rates.get key with _ | window
    · rfl
    · obtain ⟨hstarted, hexpires⟩ := h.window window hget
      have hend := lt_windowStart_add hpos store.lastNow
      by_cases hcurrent : window.windowStartedAt = windowStart windowMs store.lastNow
      · have hlive : store.lastNow < window.expiresAt := by omega
        rw [Option.filter_some, if_pos (decide_eq_true hlive)]
      · have hnone : (some window).filter (fun current ↦
            current.windowStartedAt = windowStart windowMs store.lastNow) = none := by
          rw [Option.filter_some, if_neg (by simpa using hcurrent)]
        rw [hnone, Option.filter_some]
        split
        · rw [hnone]
        · rfl

theorem Counts.move (hpos : 0 < windowMs) (h : Counts key limit windowMs admitted store)
    (hmove : Move store.lastNow none store store') : Counts key limit windowMs admitted store' := by
  cases hmove with
  | buckets => exact h.of_rates_eq rfl rfl
  | ended => exact h.of_rates_eq rfl rfl
  | elapsed => exact h.elapsed hpos
  | evicted hevict =>
    obtain ⟨_, -, rfl⟩ := hevict
    exact h.of_rates_eq rfl rfl
  | admitted hrequest => cases hrequest

theorem Counts.moves (hpos : 0 < windowMs) {now : ℤ} (h : Counts key limit windowMs admitted store)
    (hnow : store.lastNow = now) (hmoves : Moves now none store store') :
    Counts key limit windowMs admitted store' ∧ store'.lastNow = now := by
  refine Moves.induct (P := fun s ↦ Counts key limit windowMs admitted s ∧ s.lastNow = now) hmoves
    ?_ ⟨h, hnow⟩
  rintro s s' ⟨hs, rfl⟩ hmove
  exact ⟨hs.move hpos hmove, lastNow_move hmove⟩

/-- What is written of a rate: its window has what it had and the units of the request. -/
theorem setAll_nextRates {rates : InsertionMap String RateWindow} {tenantId : String} {now : ℤ}
    {items : List RateReservation} :
    ∀ {next : List (String × RateWindow)} (map : InsertionMap String RateWindow),
      nextRates rates tenantId now items = some next →
      (items.map (RateReservation.key tenantId)).Nodup → ∀ item ∈ items,
      ∃ window, (setAll map next).get (item.key tenantId) = some window ∧
        window.windowStartedAt = item.windowStartedAt now ∧
        window.expiresAt = item.windowStartedAt now + item.windowMs ∧
        window.used =
          countedIn rates (item.key tenantId) (item.windowStartedAt now) + item.units ∧
        window.used ≤ item.limit := by
  induction items with
  | nil => exact fun _ _ _ item hitem ↦ by cases hitem
  | cons first rest ih =>
    intro next map hnext hnodup item hitem
    rw [List.map_cons, List.nodup_cons] at hnodup
    rw [nextRates] at hnext
    split at hnext
    · cases hnext
    · rename_i hlimit
      simp only [Option.bind_eq_bind, Option.bind_eq_some_iff, Option.some.injEq] at hnext
      obtain ⟨others, hothers, rfl⟩ := hnext
      rw [setAll_cons]
      rcases List.mem_cons.1 hitem with rfl | hitem
      · have hkeys : item.key tenantId ∉ others.map Prod.fst := by
          rw [keys_nextRates hothers]
          exact hnodup.1
        rw [setAll_get_of_notMem hkeys, InsertionMap.get_set_self]
        exact ⟨_, rfl, rfl, rfl, rfl, not_lt.1 hlimit⟩
      · exact ih _ hothers hnodup.2 item hitem

/-- A request that is admitted is counted. -/
theorem Counts.written (h : Counts key limit windowMs admitted store)
    {request : QuotaStoreRequest} {plan : Plan}
    (hvalid : assertQuotaStoreRequest request = .ok ())
    (huniform : ∀ reservation ∈ request.rateReservations,
      reservation.key request.tenantId = key →
        reservation.limit = limit ∧ reservation.windowMs = windowMs)
    (hplan : AbuseControl.plan store request store.lastNow = .ok plan) :
    Counts key limit windowMs
      (fun start ↦ admitted start + countedUnits request plan.replayed store.lastNow key start)
      (plan.write request store.lastNow store) := by
  obtain ⟨-, -, hrates⟩ := plan_ok hplan
  have hnodup : ((request.rateReservations.filter fun item ↦
      !item.commandScoped || !plan.replayed).map (RateReservation.key request.tenantId)).Nodup :=
    (nodup_rateKeys hvalid).sublist (List.filter_sublist.map _)
  by_cases hkey : key ∈ (request.rateReservations.filter fun item ↦
      !item.commandScoped || !plan.replayed).map (RateReservation.key request.tenantId)
  · obtain ⟨item, hitem, hitemKey⟩ := List.mem_map.1 hkey
    obtain ⟨hlimit, hwindow⟩ := huniform item (List.mem_of_mem_filter hitem) hitemKey
    have hstart : item.windowStartedAt store.lastNow = windowStart windowMs store.lastNow := by
      rw [RateReservation.windowStartedAt, hwindow, windowStart]
    obtain ⟨window, hget, hstarted, hexpires, hused, hle⟩ :=
      setAll_nextRates store.rates hrates hnodup item hitem
    rw [hitemKey] at hget hused
    rw [hstart] at hstarted hexpires hused
    rw [hwindow] at hexpires
    rw [hlimit, hused] at hle
    have hunits : ∀ start, countedUnits request plan.replayed store.lastNow key start =
        if start = windowStart windowMs store.lastNow then item.units else 0 := by
      intro start
      rw [countedUnits]
      split
      · rename_i heq
        rw [← hitemKey]
        refine unitsUnder_of_mem (hnodup.sublist (List.filter_sublist.map _)) ?_
        rw [List.mem_filter, decide_eq_true_eq, hstart]
        exact ⟨hitem, heq.symm⟩
      · rename_i hne
        refine unitsUnder_of_notMem fun hmem ↦ hne ?_
        obtain ⟨other, hother, hotherKey⟩ := List.mem_map.1 hmem
        rw [List.mem_filter, decide_eq_true_eq] at hother
        obtain rfl := List.inj_on_of_nodup_map hnodup hother.1 hitem (hotherKey.trans hitemKey.symm)
        rw [← hother.2, hstart]
    refine ⟨fun window' hget' ↦ ?_, fun start ↦ ?_, fun start hlater ↦ ?_, ?_⟩
    · have hget' : (setAll store.rates plan.nextRates).get key = some window' := hget'
      rw [hget] at hget'
      obtain rfl := Option.some.inj hget'
      exact ⟨hstarted.le, hstarted.symm ▸ hexpires⟩
    · simp only [hunits]
      split
      · rename_i heq
        rw [heq, ← h.counted]
        exact hle
      · rw [add_zero]
        exact h.within start
    · have hlater : windowStart windowMs store.lastNow < start := hlater
      simp only [hunits]
      rw [h.later start hlater, if_neg hlater.ne']
      rfl
    · show countedIn (setAll store.rates plan.nextRates) key (windowStart windowMs store.lastNow) =
        admitted (windowStart windowMs store.lastNow) + countedUnits request plan.replayed
          store.lastNow key (windowStart windowMs store.lastNow)
      rw [hunits, if_pos rfl, ← h.counted, countedIn, currentWindow, hget, Option.filter_some,
        if_pos (decide_eq_true hstarted)]
      exact hused
  · have hsame : (setAll store.rates plan.nextRates).get key = store.rates.get key := by
      refine setAll_get_of_notMem ?_ store.rates
      rw [keys_nextRates hrates]
      exact hkey
    have hnone : ∀ start, countedUnits request plan.replayed store.lastNow key start = 0 :=
      fun start ↦ unitsUnder_of_notMem fun hmem ↦ hkey (by
        obtain ⟨item, hitem, hitemKey⟩ := List.mem_map.1 hmem
        exact List.mem_map.2 ⟨item, List.mem_of_mem_filter hitem, hitemKey⟩)
    simp only [hnone, add_zero]
    exact h.of_rates_eq hsame rfl

/-- A call without a request counts nothing. -/
theorem Counts.step_of_none (hpos : 0 < windowMs) (h : Counts key limit windowMs admitted store)
    (hown : OwnIds store) (maxEntries : ℕ) {call : Call} (hcall : call.request = none) :
    Counts key limit windowMs admitted (step maxEntries store call) := by
  have hmoves := step_moves hown maxEntries call
  rcases hclock : call.clock with _ | timestamp
  · rw [hclock] at hmoves
    rw [hmoves]
    exact h
  · rw [hclock, hcall] at hmoves
    exact ((h.at hpos timestamp).moves hpos rfl hmoves).1

theorem Counts.step (hpos : 0 < windowMs) (h : Counts key limit windowMs admitted store)
    (hown : OwnIds store) (maxEntries : ℕ) {call : Call}
    (huniform : Uniform key limit windowMs call) :
    Counts key limit windowMs
      (fun start ↦ admitted start + admittedUnits maxEntries key start store call)
      (AbuseControl.step maxEntries store call) := by
  cases call with
  | reserve clock request =>
    rcases clock with _ | timestamp
    · have hnone : ∀ start, admittedUnits maxEntries key start store (.reserve none request) = 0 :=
        fun _ ↦ rfl
      simp only [hnone, add_zero]
      exact h
    · obtain ⟨store', hmoves, hcases⟩ := reserve_cases hown maxEntries timestamp request
      obtain ⟨hcounts, hnow⟩ := (h.at hpos timestamp).moves hpos rfl hmoves
      show Counts key limit windowMs _ (reserve maxEntries (some timestamp) request store).2
      rcases hcases with ⟨error, h'⟩ | ⟨-, reason, h'⟩ | ⟨plan, cleaned, -, -, hvalid, -, hplan, h'⟩
      · simp only [admittedUnits, h', add_zero]
        exact hcounts
      · simp only [admittedUnits, h', add_zero]
        exact hcounts
      · simp only [admittedUnits, h']
        rw [← hnow] at hplan ⊢
        exact hcounts.written hvalid (huniform request rfl) hplan
  | finish clock input =>
    have hnone : ∀ start, admittedUnits maxEntries key start store (.finish clock input) = 0 :=
      fun _ ↦ rfl
    simp only [hnone, add_zero]
    exact h.step_of_none hpos hown maxEntries rfl
  | release clock input =>
    have hnone : ∀ start, admittedUnits maxEntries key start store (.release clock input) = 0 :=
      fun _ ↦ rfl
    simp only [hnone, add_zero]
    exact h.step_of_none hpos hown maxEntries rfl

end Counts

/-- **A window admits no more than its limit**, if the requests for its bucket agree on both. -/
theorem counts_run {key : String} {limit windowMs : ℤ} (hlimit : 0 ≤ limit) (hpos : 0 < windowMs)
    (maxEntries : ℕ) (calls : List Call)
    (huniform : ∀ call ∈ calls, Uniform key limit windowMs call) :
    Counts key limit windowMs
      (fun start ↦ Run.total (step maxEntries) (admittedUnits maxEntries key start) .new calls)
      (Run.run (step maxEntries) .new calls) := by
  induction calls using List.reverseRecOn with
  | nil => exact counts_new hlimit
  | append_singleton past call ih =>
    have hpast := ih fun c hc ↦ huniform c (List.mem_append_left _ hc)
    have hcall := huniform call (List.mem_append_right _ (List.mem_singleton_self _))
    have hrun : Run.run (step maxEntries) .new (past ++ [call]) =
        step maxEntries (Run.run (step maxEntries) .new past) call := Run.run_append ..
    simp only [Run.total_append, Run.total, add_zero]
    rw [hrun]
    exact hpast.step hpos (charged_run maxEntries past).ownIds maxEntries hcall

/-! ## What a cleanup does -/

/-- What the overdue leases of a list hold of a bucket. -/
def overdueUnits (admissions : List Admission) (now : ℤ) (key : String) : ℤ :=
  ((admissions.filter fun admission ↦ admission.overdue now).map fun admission ↦
    admission.held key).sum

/-- The charge of a command whose lease is overdue. -/
def ChargedOverdue (admissions : List Admission) (now : ℤ) (key : String)
    (charge : Charge) : Prop :=
  ∃ admission ∈ admissions, admission.overdue now ∧ Charging admission key ∧
    charge.admissionId = admission.admissionId

/-- The end of the overdue leases of a list, and nothing else. -/
structure Expires (admissions : List Admission) (now : ℤ) (store store' : QuotaStore) : Prop where
  rates : store'.rates = store.rates
  used : ∀ key, usedIn store'.capacities key =
    usedIn store.capacities key - overdueUnits admissions now key
  bucket : ∀ key, (∀ admission ∈ admissions, admission.overdue now →
      ∀ reservation ∈ admission.appliedCapacities, reservation.key admission.tenantId ≠ key) →
    store'.capacities.get key = store.capacities.get key
  charge : ∀ key charge, store.charges.get key = some charge →
    ¬ ChargedOverdue admissions now key charge → store'.charges.get key = some charge
  failed : ∀ key charge, store.charges.get key = some charge →
    ChargedOverdue admissions now key charge → store'.charges.get key =
      some { charge with status := .failed, expiresAt := now + commandRetentionMs }
  noCharge : ∀ key, store.charges.get key = none → store'.charges.get key = none
  ended : ∀ admission ∈ admissions, admission.overdue now →
    store'.admissions.get admission.admissionId = some (admission.ended .expired now)
  kept : ∀ id, (∀ admission ∈ admissions, admission.overdue now → admission.admissionId ≠ id) →
    store'.admissions.get id = store.admissions.get id

theorem decrementCapacity_ok {key : String} {units : ℤ} {store store' : QuotaStore}
    (h : decrementCapacity key units store = (.ok (), store')) :
    (∀ key', usedIn store'.capacities key' =
        usedIn store.capacities key' - if key = key' then units else 0) ∧
      ∀ key', key' ≠ key → store'.capacities.get key' = store.capacities.get key' := by
  rcases hget : store.capacities.get key with _ | current
  · simp only [decrementCapacity, Throwing.bind_apply, Throwing.get_apply, hget] at h
    cases h
  · simp only [decrementCapacity, Throwing.bind_apply, Throwing.get_apply, hget] at h
    obtain rfl := (Prod.mk.inj h).2
    have hother : ∀ key', key' ≠ key →
        (if current.used - units = 0 then store.capacities.erase key
          else store.capacities.set key { current with used := current.used - units }).get key' =
        store.capacities.get key' := by
      intro key' hne
      split
      · rw [InsertionMap.get_erase, if_neg hne]
      · rw [InsertionMap.get_set_of_ne _ _ hne]
    refine ⟨fun key' ↦ ?_, hother⟩
    by_cases hkey : key = key'
    · obtain rfl := hkey
      rw [if_pos rfl]
      simp only [usedIn, hget, Option.map_some, Option.getD_some]
      split
      · rw [InsertionMap.get_erase, if_pos rfl]
        rename_i hzero
        exact hzero.symm
      · rw [InsertionMap.get_set_self]
        rfl
    · rw [if_neg hkey, sub_zero, usedIn, usedIn]
      exact congrArg (fun bucket ↦ (bucket.map CapacityBucket.used).getD 0)
        (hother key' (Ne.symm hkey))

theorem decrementAll_ok {items : List (String × ℤ)} :
    ∀ {store store' : QuotaStore}, decrementAll items store = (.ok (), store') →
      (∀ key, usedIn store'.capacities key =
          usedIn store.capacities key - unitsUnder Prod.fst Prod.snd items key) ∧
        ∀ key, key ∉ items.map Prod.fst →
          store'.capacities.get key = store.capacities.get key := by
  induction items with
  | nil =>
    intro store store' h
    obtain rfl := (Prod.mk.inj h).2
    exact ⟨fun _ ↦ (sub_zero _).symm, fun _ _ ↦ rfl⟩
  | cons item rest ih =>
    intro store store' h
    rw [decrementAll, Throwing.bind_eq_return] at h
    obtain ⟨_, middle, hfirst, hrest⟩ := h
    obtain ⟨hused, hget⟩ := decrementCapacity_ok hfirst
    obtain ⟨hused', hget'⟩ := ih hrest
    refine ⟨fun key ↦ ?_, fun key hkey ↦ ?_⟩
    · rw [hused', hused, unitsUnder_cons, sub_sub]
    · rw [List.map_cons, List.mem_cons, not_or] at hkey
      rw [hget' key hkey.2, hget key hkey.1]

theorem overdueUnits_cons (admission : Admission) (rest : List Admission) (now : ℤ) (key : String) :
    overdueUnits (admission :: rest) now key =
      (if admission.overdue now then admission.held key else 0) + overdueUnits rest now key := by
  rw [overdueUnits, List.filter_cons]
  by_cases hdue : admission.overdue now
  · rw [if_pos (decide_eq_true hdue), if_pos hdue]
    exact List.sum_cons
  · rw [if_neg (by simpa using hdue), if_neg hdue, zero_add]
    rfl

/-- A lease that is not overdue is passed over. -/
theorem Expires.cons_of_not {admission : Admission} {rest : List Admission} {now : ℤ}
    {store store' : QuotaStore} (hdue : ¬ admission.overdue now)
    (h : Expires rest now store store') : Expires (admission :: rest) now store store' := by
  have hcharged : ∀ key charge, ChargedOverdue (admission :: rest) now key charge ↔
      ChargedOverdue rest now key charge := by
    intro key charge
    constructor
    · rintro ⟨other, hother, hoverdue, hrest⟩
      rcases List.mem_cons.1 hother with rfl | hother
      · exact absurd hoverdue hdue
      · exact ⟨other, hother, hoverdue, hrest⟩
    · rintro ⟨other, hother, hrest⟩
      exact ⟨other, List.mem_cons_of_mem _ hother, hrest⟩
  refine ⟨h.rates, fun key ↦ ?_, fun key hkey ↦ ?_, fun key charge hget hnot ↦ ?_,
    fun key charge hget hcharge ↦ ?_, h.noCharge, fun other hother hoverdue ↦ ?_, fun id hid ↦ ?_⟩
  · rw [overdueUnits_cons, if_neg hdue, zero_add]
    exact h.used key
  · exact h.bucket key fun other hother ↦ hkey other (List.mem_cons_of_mem _ hother)
  · exact h.charge key charge hget (mt (hcharged key charge).2 hnot)
  · exact h.failed key charge hget ((hcharged key charge).1 hcharge)
  · rcases List.mem_cons.1 hother with rfl | hother
    · exact absurd hoverdue hdue
    · exact h.ended other hother hoverdue
  · exact h.kept id fun other hother ↦ hid other (List.mem_cons_of_mem _ hother)

/-- The end of a lease that is overdue. -/
theorem expires_singleton {admission : Admission} {now : ℤ} {store store' : QuotaStore}
    (hdue : admission.overdue now)
    (h : finishAdmission admission .expired now store = (.ok (), store')) :
    Expires [admission] now store store' := by
  rw [finishAdmission, returnCapacities_eq, Throwing.bind_eq_return] at h
  obtain ⟨_, middle, hreturn, hrecord⟩ := h
  obtain ⟨capacities, honly⟩ := returnCapacities_onlyBuckets admission.tenantId .expired
    admission.appliedCapacities store
  rw [returnCapacities_eq, hreturn] at honly
  obtain rfl : middle = store.withCapacities capacities := honly
  obtain rfl := (Prod.mk.inj hrecord).2
  obtain ⟨hused, hget⟩ := decrementAll_ok hreturn
  have hexpired : AdmissionOutcome.expired ≠ .succeeded := by decide
  have hunits : ∀ key, unitsUnder Prod.fst Prod.snd (admission.returnedItems .expired) key =
      admission.held key := by
    intro key
    have hsplit := admission.returned_add_retained hdue.1 .expired key
    rw [Admission.retained_of_ne hexpired, add_zero] at hsplit
    exact hsplit
  have hmine : ∀ key charge, ChargedOverdue [admission] now key charge ↔
      Charging admission key ∧ charge.admissionId = admission.admissionId := by
    intro key charge
    constructor
    · rintro ⟨other, hother, _, hcharging⟩
      obtain rfl := List.mem_singleton.1 hother
      exact hcharging
    · exact fun hcharging ↦ ⟨admission, List.mem_singleton_self _, hdue, hcharging⟩
  refine ⟨rfl, fun key ↦ ?_, fun key hkey ↦ ?_, fun key charge hcharge hnot ↦ ?_,
    fun key charge hcharge hoverdue ↦ ?_, fun key hnone ↦ ?_, fun other hother _ ↦ ?_,
    fun id hid ↦ ?_⟩
  · rw [overdueUnits_cons, if_pos hdue, overdueUnits, List.filter_nil, List.map_nil, List.sum_nil,
      add_zero, ← hunits]
    exact hused key
  · refine hget key fun hmem ↦ ?_
    rw [List.map_map] at hmem
    obtain ⟨reservation, hreservation, hreservationKey⟩ := List.mem_map.1 hmem
    exact hkey admission (List.mem_singleton_self _) hdue reservation
      (List.mem_of_mem_filter hreservation) hreservationKey
  · show (settleCharge store.charges admission .expired now).get key = some charge
    rcases settleCharge_get store.charges admission .expired now key with hsame | hsettled
    · exact hsame.trans hcharge
    · obtain ⟨commandRefHash, charge', hcommand, hreplayed, hkey, hcharge', hid⟩ := hsettled
      rw [hcharge] at hcharge'
      obtain rfl := Option.some.inj hcharge'
      exact absurd ((hmine key charge).2 ⟨⟨hdue.1, hreplayed, commandRefHash, hcommand, hkey⟩, hid⟩)
        hnot
  · show (settleCharge store.charges admission .expired now).get key = _
    obtain ⟨⟨_, hreplayed, commandRefHash, hcommand, rfl⟩, hid⟩ := (hmine key charge).1 hoverdue
    rw [settleCharge_self hcommand hreplayed hcharge hid, InsertionMap.get_set_self,
      if_neg hexpired]
  · show (settleCharge store.charges admission .expired now).get key = none
    rcases settleCharge_get store.charges admission .expired now key with hsame | hsettled
    · exact hsame.trans hnone
    · obtain ⟨_, _, _, _, _, hcharge, _⟩ := hsettled
      rw [hnone] at hcharge
      cases hcharge
  · obtain rfl := List.mem_singleton.1 hother
    exact InsertionMap.get_set_self ..
  · exact InsertionMap.get_set_of_ne _ _ (hid admission (List.mem_singleton_self _) hdue).symm

/-- One lease after the other, under different identifiers. -/
theorem Expires.cons {admission : Admission} {rest : List Admission} {now : ℤ}
    {store middle store' : QuotaStore} (hdue : admission.overdue now)
    (hids : admission.admissionId ∉ rest.map fun admission ↦ admission.admissionId)
    (h : Expires [admission] now store middle) (h' : Expires rest now middle store') :
    Expires (admission :: rest) now store store' := by
  have hmem := List.mem_singleton_self admission
  refine ⟨h'.rates.trans h.rates, fun key ↦ ?_, fun key hkey ↦ ?_, fun key charge hget hnot ↦ ?_,
    fun key charge hget hcharge ↦ ?_, fun key hnone ↦ h'.noCharge key (h.noCharge key hnone),
    fun other hother hoverdue ↦ ?_, fun id hid ↦ ?_⟩
  · have hfirst := h.used key
    rw [overdueUnits_cons, if_pos hdue, overdueUnits, List.filter_nil, List.map_nil, List.sum_nil,
      add_zero] at hfirst
    rw [h'.used, hfirst, overdueUnits_cons, if_pos hdue, sub_sub]
  · rw [h'.bucket key fun other hother ↦ hkey other (List.mem_cons_of_mem _ hother)]
    refine h.bucket key fun other hother ↦ hkey other ?_
    obtain rfl := List.mem_singleton.1 hother
    exact List.mem_cons_self
  · refine h'.charge key charge (h.charge key charge hget ?_) ?_
    · rintro ⟨other, hother, hrest⟩
      obtain rfl := List.mem_singleton.1 hother
      exact hnot ⟨other, List.mem_cons_self, hrest⟩
    · rintro ⟨other, hother, hrest⟩
      exact hnot ⟨other, List.mem_cons_of_mem _ hother, hrest⟩
  · obtain ⟨other, hother, hoverdue, hcharging, hid⟩ := hcharge
    rcases List.mem_cons.1 hother with rfl | hlater
    · -- no later lease has this identifier
      refine h'.charge key _ (h.failed key charge hget ⟨other, hmem, hdue, hcharging, hid⟩) ?_
      rintro ⟨later, hlater, _, _, hlaterId⟩
      exact hids (List.mem_map.2 ⟨later, hlater, hlaterId.symm.trans hid⟩)
    · refine h'.failed key charge (h.charge key charge hget ?_)
        ⟨other, hlater, hoverdue, hcharging, hid⟩
      rintro ⟨first, hfirst, _, _, hfirstId⟩
      rw [List.mem_singleton.1 hfirst] at hfirstId
      exact hids (List.mem_map.2 ⟨other, hlater, hid.symm.trans hfirstId⟩)
  · rcases List.mem_cons.1 hother with rfl | hother
    · rw [h'.kept _ fun later hlater _ heq ↦ hids (List.mem_map.2 ⟨later, hlater, heq⟩)]
      exact h.ended other hmem hdue
    · exact h'.ended other hother hoverdue
  · rw [h'.kept id fun other hother ↦ hid other (List.mem_cons_of_mem _ hother)]
    refine h.kept id fun other hother ↦ hid other ?_
    obtain rfl := List.mem_singleton.1 hother
    exact List.mem_cons_self

theorem expireOverdue_ok {now : ℤ} {admissions : List Admission} :
    ∀ {store store' : QuotaStore},
      (admissions.map fun admission ↦ admission.admissionId).Nodup →
      expireOverdue now none admissions store = (.ok (), store') →
      Expires admissions now store store' := by
  induction admissions with
  | nil =>
    intro store store' _ h
    obtain rfl := (Prod.mk.inj h).2
    refine ⟨rfl, fun _ ↦ (sub_zero _).symm, fun _ _ ↦ rfl, fun _ _ hget _ ↦ hget, ?_,
      fun _ hnone ↦ hnone, fun _ hother ↦ (by cases hother), fun _ _ ↦ rfl⟩
    rintro _ _ _ ⟨other, hother, _⟩
    cases hother
  | cons admission rest ih =>
    intro store store' hnodup h
    rw [List.map_cons, List.nodup_cons] at hnodup
    rw [expireOverdue] at h
    split at h
    · rename_i hdue
      rw [Throwing.bind_eq_return] at h
      obtain ⟨_, middle, hfinish, hrest⟩ := h
      exact Expires.cons hdue.2 hnodup.1 (expires_singleton hdue.2 hfinish) (ih hnodup.2 hrest)
    · rename_i hdue
      exact Expires.cons_of_not (fun hoverdue ↦ hdue ⟨by simp, hoverdue⟩) (ih hnodup.2 h)

/-- The end of the overdue leases, and of the windows and ended charges whose time is over. -/
structure OnlyExpires (now : ℤ) (store store' : QuotaStore) : Prop where
  rates : ∀ key, store'.rates.get key =
    (store.rates.get key).filter fun window ↦ now < window.expiresAt
  used : ∀ key, usedIn store'.capacities key =
    usedIn store.capacities key - overdueUnits store.admissions.values now key
  bucket : ∀ key, (∀ admission ∈ store.admissions.values, admission.overdue now →
      ∀ reservation ∈ admission.appliedCapacities, reservation.key admission.tenantId ≠ key) →
    store'.capacities.get key = store.capacities.get key
  charge : ∀ key charge, store.charges.get key = some charge →
    ¬ ChargedOverdue store.admissions.values now key charge →
      store'.charges.get key =
        (some charge).filter fun charge ↦ now < charge.expiresAt ∨ charge.status = .pending
  failed : ∀ key charge, store.charges.get key = some charge →
    ChargedOverdue store.admissions.values now key charge → store'.charges.get key =
      some { charge with status := .failed, expiresAt := now + commandRetentionMs }
  noCharge : ∀ key, store.charges.get key = none → store'.charges.get key = none
  admission : ∀ id, store'.admissions.get id = (store.admissions.get id).map fun admission ↦
    if admission.overdue now then admission.ended .expired now else admission

theorem cleanup_onlyExpires {store store' : QuotaStore} (hown : OwnIds store) {now : ℤ}
    (h : cleanup now none store = (.ok (), store')) : OnlyExpires now store store' := by
  rw [cleanup, Throwing.get_bind_eq_return, Throwing.bind_eq_return] at h
  obtain ⟨_, middle, hexpire, hdrop⟩ := h
  obtain rfl := (Prod.mk.inj hdrop).2
  have hexpires := expireOverdue_ok hown.listed.nodup hexpire
  have hcharges : ∀ key, (dropElapsed now middle).charges.get key =
      (middle.charges.get key).filter fun charge ↦
        now < charge.expiresAt ∨ charge.status = .pending := fun key ↦ InsertionMap.get_filter ..
  refine ⟨fun key ↦ ?_, hexpires.used, hexpires.bucket, fun key charge hget hnot ↦ ?_,
    fun key charge hget hoverdue ↦ ?_, fun key hnone ↦ ?_, fun id ↦ ?_⟩
  · rw [dropElapsed, InsertionMap.get_filter, hexpires.rates]
  · rw [hcharges, hexpires.charge key charge hget hnot]
  · rw [hcharges, hexpires.failed key charge hget hoverdue, Option.filter_some, if_pos]
    refine decide_eq_true (.inl ?_)
    show now < now + commandRetentionMs
    rw [commandRetentionMs]
    omega
  · rw [hcharges, hexpires.noCharge key hnone]
    rfl
  · show middle.admissions.get id = _
    rcases hget : store.admissions.get id with _ | admission
    · rw [hexpires.kept id, hget]
      · rfl
      · rintro other hother _ rfl
        rw [hown.listed.stored other hother] at hget
        cases hget
    · have hmem : admission ∈ store.admissions.values :=
        (InsertionMap.mem_values_iff ..).2 ⟨id, hget⟩
      rw [Option.map_some]
      split
      · rename_i hoverdue
        rw [← hexpires.ended admission hmem hoverdue, hown id admission hget]
      · rename_i hnot
        rw [hexpires.kept id, hget]
        rintro other hother hoverdue rfl
        rw [hown.listed.stored other hother] at hget
        exact hnot (Option.some.inj hget ▸ hoverdue)

/-! ## The guarantees of the store -/

/-- What holds after any run of calls. -/
structure Guarantees (maxEntries : ℕ) (calls : List Call) : Prop where
  /-- Of a tenant's command, one admission at most is pending that is no replay. -/
  once : ∀ id id' admission admission' commandRefHash,
    (Run.run (step maxEntries) .new calls).admissions.get id = some admission →
    (Run.run (step maxEntries) .new calls).admissions.get id' = some admission' →
    admission.state = .pending → admission'.state = .pending →
    admission.replayed = false → admission'.replayed = false →
    admission.commandRefHash = some commandRefHash →
    admission'.commandRefHash = some commandRefHash →
    admission.tenantId = admission'.tenantId → id = id'
  /-- After one has finished with success, the command is only replayed for a day. -/
  replayed : ∀ past timestamp input future admission commandRefHash state,
    calls = past ++ .finish (some timestamp) input :: future →
    finishable (Run.run (step maxEntries) .new past) input = some admission →
    admission.replayed = false → admission.commandRefHash = some commandRefHash →
    input.outcome = .succeeded →
    (finish (some timestamp) input (Run.run (step maxEntries) .new past)).1 = .ok state →
    ∀ clock request isReplay issuedAt expiresAt store',
      request.tenantId = admission.tenantId → request.commandRefHash = some commandRefHash →
      ((Run.run (step maxEntries) .new calls).at clock).lastNow <
        ((Run.run (step maxEntries) .new past).at timestamp).lastNow + commandRetentionMs →
      reserve maxEntries (some clock) request (Run.run (step maxEntries) .new calls) =
        (.ok (.admitted isReplay issuedAt expiresAt), store') →
      isReplay = true ∧ Uncharged request
        (cleanup ((Run.run (step maxEntries) .new calls).at clock).lastNow none
          ((Run.run (step maxEntries) .new calls).at clock)).2 store'
  /-- No window admits more than its limit. -/
  rates : ∀ key limit windowMs, 0 < limit → 0 < windowMs →
    (∀ call ∈ calls, Uniform key limit windowMs call) → ∀ windowStartedAt,
      Run.total (step maxEntries) (admittedUnits maxEntries key windowStartedAt) .new calls ≤ limit
  /-- A request that is denied only expires what is over. -/
  denied : ∀ timestamp request reason store',
    reserve maxEntries (some timestamp) request (Run.run (step maxEntries) .new calls) =
      (.ok (.denied reason), store') →
    OnlyExpires ((Run.run (step maxEntries) .new calls).at timestamp).lastNow
      ((Run.run (step maxEntries) .new calls).at timestamp) store'

theorem replayed_after_success {maxEntries : ℕ} {past future : List Call} {timestamp : ℤ}
    {input : FinishInput} {admission : Admission} {commandRefHash : String} {state : AdmissionState}
    (hfinishable : finishable (Run.run (step maxEntries) .new past) input = some admission)
    (hreplayed : admission.replayed = false)
    (hcommand : admission.commandRefHash = some commandRefHash)
    (houtcome : input.outcome = .succeeded)
    (hfinish : (finish (some timestamp) input (Run.run (step maxEntries) .new past)).1 = .ok state)
    (hnow : (Run.run (step maxEntries) .new
      (past ++ .finish (some timestamp) input :: future)).lastNow <
        ((Run.run (step maxEntries) .new past).at timestamp).lastNow + commandRetentionMs) :
    Succeeded (chargeKey admission.tenantId commandRefHash)
      (((Run.run (step maxEntries) .new past).at timestamp).lastNow + commandRetentionMs)
      (Run.run (step maxEntries) .new (past ++ .finish (some timestamp) input :: future)) := by
  have hcharged := charged_run maxEntries past
  have hrun : Run.run (step maxEntries) .new (past ++ .finish (some timestamp) input :: future) =
      Run.run (step maxEntries) (step maxEntries (Run.run (step maxEntries) .new past)
        (.finish (some timestamp) input)) future := Run.run_append ..
  rw [hrun] at hnow ⊢
  refine succeeded_run maxEntries future (charged_step hcharged maxEntries _) ?_ hnow
  exact finish_succeeded hcharged hfinishable hreplayed hcommand houtcome
    (Prod.ext hfinish rfl)

/-- **Every command is admitted once, and every rate is kept**, in every run. -/
theorem quota_store_guarantees (maxEntries : ℕ) (calls : List Call) :
    Guarantees maxEntries calls where
  once id id' admission admission' commandRefHash hget hget' hpending hpending' hreplayed hreplayed'
      hcommand hcommand' htenant := by
    refine (charged_run maxEntries calls).unique hget hget'
      ⟨hpending, hreplayed, commandRefHash, hcommand, rfl⟩ ⟨hpending', hreplayed', commandRefHash,
        hcommand', ?_⟩
    rw [htenant]
  replayed past timestamp input future admission commandRefHash state hcalls hfinishable hreplayed
      hcommand houtcome hfinish clock request isReplay issuedAt expiresAt store' htenant hrequest
      hnow h := by
    obtain rfl := hcalls
    have hearlier := lt_of_le_of_lt (le_max_left ..) hnow
    have hsucceeded :=
      replayed_after_success hfinishable hreplayed hcommand houtcome hfinish hearlier
    exact reserve_replayed (charged_run maxEntries _) hsucceeded hnow hrequest (by rw [htenant]) h
  rates key limit windowMs hlimit hpos huniform windowStartedAt :=
    (counts_run hlimit.le hpos maxEntries calls huniform).within windowStartedAt
  denied timestamp request reason store' h := by
    have hown := (charged_run maxEntries calls).ownIds
    obtain ⟨cleaned, -, hcases⟩ := reserve_cases hown maxEntries timestamp request
    rcases hcases with ⟨error, h'⟩ | ⟨hcleanup, reason', h'⟩ | ⟨plan, _, _, _, _, _, _, h'⟩
    · rw [h'] at h
      cases h
    · rw [h'] at h
      obtain rfl := (Prod.mk.inj h).2
      have hownAt : OwnIds ((Run.run (step maxEntries) .new calls).at timestamp) := hown
      exact cleanup_onlyExpires hownAt hcleanup
    · rw [h'] at h
      cases h

/-- A request of one command, with a rate whose window is a millisecond. -/
def briefRate (admissionId : String) : QuotaStoreRequest :=
  { oneUnit admissionId with
    rateReservations :=
      [{ keyHash := "0x0000000000000000000000000000000000000000000000000000000000000001"
         dimension := "tenant", windowMs := 1, limit := 10, units := 1
         commandScoped := false, partition := .tenant }]
    commandRefHash := "0x0000000000000000000000000000000000000000000000000000000000000003" }

/-- **A denial drops a window** that is over, while no lease is overdue. -/
theorem denied_drops_elapsed_window :
    let store := Run.run (step 100) .new [.reserve (some 1) (briefRate "admission-1")]
    (∀ admission ∈ store.admissions.values, ¬ admission.overdue 5) ∧
      (reserve 100 (some 5) (briefRate "admission-2") store).1 = .ok (.denied .idempotency) ∧
      (reserve 100 (some 5) (briefRate "admission-2") store).2.rates ≠ store.rates := by
  decide +kernel

end AbuseControl
end IpoOne
