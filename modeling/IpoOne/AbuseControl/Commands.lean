import IpoOne.AbuseControl.Moves
import Mathlib

/-!
# A command is admitted once

The charge of a command is pending while its admission is, and names it (`Charged`).  So a second
admission of the command is denied until the first one has ended.  If it ended with success, the
charge says so for a day, and every admission in that time is a replay (`Succeeded`).

An admission whose lease has run out is ended by the next call.  It may be finished late, but then
it is no longer pending, and the charge of a later admission of the command is not touched.
-/

set_option autoImplicit false

namespace IpoOne
namespace AbuseControl

open Fallible
open Throwing (get modify lift)
open Relation (ReflTransGen)

variable {requested : Option QuotaStoreRequest}

/-! ## Charges -/

/-- The charge of an admission that ends, if it has one of its own. -/
theorem settleCharge_self {charges : InsertionMap String Charge} {admission : Admission}
    {commandRefHash : String} (hcommand : admission.commandRefHash = some commandRefHash)
    (hreplayed : admission.replayed = false) {charge : Charge}
    (hcharge : charges.get (chargeKey admission.tenantId commandRefHash) = some charge)
    (hid : charge.admissionId = admission.admissionId) (outcome : AdmissionOutcome) (now : ℤ) :
    settleCharge charges admission outcome now =
      charges.set (chargeKey admission.tenantId commandRefHash)
        { charge with
          status := if outcome = .succeeded then .succeeded else .failed
          expiresAt := now + commandRetentionMs } := by
  simp only [settleCharge, hcommand, hreplayed, hcharge, hid, Bool.false_eq_true, if_false, if_true]

/-- When an admission ends, its charge is written, and no other. -/
theorem settleCharge_get (charges : InsertionMap String Charge) (admission : Admission)
    (outcome : AdmissionOutcome) (now : ℤ) (key : String) :
    (settleCharge charges admission outcome now).get key = charges.get key ∨
      ∃ commandRefHash charge, admission.commandRefHash = some commandRefHash ∧
        admission.replayed = false ∧ key = chargeKey admission.tenantId commandRefHash ∧
        charges.get key = some charge ∧ charge.admissionId = admission.admissionId := by
  rcases hcommand : admission.commandRefHash with _ | commandRefHash
  · exact .inl (by simp only [settleCharge, hcommand])
  · rcases hreplayed : admission.replayed with _ | _
    · rcases hcharge : charges.get (chargeKey admission.tenantId commandRefHash) with _ | charge
      · exact .inl (by simp only [settleCharge, hcommand, hreplayed, hcharge, ite_self])
      · by_cases hid : charge.admissionId = admission.admissionId
        · by_cases hkey : key = chargeKey admission.tenantId commandRefHash
          · exact .inr ⟨commandRefHash, charge, rfl, rfl, hkey, hkey ▸ hcharge, hid⟩
          · rw [settleCharge_self hcommand hreplayed hcharge hid]
            exact .inl (InsertionMap.get_set_of_ne _ _ hkey)
        · refine .inl ?_
          simp only [settleCharge, hcommand, hreplayed, hcharge, if_neg hid, ite_self]
    · exact .inl (by simp only [settleCharge, hcommand, hreplayed, if_true])

/-- A pending admission that is charged for its command. -/
structure Charging (admission : Admission) (key : String) : Prop where
  pending : admission.state = .pending
  charged : admission.replayed = false
  command : ∃ commandRefHash, admission.commandRefHash = some commandRefHash ∧
    key = chargeKey admission.tenantId commandRefHash

/-- A pending charge that names an admission and outlives its lease. -/
structure Names (charge : Charge) (admission : Admission) : Prop where
  pending : charge.status = .pending
  admissionId : charge.admissionId = admission.admissionId
  outlives : admission.expiresAt < charge.expiresAt

/-- Every admission that is charged for its command is named by the charge. -/
structure Charged (store : QuotaStore) : Prop where
  ownIds : OwnIds store
  named : ∀ id admission key, store.admissions.get id = some admission → Charging admission key →
    ∃ charge, store.charges.get key = some charge ∧ Names charge admission

theorem charged_new : Charged .new where
  ownIds := by rintro _ _ ⟨⟩
  named := by rintro _ _ _ ⟨⟩

/-- **At most one admission is charged for a command.** -/
theorem Charged.unique {store : QuotaStore} (h : Charged store) {id id' key : String}
    {admission admission' : Admission} (hget : store.admissions.get id = some admission)
    (hget' : store.admissions.get id' = some admission') (hcharging : Charging admission key)
    (hcharging' : Charging admission' key) : id = id' := by
  obtain ⟨charge, hcharge, hnames⟩ := h.named id admission key hget hcharging
  obtain ⟨charge', hcharge', hnames'⟩ := h.named id' admission' key hget' hcharging'
  rw [hcharge] at hcharge'
  obtain rfl := Option.some.inj hcharge'
  rw [← h.ownIds id admission hget, ← h.ownIds id' admission' hget', ← hnames.admissionId,
    ← hnames'.admissionId]

/-- What a plan says of the charge of the command. -/
theorem plan_charge {store : QuotaStore} {request : QuotaStoreRequest} {now : ℤ} {plan : Plan}
    (h : AbuseControl.plan store request now = .ok plan) {commandRefHash : String}
    (hcommand : request.commandRefHash = some commandRefHash) {charge : Charge}
    (hcharge : store.charges.get (chargeKey request.tenantId commandRefHash) = some charge)
    (hlive : now < charge.expiresAt) :
    charge.status ≠ .pending ∧ (plan.replayed = true ↔ charge.status = .succeeded) := by
  have hfound : (commandCharge store request).filter (fun charge ↦ now < charge.expiresAt) =
      some charge := by
    rw [commandCharge, hcommand, Option.bind_some, hcharge, Option.filter_some,
      if_pos (decide_eq_true hlive)]
  simp only [AbuseControl.plan, hfound, Option.map_some, Option.some.injEq] at h
  split at h
  · cases h
  · rename_i hpending
    refine ⟨hpending, ?_⟩
    split at h
    · cases h
    · split at h
      · cases h
      · obtain rfl := Except.ok.inj h
        exact decide_eq_true_iff

/-- The charges after a request is written. -/
theorem charges_get (plan : Plan) (charges : InsertionMap String Charge)
    (request : QuotaStoreRequest) (now : ℤ) (key : String) :
    (plan.charges charges request now).get key = charges.get key ∨
      ∃ commandRefHash, request.commandRefHash = some commandRefHash ∧ plan.replayed = false ∧
        key = chargeKey request.tenantId commandRefHash ∧
        (plan.charges charges request now).get key =
          some { status := .pending, admissionId := request.admissionId,
                 expiresAt := now + commandRetentionMs } := by
  rcases hcommand : request.commandRefHash with _ | commandRefHash
  · exact .inl (by simp only [Plan.charges, hcommand])
  · rcases hreplayed : plan.replayed with _ | _
    · have hset : plan.charges charges request now =
          charges.set (chargeKey request.tenantId commandRefHash)
            { status := .pending, admissionId := request.admissionId,
              expiresAt := now + commandRetentionMs } := by
        simp only [Plan.charges, hcommand, hreplayed, Bool.false_eq_true, if_false]
      rw [hset]
      by_cases hkey : key = chargeKey request.tenantId commandRefHash
      · refine .inr ⟨commandRefHash, rfl, rfl, hkey, ?_⟩
        rw [hkey, InsertionMap.get_set_self]
      · exact .inl (InsertionMap.get_set_of_ne _ _ hkey)
    · exact .inl (by simp only [Plan.charges, hcommand, hreplayed, if_true])

theorem leaseMs_le {request : QuotaStoreRequest} {u : Unit}
    (h : assertQuotaStoreRequest request = .ok u) : request.leaseMs ≤ 60000 := by
  simp only [assertQuotaStoreRequest, assertPositiveInteger, invalidInput, bind_eq_ok,
    throwIf_eq_ok] at h
  obtain ⟨_, _, _, _, _, _, _, _, _, _, _, _, _, _, _, _, _, hlease, _⟩ := h
  omega

/-! ## Moves keep it -/

theorem Charged.recorded {store : QuotaStore} (h : Charged store) (admission : Admission)
    (outcome : AdmissionOutcome) (now : ℤ) : Charged (store.recorded admission outcome now) := by
  refine ⟨h.ownIds.recorded admission outcome now, fun id other key hother hcharging ↦ ?_⟩
  rw [QuotaStore.recorded, InsertionMap.get_set] at hother
  split at hother
  · -- what has ended is not pending
    obtain rfl := Option.some.inj hother
    have hpending := hcharging.pending
    rw [Admission.ended] at hpending
    split at hpending <;> cases hpending
  · rename_i hne
    obtain ⟨charge, hcharge, hnames⟩ := h.named id other key hother hcharging
    rcases settleCharge_get store.charges admission outcome now key with hsame | hsettled
    · exact ⟨charge, hsame.trans hcharge, hnames⟩
    · -- the charge would name both
      obtain ⟨_, charge', _, _, _, hcharge', hid⟩ := hsettled
      rw [hcharge] at hcharge'
      obtain rfl := Option.some.inj hcharge'
      rw [hnames.admissionId, h.ownIds id other hother] at hid
      exact absurd hid hne

theorem Charged.written {store : QuotaStore} (h : Charged store) {request : QuotaStoreRequest}
    {plan : Plan} {now : ℤ} (hvalid : assertQuotaStoreRequest request = .ok ())
    (hlive : ∀ id admission, store.admissions.get id = some admission → ¬ admission.overdue now)
    (hplan : AbuseControl.plan store request now = .ok plan) :
    Charged (plan.write request now store) := by
  have hown : OwnIds (plan.write request now store) :=
    ownIds_move h.ownIds (Move.admitted rfl hvalid hlive hplan)
  refine ⟨hown, fun id admission key hget hcharging ↦ ?_⟩
  rw [Plan.write, InsertionMap.get_set] at hget
  show ∃ charge, (plan.charges store.charges request now).get key = some charge ∧ _
  split at hget
  · -- the new admission has a charge of its own
    obtain rfl := Option.some.inj hget
    obtain ⟨commandRefHash, hcommand, rfl⟩ := hcharging.command
    have hreplayed : plan.replayed = false := hcharging.charged
    have hcommand : request.commandRefHash = some commandRefHash := hcommand
    have hlease := leaseMs_le hvalid
    refine ⟨{ status := .pending, admissionId := request.admissionId,
              expiresAt := now + commandRetentionMs }, ?_, rfl, rfl, ?_⟩
    · simp only [Plan.charges, hcommand, hreplayed, Bool.false_eq_true, if_false]
      exact InsertionMap.get_set_self ..
    · show now + request.leaseMs < now + commandRetentionMs
      rw [commandRetentionMs]
      omega
  · obtain ⟨charge, hcharge, hnames⟩ := h.named id admission key hget hcharging
    rcases charges_get plan store.charges request now key with hsame | hnew
    · exact ⟨charge, hsame.trans hcharge, hnames⟩
    · -- the plan would have been refused
      obtain ⟨commandRefHash, hcommand, _, rfl, _⟩ := hnew
      have hnotOverdue := hlive id admission hget
      have hdue : now < charge.expiresAt := by
        have houtlives := hnames.outlives
        have hnotElapsed : ¬ admission.expiresAt ≤ now := fun hle ↦
          hnotOverdue ⟨hcharging.pending, hle⟩
        omega
      exact absurd hnames.pending (plan_charge hplan hcommand hcharge hdue).1

theorem charged_move {now : ℤ} {store store' : QuotaStore} (h : Charged store)
    (hmove : Move now requested store store') : Charged store' := by
  cases hmove with
  | buckets => exact ⟨h.ownIds, h.named⟩
  | ended hget hpending outcome => exact h.recorded _ outcome now
  | elapsed =>
    refine ⟨h.ownIds, fun id admission key hget hcharging ↦ ?_⟩
    obtain ⟨charge, hcharge, hnames⟩ := h.named id admission key hget hcharging
    refine ⟨charge, ?_, hnames⟩
    rw [dropElapsed, InsertionMap.get_filter, hcharge, Option.filter_some,
      if_pos (decide_eq_true (.inr hnames.pending))]
  | evicted hevict =>
    have hevicts := evicts_of_evictions (.single hevict)
    refine ⟨ownIds_move h.ownIds (Move.evicted hevict : Move now none _ _), ?_⟩
    intro id admission key hget hcharging
    rw [hevicts.charges]
    exact h.named id admission key (hevicts.stored id admission hget) hcharging
  | admitted hrequest hvalid hlive hplan => exact h.written hvalid hlive hplan

theorem charged_step {store : QuotaStore} (h : Charged store) (maxEntries : ℕ) (call : Call) :
    Charged (step maxEntries store call) :=
  step_induct h.ownIds maxEntries call h (fun _ ↦ ⟨h.ownIds, h.named⟩) fun _ _ _ _ ↦ charged_move

theorem charged_run (maxEntries : ℕ) (calls : List Call) :
    Charged (Run.run (step maxEntries) .new calls) :=
  Run.run_induct (P := Charged) (fun _ call h ↦ charged_step h maxEntries call) charged_new calls

/-! ## After a success -/

/-- The charge of a command says until a time that it succeeded. -/
def Succeeded (key : String) (deadline : ℤ) (store : QuotaStore) : Prop :=
  ∃ charge, store.charges.get key = some charge ∧ charge.status = .succeeded ∧
    deadline ≤ charge.expiresAt

theorem succeeded_move {key : String} {deadline now : ℤ} {store store' : QuotaStore}
    (hcharged : Charged store) (h : Succeeded key deadline store) (hnow : now < deadline)
    (hmove : Move now requested store store') : Succeeded key deadline store' := by
  obtain ⟨charge, hcharge, hstatus, huntil⟩ := h
  cases hmove with
  | buckets => exact ⟨charge, hcharge, hstatus, huntil⟩
  | @ended admission hget hpending outcome =>
    rcases settleCharge_get store.charges admission outcome now key with hsame | hsettled
    · exact ⟨charge, hsame.trans hcharge, hstatus, huntil⟩
    · -- the charge of a pending admission is pending
      obtain ⟨commandRefHash, charge', hcommand, hreplayed, hkey, _, _⟩ := hsettled
      obtain ⟨charge'', hcharge'', hnames⟩ := hcharged.named _ admission key hget
        ⟨hpending, hreplayed, commandRefHash, hcommand, hkey⟩
      rw [hcharge] at hcharge''
      obtain rfl := Option.some.inj hcharge''
      rw [hnames.pending] at hstatus
      cases hstatus
  | elapsed =>
    refine ⟨charge, ?_, hstatus, huntil⟩
    rw [dropElapsed, InsertionMap.get_filter, hcharge, Option.filter_some, if_pos]
    exact decide_eq_true (.inl (lt_of_lt_of_le hnow huntil))
  | evicted hevict =>
    refine ⟨charge, ?_, hstatus, huntil⟩
    rw [(evicts_of_evictions (.single hevict)).charges]
    exact hcharge
  | @admitted request plan _ _ _ hplan =>
    rcases charges_get plan store.charges request now key with hsame | hnew
    · exact ⟨charge, hsame.trans hcharge, hstatus, huntil⟩
    · -- it is a replay
      obtain ⟨commandRefHash, hcommand, hreplayed, rfl, _⟩ := hnew
      have hplanned := plan_charge hplan hcommand hcharge (lt_of_lt_of_le hnow huntil)
      rw [hplanned.2.2 hstatus] at hreplayed
      cases hreplayed

theorem lastNow_move {now : ℤ} {store store' : QuotaStore} (h : Move now requested store store') :
    store'.lastNow = store.lastNow := by
  cases h with
  | buckets => rfl
  | ended => rfl
  | elapsed => rfl
  | evicted hevict =>
    obtain ⟨_, -, rfl⟩ := hevict
    rfl
  | admitted => rfl

/-- The time of the store after a call. -/
theorem lastNow_step {store : QuotaStore} (hown : OwnIds store) (maxEntries : ℕ) (call : Call) :
    (step maxEntries store call).lastNow =
      match call.clock with
      | none => store.lastNow
      | some timestamp => max store.lastNow timestamp := by
  have hmoves := step_moves hown maxEntries call
  rcases hclock : call.clock with _ | timestamp
  · rw [hclock] at hmoves
    rw [hmoves]
  · rw [hclock] at hmoves
    exact Moves.induct (P := fun s ↦ s.lastNow = (store.at timestamp).lastNow) hmoves
      (fun _ _ hs hmove ↦ (lastNow_move hmove).trans hs) rfl

theorem lastNow_le_step {store : QuotaStore} (hown : OwnIds store) (maxEntries : ℕ) (call : Call) :
    store.lastNow ≤ (step maxEntries store call).lastNow := by
  rw [lastNow_step hown]
  split
  · exact le_rfl
  · exact le_max_left ..

theorem lastNow_le_run {store : QuotaStore} (hcharged : Charged store) (maxEntries : ℕ)
    (calls : List Call) : store.lastNow ≤ (Run.run (step maxEntries) store calls).lastNow := by
  induction calls generalizing store with
  | nil => exact le_rfl
  | cons call rest ih =>
    exact (lastNow_le_step hcharged.ownIds maxEntries call).trans
      (ih (charged_step hcharged maxEntries call))

theorem succeeded_step {key : String} {deadline : ℤ} {store : QuotaStore} (hcharged : Charged store)
    (h : Succeeded key deadline store) (maxEntries : ℕ) (call : Call)
    (hnow : (step maxEntries store call).lastNow < deadline) :
    Succeeded key deadline (step maxEntries store call) := by
  refine (step_induct (P := fun s ↦ Charged s ∧ Succeeded key deadline s) hcharged.ownIds maxEntries
    call ⟨hcharged, h⟩ (fun _ ↦ ⟨⟨hcharged.ownIds, hcharged.named⟩, h⟩) ?_).2
  intro timestamp hclock s s' hs hmove
  refine ⟨charged_move hs.1 hmove, succeeded_move hs.1 hs.2 ?_ hmove⟩
  rw [lastNow_step hcharged.ownIds, hclock] at hnow
  exact hnow

theorem succeeded_run {key : String} {deadline : ℤ} (maxEntries : ℕ) (calls : List Call) :
    ∀ {store : QuotaStore}, Charged store → Succeeded key deadline store →
      (Run.run (step maxEntries) store calls).lastNow < deadline →
      Succeeded key deadline (Run.run (step maxEntries) store calls) := by
  induction calls with
  | nil => exact fun _ h _ ↦ h
  | cons call rest ih =>
    intro store hcharged h hnow
    have hcharged' := charged_step hcharged maxEntries call
    refine ih hcharged' (succeeded_step hcharged h maxEntries call ?_) hnow
    exact lt_of_le_of_lt (lastNow_le_run hcharged' maxEntries rest) hnow

/-- The admission that is being finished is not expired on the way. -/
theorem get_cleanup_excluded (now : ℤ) (id : String) (store : QuotaStore) :
    (cleanup now (some id) store).2.admissions.get id = store.admissions.get id := by
  have hexpire : ∀ (admissions : List Admission) (store : QuotaStore),
      (expireOverdue now (some id) admissions store).2.admissions.get id =
        store.admissions.get id := by
    intro admissions
    induction admissions with
    | nil => exact fun _ ↦ rfl
    | cons admission rest ih =>
      intro store
      rw [expireOverdue]
      split
      · rename_i hdue
        rw [Throwing.bind_apply]
        obtain ⟨capacities, ⟨error, h⟩ | h⟩ := finishAdmission_cases admission .expired now store
        · rw [h]
          rfl
        · rw [h]
          refine (ih _).trans (InsertionMap.get_set_of_ne _ _ ?_)
          rintro rfl
          exact hdue.1 rfl
      · exact ih store
  show ((expireOverdue now (some id) store.admissions.values >>= _ :
    Store Unit) store).2.admissions.get id = _
  rw [Throwing.bind_apply, ← hexpire store.admissions.values store]
  rcases expireOverdue now (some id) store.admissions.values store with ⟨_ | _, store'⟩
  · rfl
  · rfl

/-- **A success is recorded in the charge of the command**, for a day. -/
theorem finish_succeeded {store : QuotaStore} (hcharged : Charged store) {timestamp : ℤ}
    {input : FinishInput} {admission : Admission}
    (hfinishable : finishable store input = some admission) (hreplayed : admission.replayed = false)
    {commandRefHash : String} (hcommand : admission.commandRefHash = some commandRefHash)
    (houtcome : input.outcome = .succeeded) {state : AdmissionState} {store' : QuotaStore}
    (h : finish (some timestamp) input store = (.ok state, store')) :
    Succeeded (chargeKey admission.tenantId commandRefHash)
      ((store.at timestamp).lastNow + commandRetentionMs) store' := by
  rw [finishable, Option.filter_eq_some_iff, decide_eq_true_eq] at hfinishable
  obtain ⟨hget, htenant, hpending⟩ := hfinishable
  have hchargedAt : Charged (store.at timestamp) := ⟨hcharged.ownIds, hcharged.named⟩
  have hmoves := @cleanup_moves none _ hchargedAt.ownIds (store.at timestamp).lastNow
    (some input.admissionId)
  have hkept := get_cleanup_excluded (store.at timestamp).lastNow input.admissionId
    (store.at timestamp)
  rw [finish_some, Throwing.bind_eq_return] at h
  obtain ⟨_, cleaned, hcleanup, hrest⟩ := h
  rw [hcleanup] at hmoves hkept
  rw [Throwing.lift_bind_eq_return] at hrest
  obtain ⟨_, _, hcomplete⟩ := hrest
  have hcharged' : Charged cleaned := hmoves.induct (fun _ _ ↦ charged_move) hchargedAt
  have hget' : cleaned.admissions.get input.admissionId = some admission := hkept.trans hget
  simp only [complete, Throwing.bind_apply, Throwing.get_apply, hget', Option.filter_some, htenant,
    decide_true, if_true, hpending, ne_eq, not_true, if_false] at hcomplete
  obtain ⟨charge, hcharge, hnames⟩ := hcharged'.named _ admission _ hget'
    ⟨hpending, hreplayed, commandRefHash, hcommand, rfl⟩
  obtain ⟨capacities, ⟨error, hfinish⟩ | hfinish⟩ :=
    finishAdmission_cases admission input.outcome (store.at timestamp).lastNow cleaned
  · rw [hfinish] at hcomplete
    cases hcomplete
  · rw [hfinish] at hcomplete
    obtain rfl := (Prod.mk.inj hcomplete).2
    refine ⟨{ charge with
      status := if input.outcome = .succeeded then .succeeded else .failed
      expiresAt := (store.at timestamp).lastNow + commandRetentionMs }, ?_, if_pos houtcome, le_rfl⟩
    show (settleCharge cleaned.charges admission input.outcome _).get _ = _
    rw [settleCharge_self hcommand hreplayed hcharge hnames.admissionId, InsertionMap.get_set_self]

/-- What a request that is admitted as a replay leaves alone. -/
structure Uncharged (request : QuotaStoreRequest) (cleaned store' : QuotaStore) : Prop where
  rates : ∀ reservation ∈ request.rateReservations, reservation.commandScoped = true →
    store'.rates.get (reservation.key request.tenantId) =
      cleaned.rates.get (reservation.key request.tenantId)
  capacities : ∀ reservation ∈ request.capacityReservations, reservation.commandScoped = true →
    store'.capacities.get (reservation.key request.tenantId) =
      cleaned.capacities.get (reservation.key request.tenantId)
  applied : ∀ admission, store'.admissions.get request.admissionId = some admission →
    ∀ reservation ∈ admission.appliedCapacities, reservation.commandScoped = false

/-- Under different keys, what is left out by a filter has no key of what is kept. -/
theorem key_notMem_filter {R : Type} {keyOf : R → String} {items : List R}
    (hnodup : (items.map keyOf).Nodup) {p : R → Bool} {item : R} (hitem : item ∈ items)
    (hp : p item = false) : keyOf item ∉ (items.filter p).map keyOf := by
  intro hmem
  obtain ⟨other, hother, hkey⟩ := List.mem_map.1 hmem
  rw [List.mem_filter] at hother
  obtain rfl := List.inj_on_of_nodup_map hnodup hother.1 hitem hkey
  rw [hother.2] at hp
  cases hp

theorem uncharged_write {cleaned store : QuotaStore} (hevicts : Evicts cleaned store)
    {request : QuotaStoreRequest} {plan : Plan} {now : ℤ}
    (hvalid : assertQuotaStoreRequest request = .ok ())
    (hplan : AbuseControl.plan store request now = .ok plan) (hreplayed : plan.replayed = true) :
    Uncharged request cleaned (plan.write request now store) := by
  obtain ⟨happlied, hcapacities, hrates⟩ := plan_ok hplan
  rw [happlied] at hcapacities
  refine ⟨fun r hr hscoped ↦ ?_, fun r hr hscoped ↦ ?_, fun admission hget r hr ↦ ?_⟩
  · rw [Plan.write, ← hevicts.rates]
    refine setAll_get_of_notMem ?_ store.rates
    rw [keys_nextRates hrates]
    exact key_notMem_filter (nodup_rateKeys hvalid) hr (by rw [hscoped, hreplayed]; rfl)
  · rw [Plan.write, ← hevicts.capacities]
    refine setAll_get_of_notMem ?_ store.capacities
    rw [keys_nextCapacities hcapacities]
    exact key_notMem_filter (nodup_capacityKeys hvalid) hr (by rw [hscoped, hreplayed]; rfl)
  · rw [Plan.write, InsertionMap.get_set_self] at hget
    obtain rfl := Option.some.inj hget
    have hr : r ∈ plan.appliedCapacities := hr
    rw [happlied, List.mem_filter, hreplayed, Bool.not_true, Bool.or_false,
      Bool.not_eq_true'] at hr
    exact hr.2

/-- **Within a day of a success, the command is only replayed.** -/
theorem reserve_replayed {key : String} {deadline : ℤ} {store : QuotaStore}
    (hcharged : Charged store) (hsucceeded : Succeeded key deadline store) {maxEntries : ℕ}
    {timestamp : ℤ} (hnow : (store.at timestamp).lastNow < deadline) {request : QuotaStoreRequest}
    {commandRefHash : String} (hcommand : request.commandRefHash = some commandRefHash)
    (hkey : key = chargeKey request.tenantId commandRefHash) {replayed : Bool}
    {issuedAt expiresAt : ℤ} {store' : QuotaStore}
    (h : reserve maxEntries (some timestamp) request store =
      (.ok (.admitted replayed issuedAt expiresAt), store')) :
    replayed = true ∧
      Uncharged request (cleanup (store.at timestamp).lastNow none (store.at timestamp)).2
        store' := by
  obtain ⟨middle, hmoves, hcases⟩ := reserve_cases hcharged.ownIds maxEntries timestamp request
  rcases hcases with ⟨error, h'⟩ | ⟨-, reason, h'⟩ |
    ⟨plan, cleaned, hcleanup, hevicts, hvalid, -, hplan, h'⟩
  · rw [h'] at h
    cases h
  · rw [h'] at h
    cases h
  · rw [h'] at h
    cases h
    have hmiddle : Charged middle ∧ Succeeded key deadline middle :=
      Moves.induct (P := fun s ↦ Charged s ∧ Succeeded key deadline s) hmoves
        (fun _ _ hs hmove ↦ ⟨charged_move hs.1 hmove, succeeded_move hs.1 hs.2 hnow hmove⟩)
        ⟨⟨hcharged.ownIds, hcharged.named⟩, hsucceeded⟩
    obtain ⟨charge, hcharge, hstatus, hdeadline⟩ := hmiddle.2
    have hreplayed : plan.replayed = true :=
      (plan_charge hplan hcommand (hkey ▸ hcharge) (lt_of_lt_of_le hnow hdeadline)).2.2 hstatus
    rw [hcleanup]
    exact ⟨hreplayed, uncharged_write hevicts hvalid hplan hreplayed⟩

end AbuseControl
end IpoOne
