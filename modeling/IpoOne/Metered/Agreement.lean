import IpoOne.Metered.Accounting

/-!
# A run of admissions and corrections

From tables in which nothing was charged yet, any commands.  Those that are refused change nothing,
so the theorem is about every sequence that is accepted.

The resolver is not part of the handler; what is asked of it is that a policy identifier stands for
one obligation and one cap (`PolicyIdsBind`).  The resolver of the private pilot takes the
identifier from a digest of the obligation and has one cap for all.
-/

set_option autoImplicit false

namespace IpoOne
namespace Metered

open Fallible Amendments

variable {H : Type}

/-- The tables before anything is charged. -/
def UsageStore.initial (obligations : InsertionMap String UsageObligation)
    (mandates : InsertionMap String UsageMandate) (lockboxes : InsertionMap String UsageLockbox)
    (spendPolicies : InsertionMap String SpendPolicy.Policy)
    (providers : InsertionMap String SpendPolicy.Provider) : UsageStore H where
  evidence := []
  admissions := []
  reservations := .empty
  releases := []
  obligations
  mandates
  lockboxes
  spendPolicies
  providers
  spendRequests := []
  transactions := []

/-- Policies that the resolver answers under one identifier are for the same obligation, with the
same cap on a window. -/
def PolicyIdsBind (commands : List (AdmitCommand H)) : Prop :=
  ∀ a ∈ commands, ∀ b ∈ commands, ∀ p ∈ a.resolvedPolicy, ∀ q ∈ b.resolvedPolicy,
    p.policyId = q.policyId → p.scope.obligationId = q.scope.obligationId ∧
      p.maxChargePerWindowMinor = q.maxChargePerWindowMinor

variable [DecidableEq H]

/-- The charges of the windows are within the caps of the policies. -/
structure WithinCaps (commands : List (AdmitCommand H)) (store : UsageStore H) : Prop where
  nonneg : ∀ policyId window, 0 ≤ getMeteredUsageWindowCharge store policyId window
  policies : ∀ record ∈ records store, ∃ command ∈ commands, ∃ policy ∈ command.resolvedPolicy,
    policy.policyId = record.2.policyId ∧ policy.scope = record.1.scope
  cap : ∀ command ∈ commands, ∀ policy ∈ command.resolvedPolicy, ∀ window,
    getMeteredUsageWindowCharge store policy.policyId window ≤ policy.maxChargePerWindowMinor

/-- How the representations agree. -/
structure UsageAgrees (obligations : InsertionMap String UsageObligation)
    (mandates : InsertionMap String UsageMandate) (commands : List (AdmitCommand H))
    (store : UsageStore H) : Prop where
  latest : ∀ policyId window,
    getMeteredUsageWindowCharge store policyId window = latestCharge store policyId window
  bounds : ∀ command ∈ commands, ∀ policy ∈ command.resolvedPolicy, ∀ window,
    0 ≤ getMeteredUsageWindowCharge store policy.policyId window ∧
      getMeteredUsageWindowCharge store policy.policyId window ≤ policy.maxChargePerWindowMinor
  payable : ∀ obligation, obligations.get obligation.obligationId = some obligation →
    ∑ pair ∈ windowsOf (OfObligation obligation.obligationId) store,
      getMeteredUsageWindowCharge store pair.1 pair.2 = -balanceOf (payableAccount obligation) store
  expense : ∀ obligation, obligations.get obligation.obligationId = some obligation →
    ∑ pair ∈ windowsOf (OfObligation obligation.obligationId) store,
      getMeteredUsageWindowCharge store pair.1 pair.2 = balanceOf (expenseAccount obligation) store
  utilized : ∀ mandateId, utilizedOf mandateId store = (mandates.get mandateId).map
    (·.utilizedMinor + ∑ pair ∈ windowsOf (OfMandate mandateId) store,
      getMeteredUsageWindowCharge store pair.1 pair.2)
  reserved : ∀ mandateId, reservedOf mandateId store =
    ∑ pair ∈ windowsOf (OfMandate mandateId) store, getMeteredUsageWindowCharge store pair.1 pair.2
  balanced : ∀ transaction ∈ store.transactions, transaction.Balanced
  correctedOnce : (store.evidence.filterMap (·.correctionOfUsageEvidenceId)).Nodup

section Step

variable {hashId : UsagePreimage H → H} {store : UsageStore H} {command : AdmitCommand H}
  {outcome : Outcome H} {commands : List (AdmitCommand H)}
  {obligations : InsertionMap String UsageObligation} {mandates : InsertionMap String UsageMandate}

/-- The charge of a window after an admitted command. -/
theorem windowCharge_written (hrecorded : Recorded store) (h : Admits hashId store command outcome)
    (policyId : String) (window : UsageWindow) :
    getMeteredUsageWindowCharge (written store command outcome) policyId window =
      getMeteredUsageWindowCharge store policyId window +
        if outcome.policy.policyId = policyId ∧ command.evidence.window = window then outcome.delta
        else 0 := by
  have hpolicyId : outcome.admission.policyId = outcome.policy.policyId := by
    rw [h.taken.2.2]
    rfl
  rw [(hrecorded.written h).windowCharge_eq, netCharge_written hrecorded.length,
    hrecorded.windowCharge_eq, ← hpolicyId]
  rfl

theorem WithinCaps.written (hbind : PolicyIdsBind commands) (hcommand : command ∈ commands)
    (hrecorded : Recorded store) (hcaps : WithinCaps commands store)
    (h : Admits hashId store command outcome) :
    WithinCaps commands (written store command outcome) := by
  obtain ⟨-, htakes, hadmission⟩ := h.taken
  constructor
  · intro policyId window
    rw [windowCharge_written hrecorded h]
    split
    · rename_i heq
      rw [← heq.1, ← heq.2]
      exact htakes.after_nonneg
    · rw [add_zero]
      exact hcaps.nonneg policyId window
  · rw [records_written hrecorded.length, List.forall_mem_append]
    refine ⟨hcaps.policies, List.forall_mem_singleton.2 ⟨command, hcommand, _, h.resolved, ?_, ?_⟩⟩
    · rw [hadmission]
      rfl
    · exact htakes.scope
  · intro other hother policy hpolicy window
    rw [windowCharge_written hrecorded h]
    split
    · rename_i heq
      rw [← (hbind command hcommand other hother _ h.resolved policy hpolicy heq.1).2, ← heq.1,
        ← heq.2]
      exact htakes.after_le
    · rw [add_zero]
      exact hcaps.cap other hother policy hpolicy window

theorem agreement_step (hbind : PolicyIdsBind commands) (hcommand : command ∈ commands)
    (h : Recorded store ∧ Posted obligations mandates store ∧ WithinCaps commands store) :
    Recorded (step hashId store command) ∧ Posted obligations mandates (step hashId store command) ∧
      WithinCaps commands (step hashId store command) := by
  obtain ⟨hrecorded, hposted, hcaps⟩ := h
  rcases step_eq_self_or_written hashId store command with hself | ⟨outcome, hadmits, hwritten⟩
  · rw [hself]
    exact ⟨hrecorded, hposted, hcaps⟩
  · rw [hwritten]
    exact ⟨hrecorded.written hadmits, hposted.written hrecorded hadmits,
      hcaps.written hbind hcommand hrecorded hadmits⟩

/-- The records of one policy are for one obligation and one mandate. -/
theorem WithinCaps.same_scope (hbind : PolicyIdsBind commands) (hrecorded : Recorded store)
    (hposted : Posted obligations mandates store) (hcaps : WithinCaps commands store)
    {a b : MeteredUsageEvidence H × MeteredUsageAdmission H} (ha : a ∈ records store)
    (hb : b ∈ records store) (hpolicy : a.2.policyId = b.2.policyId) :
    a.1.scope.obligationId = b.1.scope.obligationId ∧
      a.1.scope.mandateId = b.1.scope.mandateId := by
  obtain ⟨commandA, hcommandA, policyA, hpolicyA, hidA, hscopeA⟩ := hcaps.policies a ha
  obtain ⟨commandB, hcommandB, policyB, hpolicyB, hidB, hscopeB⟩ := hcaps.policies b hb
  have hobligation : a.1.scope.obligationId = b.1.scope.obligationId := by
    rw [← hscopeA, ← hscopeB]
    exact (hbind commandA hcommandA commandB hcommandB policyA hpolicyA policyB hpolicyB
      (by rw [hidA, hidB, hpolicy])).1
  -- the obligation says under which mandate it is
  have hmem : ∀ {r}, r ∈ records store → r.1 ∈ store.evidence := fun hr ↦ by
    rw [hrecorded.evidence_eq]
    exact List.mem_map_of_mem hr
  obtain ⟨obligationA, hgetA, hexactA⟩ := hposted.exact a.1 (hmem ha)
  obtain ⟨obligationB, hgetB, hexactB⟩ := hposted.exact b.1 (hmem hb)
  rw [hobligation, hgetB] at hgetA
  obtain rfl := Option.some.inj hgetA
  exact ⟨hobligation, hexactA.2.2.2.2.1.symm.trans hexactB.2.2.2.2.1⟩

theorem usageAgrees_of_invariant (hbind : PolicyIdsBind commands) (hrecorded : Recorded store)
    (hposted : Posted obligations mandates store) (hcaps : WithinCaps commands store) :
    UsageAgrees obligations mandates commands store := by
  have hobligation : ∀ obligationId, ∑ pair ∈ windowsOf (OfObligation obligationId) store,
      getMeteredUsageWindowCharge store pair.1 pair.2
      = netCharge (OfObligation obligationId) store :=
    fun _ ↦ hrecorded.sum_windowsOf fun a ha b hb hpolicy hq ↦
      (hcaps.same_scope hbind hrecorded hposted ha hb hpolicy).1.symm.trans hq
  have hmandate : ∀ mandateId, ∑ pair ∈ windowsOf (OfMandate mandateId) store,
      getMeteredUsageWindowCharge store pair.1 pair.2 = netCharge (OfMandate mandateId) store :=
    fun _ ↦ hrecorded.sum_windowsOf fun a ha b hb hpolicy hq ↦
      (hcaps.same_scope hbind hrecorded hposted ha hb hpolicy).2.symm.trans hq
  constructor
  · exact hrecorded.windowCharge_eq_latestCharge
  · intro command hcommand policy hpolicy window
    exact ⟨hcaps.nonneg _ window, hcaps.cap command hcommand policy hpolicy window⟩
  · intro obligation hget
    rw [hobligation, hposted.payable obligation hget, neg_neg]
  · intro obligation hget
    rw [hobligation, hposted.expense obligation hget]
  · intro mandateId
    rw [hmandate]
    exact hposted.utilized mandateId
  · intro mandateId
    rw [hmandate]
    exact hposted.reserved mandateId
  · exact hposted.balanced
  · exact hposted.correctedOnce

end Step

section Run

variable (hashId : UsagePreimage H → H) (obligations : InsertionMap String UsageObligation)
  (mandates : InsertionMap String UsageMandate) (lockboxes : InsertionMap String UsageLockbox)
  (spendPolicies : InsertionMap String SpendPolicy.Policy)
  (providers : InsertionMap String SpendPolicy.Provider)

omit [DecidableEq H] in
theorem recorded_initial : Recorded
    (.initial obligations mandates lockboxes spendPolicies providers : UsageStore H) where
  length := rfl
  valid := .nil
  paired := List.forall_mem_nil _
  delta := List.forall_mem_nil _

theorem posted_initial : Posted obligations mandates
    (.initial obligations mandates lockboxes spendPolicies providers : UsageStore H) where
  unchanged := rfl
  exact := List.forall_mem_nil _
  reservationIds _ _ h := nomatch h
  utilized mandateId := by
    show (mandates.get mandateId).map _ = _
    simp only [netCharge, records, UsageStore.initial, List.zip_nil_left, List.map_nil,
      List.sum_nil, add_zero]
  reserved _ := rfl
  payable _ _ := rfl
  expense _ _ := rfl
  balanced := List.forall_mem_nil _
  correctedOnce := List.nodup_nil

omit [DecidableEq H] in
theorem withinCaps_initial (commands : List (AdmitCommand H)) : WithinCaps commands
    (.initial obligations mandates lockboxes spendPolicies providers) where
  nonneg _ _ := le_refl 0
  policies := List.forall_mem_nil _
  cap _ _ policy _ _ := Int.natCast_nonneg policy.maxChargePerWindowMinor

theorem agreement_run {all commands : List (AdmitCommand H)} (hbind : PolicyIdsBind all)
    (hsub : ∀ command ∈ commands, command ∈ all) :
    Recorded (Run.run (step hashId)
      (.initial obligations mandates lockboxes spendPolicies providers)
        commands) ∧
      Posted obligations mandates (Run.run (step hashId)
        (.initial obligations mandates lockboxes spendPolicies providers) commands) ∧
      WithinCaps all (Run.run (step hashId)
        (.initial obligations mandates lockboxes spendPolicies providers) commands) := by
  have hsteps : Run.Steps (step hashId) (fun _ command ↦ command ∈ all)
      (.initial obligations mandates lockboxes spendPolicies providers) commands :=
    (Run.steps_iff_forall _ _).2 fun past command future heq ↦
      hsub command (heq ▸ List.mem_append_right past (List.mem_cons_self ..))
  refine Run.history_induct (P := fun past ↦ Recorded (Run.run (step hashId) _ past) ∧
      Posted obligations mandates (Run.run (step hashId) _ past) ∧
      WithinCaps all (Run.run (step hashId) _ past))
    ⟨recorded_initial .., posted_initial .., withinCaps_initial ..⟩ ?_ commands hsteps
  intro past command h hcommand
  rw [Run.run_append]
  exact agreement_step hbind hcommand h

/-- **The representations of metered usage agree** after any commands. -/
theorem metered_usage_agrees (commands : List (AdmitCommand H)) (hbind : PolicyIdsBind commands) :
    UsageAgrees obligations mandates commands (Run.run (step hashId)
      (.initial obligations mandates lockboxes spendPolicies providers) commands) := by
  obtain ⟨hrecorded, hposted, hcaps⟩ :=
    agreement_run hashId obligations mandates lockboxes spendPolicies
    providers hbind fun _ h ↦ h
  exact usageAgrees_of_invariant hbind hrecorded hposted hcaps

end Run

/-! ## A tenant with one obligation -/

namespace Sample

/-- A digest that keeps apart what has different identifiers. -/
def digest : UsagePreimage String → String
  | .policy terms => "policy:" ++ terms.policyId
  | .evidence terms => "evidence:" ++ terms.usageEvidenceId
  | .nonce nonce => "nonce:" ++ nonce
  | .admission terms => "admission:" ++ terms.usageEvidenceId
  | .reservation terms => "reservation:" ++ terms.reservationId
  | .release terms => "release:" ++ terms.reservationId
  | .ledgerIdempotency admissionHash => "ledger:" ++ admissionHash

/-- A digest. -/
def someHash : String := "0x1111111111111111111111111111111111111111111111111111111111111111"

/-- The scope of the samples. -/
def scope : UsageScope :=
  ⟨"tenant", "subject", "principal", "mandate", "facility", "acceptance", "obligation", "provider",
    "inference", "token", someHash, 2, "usd"⟩

/-- The policy of the samples, for that scope. -/
def policy : UsagePolicyTerms := ⟨"policy", scope, 1000, 2000, 5000, 0, 10 ^ 12, .active⟩

/-- The evidence of a quantity, used in the same five seconds. -/
def evidence (id : String) (corrected : Option String) (quantity : ℕ) :
    MeteredUsageEvidence String where
  usageEvidenceId := id
  providerEventId := "event:" ++ id
  nonce := "nonce:" ++ id
  correctionOfUsageEvidenceId := corrected
  scope := scope
  quantity
  chargeMinor := 2 * quantity
  window := ⟨0, 5000⟩
  observedAt := 6000
  finality := .finalized
  reconciliation := .reconciled
  providerKeyId := "key"
  providerPayloadHash := someHash
  usageEvidenceHash := "evidence:" ++ id

/-- The command that admits an evidence at `now`. -/
def command (now : ℕ) (evidence : MeteredUsageEvidence String) : AdmitCommand String where
  tenantId := "tenant"
  isSystemWorker := true
  authorizedObligationId := some "obligation"
  now
  evidence
  expectedPolicyHash := "policy:policy"
  providerSignature := "0123456789abcdef"
  resolvedPolicy := some policy
  signatureVerified := true

/-- An obligation with this principal outstanding. -/
def obligation (outstanding : ℤ) : UsageObligation :=
  ⟨"obligation", "subject", "principal", "mandate", "acceptance", "usd", outstanding, .executed,
    .active, true, false, false, "obligation.v2"⟩

/-- The one obligation of the tenant. -/
def obligations (outstanding : ℤ) : InsertionMap String UsageObligation :=
  InsertionMap.empty.set "obligation" (obligation outstanding)

/-- The one mandate of the tenant. -/
def mandates : InsertionMap String UsageMandate :=
  InsertionMap.empty.set "mandate" ⟨"mandate", "subject", "principal", [.providerSpend],
    ["provider"], ["usd"], 2000, 10000, 1000, 0, 10 ^ 12, .active, true, false, "mandate.v3", 0⟩

/-- The one lockbox of the tenant. -/
def lockboxes : InsertionMap String UsageLockbox :=
  InsertionMap.empty.set "obligation" ⟨"obligation", "subject", "principal", "mandate", "facility",
    "usd", ["provider"], .active, true, false, false⟩

/-- The one spend policy of the tenant. -/
def spendPolicies : InsertionMap String SpendPolicy.Policy :=
  InsertionMap.empty.set "policy"
    ⟨"policy", "subject", "provider", "usd", "model_api", 2000, 5000, 5000, 0, 0, .active⟩

/-- The one provider of the tenant. -/
def providers : InsertionMap String SpendPolicy.Provider :=
  InsertionMap.empty.set "provider" ⟨"provider", "account", .allowlisted⟩

/-- The tenant's records before anything is admitted. -/
def store (outstanding : ℤ) : UsageStore String :=
  .initial (obligations outstanding) mandates lockboxes spendPolicies providers

/-- All commands under the one policy. -/
theorem policyIdsBind {commands : List (AdmitCommand String)}
    (h : ∀ command ∈ commands, command.resolvedPolicy = some policy) : PolicyIdsBind commands := by
  intro a ha b hb p hp q hq _
  rw [Option.mem_def, h a ha] at hp
  rw [Option.mem_def, h b hb] at hq
  rw [← Option.some.inj hp, ← Option.some.inj hq]
  exact ⟨rfl, rfl⟩

/-! ### What a command of the samples leaves

The checks of the identifiers are evaluated once, for every evidence of the samples, and a command
is then admitted by what it reads of the store. -/

/-- The policy with its hash. -/
def policyRecord : MeteredUsagePolicy String := { policy with policyHash := "policy:policy" }

/-- The texts that are the same in every sample. -/
theorem texts_checked :
    assertParties scope = .ok () ∧ isHash someHash = true ∧ isId "policy" = true ∧
      isId "usd" = true ∧ isId "key" = true ∧ utf16Length "0123456789abcdef" = 16 := by
  decide +kernel

theorem assertParties_scope : assertParties scope = .ok () := texts_checked.1

theorem assertDigest_someHash (name : String) : assertDigest name someHash = .ok () :=
  throwIf_eq_ok.2 (by rw [texts_checked.2.1]; decide)

theorem assertId_eq_ok {name value : String} (h : isId value = true) :
    assertId name value = .ok () :=
  throwIf_eq_ok.2 (by rw [h]; decide)

theorem policyRecord_created :
    createMeteredUsagePolicy digest policyRecord.toUsagePolicyTerms = .ok policyRecord := by
  obtain ⟨-, -, hpolicy, hasset, -⟩ := texts_checked
  simp only [createMeteredUsagePolicy, bind_eq_ok, pure_eq_ok]
  exact ⟨(), assertId_eq_ok hpolicy, (), assertParties_scope, (), assertDigest_someHash _, (),
    by decide, (), assertId_eq_ok hasset, (), by decide, (), by decide, (), by decide, (),
    by decide, rfl⟩

/-- The identifiers of an evidence are well formed. -/
def Named (id : String) : Prop :=
  isId id = true ∧ isId ("event:" ++ id) = true ∧ isId ("nonce:" ++ id) = true

instance (id : String) : Decidable (Named id) := inferInstanceAs (Decidable (_ ∧ _))

/-- The evidence of the samples. -/
def ids : List String := ["first", "lower", "higher", "second", "third", "lowest", "later"]

theorem named : ∀ id ∈ ids, Named id := by decide +kernel

theorem evidence_created {id : String} {corrected : Option String} {quantity : ℕ} (hid : Named id)
    (hcorrected : ∀ previous, corrected = some previous → isId previous = true)
    (hquantity : 0 < quantity ∧ quantity ≤ 1000) :
    createMeteredUsageEvidence digest (evidence id corrected quantity).toEvidenceTerms =
      .ok (evidence id corrected quantity) := by
  have hforM : corrected.forM (assertId "correctionOfUsageEvidenceId") = .ok () := by
    cases corrected with
    | none => rfl
    | some previous => exact assertId_eq_ok (hcorrected previous rfl)
  have hcharge : ¬ (2 * quantity = 0 ∨ 10 ^ 78 ≤ 2 * quantity) := by omega
  have hpositive : ¬ (quantity = 0 ∨ 10 ^ 78 ≤ quantity) := by omega
  have hprice : assertPositive "unitPriceMinor" scope.unitPriceMinor = .ok () := by decide
  obtain ⟨-, -, -, hasset, hkey, -⟩ := texts_checked
  have hchronology : ¬ ((5000 : ℕ) ≤ 0 ∨ 6000 < 5000) := by decide
  simp only [createMeteredUsageEvidence, bind_eq_ok, pure_eq_ok]
  exact ⟨(), assertId_eq_ok hid.1, (), assertId_eq_ok hid.2.1, (), assertId_eq_ok hid.2.2, (),
    hforM, (), assertParties_scope, (), throwIf_eq_ok.2 hpositive, (), assertDigest_someHash _, (),
    hprice, (), throwIf_eq_ok.2 hcharge, (), assertId_eq_ok hasset, (), assertId_eq_ok hkey, (),
    assertDigest_someHash _, (),
    throwIf_eq_ok.2 hchronology, (), throwIf_eq_ok.2 (not_not.2 (Nat.mul_comm ..)), rfl⟩

theorem normalized {now : ℕ} {evidence : MeteredUsageEvidence String}
    (h : createMeteredUsageEvidence digest evidence.toEvidenceTerms = .ok evidence) :
    normalizePayload digest (command now evidence) = .ok evidence := by
  have hlength : ¬ (utf16Length "0123456789abcdef" < 16 ∨
      2048 < utf16Length "0123456789abcdef") := by
    rw [texts_checked.2.2.2.2.2]
    decide
  simp only [normalizePayload, bind_eq_ok, failIf_eq_ok, pure_eq_ok]
  exact ⟨(), hlength, evidence, h, (), not_not.2 rfl, rfl⟩

/-- The records of the tenant, where `charged` has been charged on the first day. -/
def usageOf (outstanding charged : ℤ) (now : ℕ) : UsageRecords where
  obligation := obligation outstanding
  mandate := ⟨"mandate", "subject", "principal", [.providerSpend], ["provider"], ["usd"],
    2000, 10000, 1000 + charged, 0, 10 ^ 12, .active, true, false, "mandate.v3", now⟩
  lockbox := ⟨"obligation", "subject", "principal", "mandate", "facility", "usd", ["provider"],
    .active, true, false, false⟩
  spendPolicy := ⟨"policy", "subject", "provider", "usd", "model_api", 2000, 5000, 5000, charged, 0,
    .active⟩
  provider := ⟨"provider", "account", .allowlisted⟩

theorem authorized {now updated quantity : ℕ} {outstanding charged : ℤ} {id : String}
    {corrected : Option String} (hnow : now < 10 ^ 12) (hquantity : quantity ≤ 1000)
    (hroom : charged + 2 * quantity ≤ 9000) :
    exactAuthority (command now (evidence id corrected quantity)) policyRecord
      (usageOf outstanding charged updated) := by
  refine ⟨⟨rfl, rfl, rfl, rfl, rfl⟩, ⟨rfl, rfl, rfl, rfl, rfl, rfl, rfl, rfl, rfl, rfl, rfl, rfl⟩,
    ⟨rfl, rfl, rfl, rfl, rfl, rfl, rfl, List.mem_singleton_self _, List.mem_singleton_self _,
      List.mem_singleton_self _, Nat.zero_le _, hnow⟩,
    ⟨rfl, rfl, rfl, rfl, rfl, rfl, rfl, rfl, rfl, rfl, List.mem_singleton_self _⟩,
    ⟨rfl, rfl, rfl, rfl, rfl⟩, ⟨rfl, rfl⟩, ?_⟩
  show ((2 * quantity : ℕ) : ℤ) ≤ 2000 ∧ 1000 + charged + (2 * quantity : ℕ) ≤ 10000 ∧
    ((2 * quantity : ℕ) : ℤ) ≤ 2000 ∧ ((2 * quantity : ℕ) : ℤ) ≤ 5000
  omega

theorem takes {now quantity : ℕ} {charged delta : ℤ} {id : String}
    {corrected : Option String} (hnow : now < 10 ^ 12) (hquantity : quantity ≤ 1000)
    (hcharged : 0 ≤ charged ∧ charged ≤ 5000)
    (hafter : 0 ≤ charged + delta ∧ charged + delta ≤ 5000) :
    PolicyTakes policyRecord (evidence id corrected quantity) charged delta now where
  active := rfl
  started := Nat.zero_le _
  unexpired := hnow
  scope := rfl
  finalized := rfl
  reconciled := rfl
  before_nonneg := hcharged.1
  before_lt := by omega
  quantity := hquantity
  charge := show 2 * quantity ≤ 2000 by omega
  after_nonneg := hafter.1
  after_le := hafter.2

/-- What a command comes to that adds `delta` to what is charged. -/
def outcome (store : UsageStore String) (now : ℕ) (evidence : MeteredUsageEvidence String)
    (usage : UsageRecords) (delta : ℤ) : Outcome String :=
  let prior := (readPrior store evidence.toEvidenceTerms).toOption.getD ⟨none, none⟩
  let admission := admissionOf digest policyRecord evidence
    (getMeteredUsageWindowCharge store "policy" evidence.window) delta now
  let settled := (settleReservation digest store admission evidence.toEvidenceTerms prior usage
    now).toOption.getD (none, none)
  { policy := policyRecord
    records := usage
    prior
    admission
    transaction :=
      { idempotencyKey := digest (.ledgerIdempotency admission.admissionHash)
        transactionType := if evidence.correctionOfUsageEvidenceId = none then .meteredServiceCharge
          else .meteredServiceCorrection
        assetId := usage.obligation.assetId
        referenceId := admission.admissionHash
        entries := postingEntries usage.obligation delta
        debitTotalMinor := |delta|
        creditTotalMinor := |delta| }
    reservation := settled.1
    release := settled.2 }

/-- The store has what a command reads, and nothing under its identifiers. -/
def Reads (store : UsageStore String) (now : ℕ) (evidence : MeteredUsageEvidence String)
    (usage : UsageRecords) (charged delta : ℤ) : Prop :=
  readRecords store evidence.toEvidenceTerms "policy" = .ok usage ∧
    getMeteredUsageWindowCharge store "policy" evidence.window = charged ∧
    (readPrior store evidence.toEvidenceTerms).isOk = true ∧
    ¬ isConsumed digest store evidence.toEvidenceTerms ∧
    (settleReservation digest store (outcome store now evidence usage delta).admission
      evidence.toEvidenceTerms (outcome store now evidence usage delta).prior usage now).isOk =
        true ∧
    (∀ recorded ∈ store.evidence, recorded.usageEvidenceHash ≠ evidence.usageEvidenceHash) ∧
    ∀ recorded ∈ store.admissions,
      recorded.admissionHash ≠ "admission:" ++ evidence.usageEvidenceId

instance (store : UsageStore String) (now : ℕ) (evidence : MeteredUsageEvidence String)
    (usage : UsageRecords) (charged delta : ℤ) :
    Decidable (Reads store now evidence usage charged delta) :=
  inferInstanceAs (Decidable (_ ∧ _))

/-- A charge or its correction, on the first day, is within the limits of the samples. -/
def Fits (now quantity : ℕ) (charged delta : ℤ) : Prop :=
  now < 24 * 60 * 60 * 1000 ∧ 0 < quantity ∧ quantity ≤ 1000 ∧ 0 ≤ charged ∧
    charged + 2 * quantity ≤ 9000 ∧ charged ≤ 5000 ∧ 0 ≤ charged + delta ∧
    charged + delta ≤ 5000 ∧ delta ≠ 0

instance (now quantity : ℕ) (charged delta : ℤ) : Decidable (Fits now quantity charged delta) :=
  inferInstanceAs (Decidable (_ ∧ _))

/-- What the obligation covers is posted. -/
theorem posted {store : UsageStore String} {now updated quantity : ℕ}
    {outstanding charged delta : ℤ} {id : String} {corrected : Option String}
    (hne : delta ≠ 0) (hcovered : delta ≤ outstanding) (hlt : |delta| < 10 ^ 78) :
    createMeteredUsageLedgerPosting digest (obligation outstanding)
        (outcome store now (evidence id corrected quantity) (usageOf outstanding charged updated)
          delta).admission =
      .ok (outcome store now (evidence id corrected quantity)
        (usageOf outstanding charged updated) delta).transaction := by
  simp only [createMeteredUsageLedgerPosting, bind_eq_ok, throwIf_eq_ok, pure_eq_ok]
  refine ⟨(), ?_, (), ?_, (), ?_, rfl⟩
  · simp [outcome, admissionOf, evidence, obligation, scope]
  · exact not_or.2 ⟨hne, not_le.2 hlt⟩
  · exact fun h ↦ absurd hcovered (not_le.2 h.2)

section Command

variable {store : UsageStore String} {now updated quantity : ℕ} {outstanding charged delta : ℤ}
  {id : String} {corrected : Option String}

/-- A command that reads this, and is within the limits, reaches the posting. -/
theorem considers
    (hcreated : createMeteredUsageEvidence digest (evidence id corrected quantity).toEvidenceTerms =
      .ok (evidence id corrected quantity))
    (hreads : Reads store now (evidence id corrected quantity)
      (usageOf outstanding charged updated) charged delta)
    (hdelta : chargeDelta digest policyRecord (evidence id corrected quantity)
      (outcome store now (evidence id corrected quantity) (usageOf outstanding charged updated)
        delta).prior = .ok delta)
    (hfits : Fits now quantity charged delta) :
    Considers digest store (command now (evidence id corrected quantity))
      (outcome store now (evidence id corrected quantity) (usageOf outstanding charged updated)
        delta).toConsidered := by
  obtain ⟨hrecords, hcharged, hprior, hunused, -⟩ := hreads
  obtain ⟨hnow, hpositive, hquantity, hnonneg, hroom, hwindow, hafter, hcap, hne⟩ := hfits
  have htakes : PolicyTakes policyRecord (evidence id corrected quantity)
      (getMeteredUsageWindowCharge store "policy" (evidence id corrected quantity).window) delta
      now := by
    rw [hcharged]
    exact takes (by omega) hquantity ⟨hnonneg, hwindow⟩ ⟨hafter, hcap⟩
  exact
    { verified := rfl
      normalized := normalized hcreated
      resolved := rfl
      created := policyRecord_created
      unused := hunused
      read := hrecords
      authority := authorized (by omega) hquantity hroom
      prior := eq_ok_getD hprior
      admitted := (admitMeteredUsageEvidence_eq_ok policyRecord_created hcreated).2
        ⟨delta, hdelta, htakes, rfl⟩ }

/-- The store after an admitted command. -/
def next (store : UsageStore String) (now : ℕ) (evidence : MeteredUsageEvidence String)
    (usage : UsageRecords) (delta : ℤ) : UsageStore String :=
  written store (command now evidence) (outcome store now evidence usage delta)

theorem step_eq_next
    (hcreated : createMeteredUsageEvidence digest (evidence id corrected quantity).toEvidenceTerms =
      .ok (evidence id corrected quantity))
    (hreads : Reads store now (evidence id corrected quantity)
      (usageOf outstanding charged updated) charged delta)
    (hdelta : chargeDelta digest policyRecord (evidence id corrected quantity)
      (outcome store now (evidence id corrected quantity) (usageOf outstanding charged updated)
        delta).prior = .ok delta)
    (hfits : Fits now quantity charged delta) (hcovered : delta ≤ outstanding) :
    step digest store (command now (evidence id corrected quantity)) =
      next store now (evidence id corrected quantity) (usageOf outstanding charged updated)
        delta := by
  have hconsiders := considers hcreated hreads hdelta hfits
  obtain ⟨-, -, -, -, hsettled, hevidence, hadmission⟩ := hreads
  obtain ⟨hnow, -, -, hnonneg, -, hwindow, hafter, hcap, hne⟩ := hfits
  have hspent : (outcome store now (evidence id corrected quantity)
      (usageOf outstanding charged updated) delta).dailySpentAfter now = charged + delta :=
    congrArg (· + delta) (if_pos (Nat.div_eq_of_lt hnow).symm)
  exact step_of_admits
    { toConsiders := hconsiders
      posted := posted hne hcovered (by rw [abs_lt]; omega)
      settled := eq_ok_getD hsettled
      utilized := show 0 ≤ 1000 + charged + delta by omega
      daily := hspent ▸ hafter
      dailyLimit := hspent ▸ hcap
      newEvidence := hevidence
      newAdmission := hadmission }

theorem step_charge (hnamed : Named id)
    (hreads : Reads store now (evidence id none quantity) (usageOf outstanding charged updated)
      charged (2 * quantity))
    (hfits : Fits now quantity charged (2 * quantity))
    (hcovered : 2 * (quantity : ℤ) ≤ outstanding) :
    step digest store (command now (evidence id none quantity)) =
      next store now (evidence id none quantity) (usageOf outstanding charged updated)
        (2 * quantity) :=
  step_eq_next (evidence_created hnamed (by simp) ⟨hfits.2.1, hfits.2.2.1⟩) hreads
    (chargeDelta_eq_ok.2 (.inl ⟨rfl, rfl, by simp [evidence]⟩)) hfits hcovered

/-- The store has the evidence that is corrected, with an admission under the policy. -/
def Corrected (store : UsageStore String) (now : ℕ)
    (evidence previous : MeteredUsageEvidence String) (usage : UsageRecords) (delta : ℤ) : Prop :=
  (outcome store now evidence usage delta).prior.priorEvidence = some previous ∧
    (outcome store now evidence usage delta).prior.priorAdmission.map (fun admission ↦
      (admission.usageEvidenceId, admission.obligationId, admission.policyId)) =
        some (previous.usageEvidenceId, "obligation", "policy")

instance (store : UsageStore String) (now : ℕ) (evidence previous : MeteredUsageEvidence String)
    (usage : UsageRecords) (delta : ℤ) :
    Decidable (Corrected store now evidence previous usage delta) :=
  inferInstanceAs (Decidable (_ ∧ _))

theorem step_correction (previous : String) (before : Option String) (earlier : ℕ)
    (hnamed : Named id) (hprevious : Named previous)
    (hbefore : ∀ first, before = some first → isId first = true)
    (hearlier : 0 < earlier ∧ earlier ≤ 1000)
    (hdelta : 2 * (quantity : ℤ) - 2 * earlier = delta)
    (hreads : Reads store now (evidence id (some previous) quantity)
      (usageOf outstanding charged updated) charged delta)
    (hcorrected : Corrected store now (evidence id (some previous) quantity)
      (evidence previous before earlier) (usageOf outstanding charged updated) delta)
    (hfits : Fits now quantity charged delta) (hcovered : delta ≤ outstanding) :
    step digest store (command now (evidence id (some previous) quantity)) =
      next store now (evidence id (some previous) quantity) (usageOf outstanding charged updated)
        delta := by
  obtain ⟨hnow, hpositive, hquantity, hnonneg, hroom, hwindow, hafter, hcap, hne⟩ := hfits
  obtain ⟨hevidence, hadmission⟩ := hcorrected
  obtain ⟨admission, hprior, hfields⟩ := Option.map_eq_some_iff.1 hadmission
  obtain ⟨hid, hobligation, hpolicy⟩ := (by simpa [evidence] using hfields :
    admission.usageEvidenceId = previous ∧ admission.obligationId = "obligation" ∧
      admission.policyId = "policy")
  have hcorrects : Corrects policyRecord (evidence id (some previous) quantity)
      (evidence previous before earlier) admission :=
    { corrected := rfl
      admission := hid
      obligation := hobligation
      policy := hpolicy
      scope := rfl
      window := rfl
      charge := show 2 * quantity ≠ 2 * earlier by omega }
  refine step_eq_next (evidence_created hnamed ?_ ⟨hpositive, hquantity⟩) hreads
    (chargeDelta_eq_ok.2 (.inr ⟨_, admission, ?_, ⟨_, evidence_created hprevious hbefore hearlier⟩,
      hcorrects, ?_⟩)) ⟨hnow, hpositive, hquantity, hnonneg, hroom, hwindow, hafter, hcap, hne⟩
    hcovered
  · rintro _ ⟨⟩
    exact hprevious.1
  · cases hbefore : (outcome store now (evidence id (some previous) quantity)
        (usageOf outstanding charged updated) delta).prior
    rw [hbefore] at hevidence hprior
    exact congrArg₂ PriorUsage.mk hevidence hprior
  · rw [← hdelta]
    simp [evidence]

end Command

/-- The store after a charge of 500. -/
def afterFirst : UsageStore String :=
  next (store 5000) 10000 (evidence "first" none 250) (usageOf 5000 0 0) 500

/-- The store after the charge was corrected to 400. -/
def afterLower : UsageStore String :=
  next afterFirst 11000 (evidence "lower" (some "first") 200) (usageOf 5000 500 10000) (-100)

/-- The store after the charge was corrected to 600. -/
def afterHigher : UsageStore String :=
  next afterLower 12000 (evidence "higher" (some "lower") 300) (usageOf 5000 400 11000) 200

/-- The store after a second charge of 100. -/
def afterSecond : UsageStore String :=
  next afterHigher 13000 (evidence "second" none 50) (usageOf 5000 600 12000) 100

/-- What the commands read, and what they have charged in the end. -/
theorem corrected_reads :
    Reads (store 5000) 10000 (evidence "first" none 250) (usageOf 5000 0 0) 0 500 ∧
      Reads afterFirst 11000 (evidence "lower" (some "first") 200) (usageOf 5000 500 10000) 500
        (-100) ∧
      Corrected afterFirst 11000 (evidence "lower" (some "first") 200) (evidence "first" none 250)
        (usageOf 5000 500 10000) (-100) ∧
      Reads afterLower 12000 (evidence "higher" (some "lower") 300) (usageOf 5000 400 11000) 400
        200 ∧
      Corrected afterLower 12000 (evidence "higher" (some "lower") 300)
        (evidence "lower" (some "first") 200) (usageOf 5000 400 11000) 200 ∧
      Reads afterHigher 13000 (evidence "second" none 50) (usageOf 5000 600 12000) 600 100 ∧
      afterSecond.admissions.map (·.chargeDeltaMinor) = [500, -100, 200, 100] := by
  decide +kernel

theorem step_first :
    step digest (store 5000) (command 10000 (evidence "first" none 250)) = afterFirst :=
  step_charge (named _ (by decide)) corrected_reads.1 (by decide) (by decide)

theorem step_lower :
    step digest afterFirst (command 11000 (evidence "lower" (some "first") 200)) = afterLower := by
  obtain ⟨-, hreads, hcorrected, -⟩ := corrected_reads
  exact step_correction "first" none 250 (named _ (by decide)) (named _ (by decide)) (by simp)
    (by decide) (by decide) hreads hcorrected (by decide) (by decide)

theorem step_higher :
    step digest afterLower (command 12000 (evidence "higher" (some "lower") 300)) =
      afterHigher := by
  obtain ⟨-, -, -, hreads, hcorrected, -⟩ := corrected_reads
  refine step_correction "lower" (some "first") 200 (named _ (by decide)) (named _ (by decide)) ?_
    (by decide) (by decide) hreads hcorrected (by decide) (by decide)
  rintro _ ⟨⟩
  exact (named "first" (by decide)).1

theorem step_second :
    step digest afterHigher (command 13000 (evidence "second" none 50)) = afterSecond := by
  obtain ⟨-, -, -, -, -, hreads, -⟩ := corrected_reads
  exact step_charge (named _ (by decide)) hreads (by decide) (by decide)

end Sample

/-- A charge that is corrected downwards and then upwards, and a second charge. -/
def correctedUsage : List (AdmitCommand String) :=
  [Sample.command 10000 (Sample.evidence "first" none 250),
    Sample.command 11000 (Sample.evidence "lower" (some "first") 200),
    Sample.command 12000 (Sample.evidence "higher" (some "lower") 300),
    Sample.command 13000 (Sample.evidence "second" none 50)]

theorem metered_usage_agrees_corrected :
    (Run.run (step Sample.digest) (Sample.store 5000) correctedUsage).admissions.map
        (·.chargeDeltaMinor) = [500, -100, 200, 100] ∧
      PolicyIdsBind correctedUsage ∧
      UsageAgrees (Sample.obligations 5000) Sample.mandates correctedUsage
        (Run.run (step Sample.digest) (Sample.store 5000) correctedUsage) := by
  have hrun : Run.run (step Sample.digest) (Sample.store 5000) correctedUsage =
      Sample.afterSecond := by
    rw [correctedUsage, Run.run, Sample.step_first, Run.run, Sample.step_lower, Run.run,
      Sample.step_higher, Run.run, Sample.step_second, Run.run]
  have hbind : PolicyIdsBind correctedUsage := Sample.policyIdsBind (by decide)
  refine ⟨?_, hbind, metered_usage_agrees _ _ _ _ _ _ _ hbind⟩
  obtain ⟨-, -, -, -, -, -, hcharges⟩ := Sample.corrected_reads
  rw [hrun, hcharges]

end Metered
end IpoOne
