import IpoOne.Authorization.MandateService
import IpoOne.Lib.Run
import Mathlib

/-!
# The utilization of a mandate

A mandate has a counter of what is reserved against it, and there are the reservations themselves
with what was released of each.  `MandateWrite` is all that a call on the service can write, and
`mandateStep_write` says so; that the counter is what the reservations come to is then a matter of
one case for each constructor.
-/

set_option autoImplicit false

namespace IpoOne
namespace Authorization

open Fallible

section Write

variable {H : Type}

/-! ## What a call writes -/

/-- What a call may write. -/
inductive MandateWrite (input : MandateInput) (state : MandateState H) : MandateState H → Prop
  | nothing : MandateWrite input state state
  /-- A draft, on which nothing is reserved. -/
  | created (terms : MandateTerms) (mandateHash : H) (nonceKey : String) (now : ℕ)
      (limit_pos : 0 < terms.aggregateLimitMinor) :
      MandateWrite input state
        { state with
          mandates := state.mandates.set state.drawn
            { terms with
              mandateId := state.drawn
              mandateHash
              utilizedMinor := 0
              status := .draft
              updatedAt := now }
          mandateIdsByPrincipalNonce := state.mandateIdsByPrincipalNonce.set nonceKey state.drawn
          drawn := state.drawn + 1 }
  | status (id : ℕ) (mandate : Mandate H) (stored : state.mandates.get id = some mandate)
      (nextStatus : MandateStatus) (now : ℕ) :
      MandateWrite input state
        { state with
          mandates := state.mandates.set mandate.mandateId
            { mandate with status := nextStatus, updatedAt := now } }
  | reserved (request : ReservationRequest) (now : ℕ) (mandate : Mandate H) (amount : ℤ)
      (reservationHash : H)
      (input_eq : input = .reserveUtilization request now)
      (stored : state.mandates.get request.mandateId = some mandate)
      (fresh : state.reservations.get request.reservationId = none)
      (active : mandate.status = .active)
      (window : mandate.validFrom ≤ now ∧ now < mandate.expiresAt)
      (amount_pos : 0 < amount)
      (within : amount + mandate.utilizedMinor ≤ mandate.aggregateLimitMinor) :
      MandateWrite input state
        { state with
          mandates := state.mandates.set mandate.mandateId
            { mandate with utilizedMinor := mandate.utilizedMinor + amount, updatedAt := now }
          reservations := state.reservations.set request.reservationId
            { reservationId := request.reservationId
              reservationHash
              mandateId := request.mandateId
              amountMinor := amount
              releasedMinor := 0
              createdAt := now } }
  | released (request : ReleaseRequest) (now : ℕ) (mandate : Mandate H)
      (reservation : Reservation H) (release : Release H) (amount : ℤ)
      (stored : state.mandates.get request.mandateId = some mandate)
      (reserved : state.reservations.get request.reservationId = some reservation)
      (mandate_eq : reservation.mandateId = request.mandateId)
      (amount_pos : 0 < amount)
      (within : amount ≤ reservation.amountMinor - reservation.releasedMinor) :
      MandateWrite input state
        { state with
          mandates := state.mandates.set mandate.mandateId
            { mandate with utilizedMinor := mandate.utilizedMinor - amount, updatedAt := now }
          reservations := state.reservations.set request.reservationId
            { reservation with releasedMinor := reservation.releasedMinor + amount }
          releases := state.releases.set request.releaseId release }

variable {input : MandateInput} {state : MandateState H}

theorem requireMandate_eq_ok {mandateId : ℕ} {mandate : Mandate H} :
    requireMandate state mandateId = .ok mandate ↔ state.mandates.get mandateId = some mandate := by
  rw [requireMandate]
  cases state.mandates.get mandateId <;> simp

theorem setStatus_write {id : ℕ} {mandate : Mandate H} (hget : state.mandates.get id = some mandate)
    (nextStatus : MandateStatus) (actorId : Option String) (reason : String) (now : ℕ) :
    MandateWrite input state (setStatus mandate nextStatus actorId reason now state).2 := by
  rw [setStatus]
  split
  · exact .nothing
  · let P := MandateWrite input state
    refine Throwing.left_lift_bind P .nothing fun _ _ ↦ ?_
    refine Throwing.left_lift_bind P .nothing fun _ _ ↦ ?_
    refine Throwing.left_lift_bind P .nothing fun _ _ ↦ ?_
    exact .status id mandate hget nextStatus now

theorem setStatus_ok {mandate updated : Mandate H} {nextStatus : MandateStatus}
    {actorId : Option String} {reason : String} {now : ℕ} {left : MandateState H}
    (h : setStatus mandate nextStatus actorId reason now state = (.ok updated, left)) :
    updated.status = nextStatus := by
  rw [setStatus] at h
  split at h
  · rename_i heq
    cases h
    exact heq
  · have hok := congrArg Prod.fst h
    simp only [Throwing.fst_lift_bind_eq_ok] at hok
    obtain ⟨_, -, _, -, _, -, hok⟩ := hok
    cases hok
    rfl

theorem assertAuthorized_write (authorization : AuthorizationInput) (state : MandateState H) :
    MandateWrite input state (assertAuthorized authorization state).2 := by
  let P := MandateWrite input state
  refine Throwing.left_lift_bind P .nothing fun _ _ ↦ ?_
  refine Throwing.left_lift_bind P .nothing fun _ _ ↦ ?_
  refine Throwing.left_get_bind P ?_
  refine Throwing.left_lift_bind P .nothing fun found hfound ↦ ?_
  rw [requireMandate_eq_ok] at hfound
  rw [Throwing.left_bind fun mandate ↦ Throwing.reads_bind (Throwing.reads_lift _) fun _ ↦
    Throwing.reads_pure _, expireIfElapsed]
  split
  · exact setStatus_write hfound ..
  · exact .nothing

/-- What an authorization says: it is about the mandate as it stands, which is active and within its
window. -/
structure Authorized (state : MandateState H) (authorization : AuthorizationInput)
    (mandate : Mandate H) : Prop where
  stored : state.mandates.get authorization.mandateId = some mandate
  active : mandate.status = .active
  window : mandate.validFrom ≤ authorization.now ∧ authorization.now < mandate.expiresAt
  checked : checkAuthorized mandate authorization = .ok ()

/-- A check of an authorization may record that a mandate has expired, and nothing else. -/
theorem keeps_assertAuthorized (authorization : AuthorizationInput) :
    Throwing.Keeps MandateState.reservations
      (assertAuthorized authorization : Throwing DomainError (MandateState H) (Mandate H)) := by
  have hstatus : ∀ (mandate : Mandate H) nextStatus actorId reason now,
      Throwing.Keeps MandateState.reservations
        (setStatus mandate nextStatus actorId reason now :
          Throwing DomainError (MandateState H) (Mandate H)) := by
    intro mandate nextStatus actorId reason now
    rw [setStatus]
    split
    · exact Throwing.keeps_pure _
    · refine Throwing.keeps_bind (Throwing.keeps_lift _) fun _ ↦
        Throwing.keeps_bind (Throwing.keeps_lift _) fun _ ↦
        Throwing.keeps_bind (Throwing.keeps_lift _) fun _ ↦ ?_
      exact Throwing.keeps_bind (Throwing.keeps_modify fun _ ↦ rfl) fun _ ↦ Throwing.keeps_pure _
  refine Throwing.keeps_bind (Throwing.keeps_lift _) fun _ ↦
    Throwing.keeps_bind (Throwing.keeps_lift _) fun _ ↦
    Throwing.keeps_bind Throwing.keeps_get fun _ ↦
    Throwing.keeps_bind (Throwing.keeps_lift _) fun found ↦
    Throwing.keeps_bind ?_ fun _ ↦
    Throwing.keeps_bind (Throwing.keeps_lift _) fun _ ↦ Throwing.keeps_pure _
  rw [expireIfElapsed]
  split
  · exact hstatus _ _ _ _ _
  · exact Throwing.keeps_pure _

theorem checkAuthorized_ok {mandate : Mandate H} {authorization : AuthorizationInput}
    (h : checkAuthorized mandate authorization = .ok ()) :
    mandate.status = .active ∧ mandate.validFrom ≤ authorization.now ∧
      checkAmount mandate authorization = .ok () := by
  simp only [checkAuthorized, bind_eq_ok, throwIf_eq_ok, not_not, not_lt, exists_const] at h
  obtain ⟨hactive, hfrom, -, -, -, _, -, hamount⟩ := h
  exact ⟨hactive, hfrom, hamount⟩

theorem checkAmount_ok {mandate : Mandate H} {authorization : AuthorizationInput} {amount : ℤ}
    (h : checkAmount mandate authorization = .ok ())
    (hamount : authorization.amountMinor = some amount)
    (henforce : authorization.enforceAggregateLimit = true) :
    0 < amount ∧ amount + mandate.utilizedMinor ≤ mandate.aggregateLimitMinor := by
  rw [checkAmount, hamount] at h
  simp only [bind_eq_ok, throwIf_eq_ok, not_and] at h
  obtain ⟨parsed, hparsed, _, -, hlimit⟩ := h
  obtain ⟨rfl, hpos⟩ := assertPositiveMinorUnits_ok hparsed
  exact ⟨hpos, Int.not_lt.1 (hlimit henforce)⟩

theorem assertAuthorized_ok {authorization : AuthorizationInput} {mandate : Mandate H}
    {left : MandateState H} (h : assertAuthorized authorization state = (.ok mandate, left)) :
    left = state ∧ Authorized state authorization mandate := by
  rw [assertAuthorized] at h
  simp only [Throwing.lift_bind_eq_return, Throwing.get_bind_eq_return, requireMandate_eq_ok] at h
  obtain ⟨_, -, _, -, found, hfound, h⟩ := h
  rw [Throwing.bind_eq_return] at h
  obtain ⟨current, between, hexpire, h⟩ := h
  simp only [Throwing.lift_bind_eq_return, Throwing.pure_apply, Prod.mk.injEq,
    Except.ok.injEq] at h
  obtain ⟨_, hcheck, rfl, rfl⟩ := h
  obtain ⟨hactive, hfrom, -⟩ := checkAuthorized_ok hcheck
  rw [expireIfElapsed] at hexpire
  split at hexpire
  · -- the window has elapsed, and the mandate is not active any more
    rw [setStatus_ok hexpire] at hactive
    cases hactive
  · rename_i hwindow
    cases hexpire
    refine ⟨rfl, hfound, hactive, ⟨hfrom, ?_⟩, hcheck⟩
    by_contra hlate
    refine hwindow ⟨Nat.le_of_not_lt hlate, ?_, ?_⟩
    · rw [hactive]
      decide
    · rw [hactive]
      decide

section Service

variable [DecidableEq H] {hashId : MandatePreimage → H}

theorem checkMandate_ok {create : CreateMandateInput} {terms : MandateTerms}
    (h : checkMandate create = .ok terms) : 0 < terms.aggregateLimitMinor := by
  simp only [checkMandate, bind_eq_ok, pure_eq_ok] at h
  obtain ⟨_, -, _, -, _, -, _, -, _, -, _, -, _, -, _, -, _, -, _, -, _, -, aggregate,
    haggregate, _, -, rfl⟩ := h
  obtain ⟨rfl, hpos⟩ := assertPositiveMinorUnits_ok haggregate
  exact hpos

theorem createMandate_write (create : CreateMandateInput) (state : MandateState H) :
    MandateWrite input state (createMandate hashId create state).2 := by
  let P := MandateWrite input state
  refine Throwing.left_lift_bind P .nothing fun terms hterms ↦ ?_
  refine Throwing.left_get_bind P ?_
  dsimp only
  rcases state.mandateIdsByPrincipalNonce.get (terms.principalId ++ "\x00" ++ terms.nonce)
    with _ | existingId
  · exact .created terms _ _ create.now (checkMandate_ok hterms)
  · refine Throwing.left_lift_bind P .nothing fun _ _ ↦ ?_
    refine Throwing.left_lift_bind P .nothing fun _ _ ↦ ?_
    exact .nothing

theorem reserveUtilization_write (request : ReservationRequest) (now : ℕ) (state : MandateState H) :
    MandateWrite (.reserveUtilization request now) state
      (reserveUtilization hashId request now state).2 := by
  let P := MandateWrite (.reserveUtilization request now) state
  refine Throwing.left_lift_bind P .nothing fun _ _ ↦ ?_
  refine Throwing.left_get_bind P ?_
  dsimp only
  rcases hfresh : state.reservations.get request.reservationId with _ | existing
  · dsimp only
    rw [Throwing.bind_apply]
    split
    · rename_i mandate left hauthorized
      obtain ⟨rfl, hauthorized⟩ := assertAuthorized_ok hauthorized
      rcases hamount : request.amountMinor with _ | amount
      · exact .nothing
      · obtain ⟨hpos, hlimit⟩ :=
          checkAmount_ok (checkAuthorized_ok hauthorized.checked).2.2 hamount rfl
        exact .reserved request now mandate amount _ rfl hauthorized.stored hfresh
          hauthorized.active hauthorized.window hpos hlimit
    · rename_i e left hrefused
      have hleft := congrArg Prod.snd hrefused
      dsimp only at hleft ⊢
      rw [← hleft]
      exact assertAuthorized_write _ state
  · refine Throwing.left_lift_bind P .nothing fun _ _ ↦ ?_
    refine Throwing.left_lift_bind P .nothing fun _ _ ↦ ?_
    exact .nothing

theorem releaseUtilization_write (request : ReleaseRequest) (now : ℕ) (state : MandateState H) :
    MandateWrite (.releaseUtilization request now) state
      (releaseUtilization hashId request now state).2 := by
  let P := MandateWrite (.releaseUtilization request now) state
  refine Throwing.left_lift_bind P .nothing fun _ _ ↦ ?_
  refine Throwing.left_lift_bind P .nothing fun _ _ ↦ ?_
  refine Throwing.left_lift_bind P .nothing fun amount hamount ↦ ?_
  obtain ⟨rfl, hpos⟩ := assertPositiveMinorUnits_ok hamount
  refine Throwing.left_get_bind P ?_
  dsimp only
  rcases state.releases.get request.releaseId with _ | existing
  · refine Throwing.left_lift_bind P .nothing fun mandate hmandate ↦ ?_
    refine Throwing.left_lift_bind P .nothing fun reservation hreservation ↦ ?_
    refine Throwing.left_lift_bind P .nothing fun _ hwithin ↦ ?_
    rw [requireMandate_eq_ok] at hmandate
    rw [throwIf_eq_ok, not_or, Int.not_lt, Int.not_lt] at hwithin
    rcases hreserved : state.reservations.get request.reservationId with _ | found
    · rw [hreserved] at hreservation
      cases hreservation
    · rw [hreserved] at hreservation
      simp only [bind_eq_ok, throwIf_eq_ok, not_not, pure_eq_ok, exists_const] at hreservation
      obtain ⟨hmandateId, rfl⟩ := hreservation
      exact .released request now mandate found _ _ hmandate hreserved hmandateId hpos hwithin.1
  · refine Throwing.left_lift_bind P .nothing fun _ _ ↦ ?_
    refine Throwing.left_lift_bind P .nothing fun _ _ ↦ ?_
    exact .nothing

/-- **All that a call writes.** -/
theorem mandateStep_write (input : MandateInput) (state : MandateState H) :
    MandateWrite input state (mandateStep hashId state input) := by
  let P := MandateWrite input state
  have hend : ∀ nextStatus id actorId reason now,
      P (endMandate nextStatus id actorId reason now state).2 := by
    intro nextStatus id actorId reason now
    refine Throwing.left_lift_bind P .nothing fun _ _ ↦ ?_
    refine Throwing.left_get_bind P ?_
    refine Throwing.left_lift_bind P .nothing fun mandate hmandate ↦ ?_
    exact setStatus_write (requireMandate_eq_ok.1 hmandate) ..
  cases input with
  | createMandate create => exact createMandate_write create state
  | activateMandate id actorId now =>
    refine Throwing.left_get_bind P ?_
    refine Throwing.left_lift_bind P .nothing fun mandate hmandate ↦ ?_
    rw [requireMandate_eq_ok] at hmandate
    split
    · exact .nothing
    · refine Throwing.left_lift_bind P .nothing fun _ _ ↦ ?_
      split
      · exact setStatus_write hmandate ..
      · exact setStatus_write hmandate ..
  | suspendMandate id actorId reason now => exact hend ..
  | revokeMandate id actorId reason now => exact hend ..
  | assertAuthorized authorization => exact assertAuthorized_write authorization state
  | reserveUtilization request now => exact reserveUtilization_write request now state
  | releaseUtilization request now => exact releaseUtilization_write request now state

end Service

/-! ## The invariant -/

/-- What a reservation still holds. -/
def Reservation.heldMinor (reservation : Reservation H) : ℤ :=
  reservation.amountMinor - reservation.releasedMinor

/-- What the reservations against a mandate come to. -/
def MandateState.reservedMinor (state : MandateState H) (mandateId : ℕ) : ℤ :=
  (state.reservations.values.map fun reservation ↦
    if reservation.mandateId = mandateId then reservation.heldMinor else 0).sum

/-- What holds of the service. -/
structure Accounted (state : MandateState H) : Prop where
  id_eq : ∀ id mandate, state.mandates.get id = some mandate →
    mandate.mandateId = id ∧ id < state.drawn
  mandate_lt : ∀ id reservation, state.reservations.get id = some reservation →
    reservation.mandateId < state.drawn
  released_le : ∀ id reservation, state.reservations.get id = some reservation →
    0 ≤ reservation.releasedMinor ∧ reservation.releasedMinor ≤ reservation.amountMinor
  utilized_eq : ∀ id mandate, state.mandates.get id = some mandate →
    mandate.utilizedMinor = state.reservedMinor id
  utilized_le : ∀ id mandate, state.mandates.get id = some mandate →
    mandate.utilizedMinor ≤ mandate.aggregateLimitMinor

theorem accounted_new : Accounted (.new : MandateState H) where
  id_eq := nofun
  mandate_lt := nofun
  released_le := nofun
  utilized_eq := nofun
  utilized_le := nofun

/-- Setting a reservation changes what is reserved by what it holds more than before. -/
theorem reservedMinor_set (state : MandateState H) (reservationId : String)
    (reservation : Reservation H) {mandates : InsertionMap ℕ (Mandate H)}
    {releases : InsertionMap String (Release H)} (mandateId : ℕ) :
    ({ state with
        mandates, releases,
        reservations := state.reservations.set reservationId reservation } :
        MandateState H).reservedMinor mandateId
      = state.reservedMinor mandateId
        + (if reservation.mandateId = mandateId then reservation.heldMinor else 0)
        - ((state.reservations.get reservationId).map fun old ↦
          if old.mandateId = mandateId then old.heldMinor else 0).getD 0 := by
  have hsum := state.reservations.sum_map_values_set reservationId reservation
    fun reservation ↦ if reservation.mandateId = mandateId then reservation.heldMinor else 0
  rw [MandateState.reservedMinor, MandateState.reservedMinor]
  dsimp only at hsum ⊢
  omega

theorem Accounted.reservedMinor_nonneg (h : Accounted state) (mandateId : ℕ) :
    0 ≤ state.reservedMinor mandateId := by
  refine List.sum_nonneg fun held hheld ↦ ?_
  obtain ⟨reservation, hmem, rfl⟩ := List.mem_map.1 hheld
  obtain ⟨id, hget⟩ := (InsertionMap.mem_values_iff _ _).1 hmem
  have hreleased := h.released_le id reservation hget
  split
  · rw [Reservation.heldMinor]
    omega
  · exact Int.le_refl 0

/-- Writing over a mandate what leaves its terms and its identifier. -/
theorem Accounted.of_mandate (h : Accounted state) {next : MandateState H} {id : ℕ}
    {mandate updated : Mandate H} (hget : state.mandates.get id = some mandate)
    (hmandates : next.mandates = state.mandates.set mandate.mandateId updated)
    (hid : updated.mandateId = id) (hdrawn : next.drawn = state.drawn)
    (hreservations : ∀ rid reservation, next.reservations.get rid = some reservation →
      reservation.mandateId < state.drawn ∧
        0 ≤ reservation.releasedMinor ∧ reservation.releasedMinor ≤ reservation.amountMinor)
    (hutilized : updated.utilizedMinor = next.reservedMinor id)
    (hlimit : updated.utilizedMinor ≤ updated.aggregateLimitMinor)
    (hothers : ∀ other, other ≠ id → next.reservedMinor other = state.reservedMinor other) :
    Accounted next := by
  obtain ⟨rfl, hlt⟩ := h.id_eq id mandate hget
  have hcases : ∀ other found, next.mandates.get other = some found →
      other = mandate.mandateId ∧ found = updated ∨
        other ≠ mandate.mandateId ∧ state.mandates.get other = some found := by
    intro other found hfound
    rw [hmandates, InsertionMap.get_set] at hfound
    split at hfound
    · rename_i heq
      exact .inl ⟨heq, (Option.some.inj hfound).symm⟩
    · rename_i hne
      exact .inr ⟨hne, hfound⟩
  refine ⟨?_, ?_, fun rid reservation hreservation ↦ (hreservations rid reservation hreservation).2,
    ?_, ?_⟩
  · intro other found hfound
    rw [hdrawn]
    rcases hcases other found hfound with ⟨rfl, rfl⟩ | ⟨-, hold⟩
    · exact ⟨hid, hlt⟩
    · exact h.id_eq other found hold
  · intro rid reservation hreservation
    rw [hdrawn]
    exact (hreservations rid reservation hreservation).1
  · intro other found hfound
    rcases hcases other found hfound with ⟨rfl, rfl⟩ | ⟨hne, hold⟩
    · exact hutilized
    · rw [hothers other hne]
      exact h.utilized_eq other found hold
  · intro other found hfound
    rcases hcases other found hfound with ⟨rfl, rfl⟩ | ⟨-, hold⟩
    · exact hlimit
    · exact h.utilized_le other found hold

theorem Accounted.reservation (h : Accounted state) {rid : String} {reservation : Reservation H}
    (hget : state.reservations.get rid = some reservation) :
    reservation.mandateId < state.drawn ∧
      0 ≤ reservation.releasedMinor ∧ reservation.releasedMinor ≤ reservation.amountMinor :=
  ⟨h.mandate_lt rid reservation hget, h.released_le rid reservation hget⟩

theorem Accounted.write (h : Accounted state) {next : MandateState H}
    (hwrite : MandateWrite input state next) : Accounted next := by
  cases hwrite with
  | nothing => exact h
  | created terms mandateHash nonceKey now hpos =>
    refine ⟨?_, ?_, h.released_le, ?_, ?_⟩
    · intro id mandate hget
      rw [InsertionMap.get_set] at hget
      split at hget
      · rename_i heq
        cases hget
        exact ⟨heq.symm, heq ▸ Nat.lt_succ_self _⟩
      · obtain ⟨hid, hlt⟩ := h.id_eq id mandate hget
        exact ⟨hid, Nat.lt_succ_of_lt hlt⟩
    · intro rid reservation hget
      exact Nat.lt_succ_of_lt (h.mandate_lt rid reservation hget)
    · intro id mandate hget
      rw [InsertionMap.get_set] at hget
      split at hget
      · rename_i heq
        cases hget
        -- nothing was reserved against a mandate that was not there
        symm
        refine List.sum_eq_zero fun held hheld ↦ ?_
        obtain ⟨reservation, hmem, rfl⟩ := List.mem_map.1 hheld
        obtain ⟨rid, hreservation⟩ := (InsertionMap.mem_values_iff _ _).1 hmem
        exact if_neg (heq ▸ (h.mandate_lt rid reservation hreservation).ne)
      · exact h.utilized_eq id mandate hget
    · intro id mandate hget
      rw [InsertionMap.get_set] at hget
      split at hget
      · cases hget
        exact hpos.le
      · exact h.utilized_le id mandate hget
  | status id mandate hget nextStatus now =>
    refine h.of_mandate hget rfl (h.id_eq id mandate hget).1 rfl
      (fun rid reservation hreservation ↦ h.reservation hreservation) ?_ ?_ fun _ _ ↦ rfl
    · exact h.utilized_eq id mandate hget
    · exact h.utilized_le id mandate hget
  | reserved request now mandate amount reservationHash _ hget hfresh _ _ hpos hwithin =>
    have hid := h.id_eq _ _ hget
    refine h.of_mandate hget rfl hid.1 rfl ?_ ?_ ?_ ?_
    · intro rid reservation hreservation
      rw [InsertionMap.get_set] at hreservation
      split at hreservation
      · cases hreservation
        exact ⟨hid.2, Int.le_refl 0, hpos.le⟩
      · exact h.reservation hreservation
    · rw [reservedMinor_set, hfresh, ← h.utilized_eq _ _ hget, if_pos rfl, Reservation.heldMinor]
      simp
    · dsimp only
      omega
    · intro other hne
      rw [reservedMinor_set, hfresh, if_neg (Ne.symm hne)]
      simp
  | released request now mandate reservation release amount hget hreserved hmandate hpos hwithin =>
    have hid := h.id_eq _ _ hget
    have hreleased := h.released_le _ _ hreserved
    refine h.of_mandate hget rfl hid.1 rfl ?_ ?_ ?_ ?_
    · intro rid found hfound
      rw [InsertionMap.get_set] at hfound
      split at hfound
      · cases hfound
        refine ⟨hmandate ▸ hid.2, ?_⟩
        dsimp only
        omega
      · exact h.reservation hfound
    · rw [reservedMinor_set, hreserved, ← h.utilized_eq _ _ hget]
      simp only [Reservation.heldMinor, hmandate, if_true, Option.map_some, Option.getD_some]
      omega
    · have hlimit := h.utilized_le _ _ hget
      dsimp only
      omega
    · intro other hne
      rw [reservedMinor_set, hreserved]
      simp [hmandate, Ne.symm hne]

/-! ## Runs -/

variable [DecidableEq H]

/-- What holds of the mandates in every state. -/
structure UtilizationHolds (hashId : MandatePreimage → H) (state : MandateState H) : Prop where
  utilized_eq : ∀ id mandate, state.mandates.get id = some mandate →
    mandate.utilizedMinor = state.reservedMinor id
  within_limit : ∀ id mandate, state.mandates.get id = some mandate →
    0 ≤ mandate.utilizedMinor ∧ mandate.utilizedMinor ≤ mandate.aggregateLimitMinor
  released_le : ∀ id reservation, state.reservations.get id = some reservation →
    0 ≤ reservation.releasedMinor ∧ reservation.releasedMinor ≤ reservation.amountMinor
  /-- A reservation under an identifier that was used changes nothing, whatever it asks for. -/
  reservation_replay : ∀ request now existing,
    state.reservations.get request.reservationId = some existing →
      mandateStep hashId state (.reserveUtilization request now) = state
  release_replay : ∀ request now existing,
    state.releases.get request.releaseId = some existing →
      mandateStep hashId state (.releaseUtilization request now) = state

/-- What is newly reserved is reserved against a mandate that is active and within its window. -/
def ReservesWithinWindow (hashId : MandatePreimage → H) (state : MandateState H)
    (input : MandateInput) : Prop :=
  ∀ id reservation, state.reservations.get id = none →
    (mandateStep hashId state input).reservations.get id = some reservation →
    ∃ request now mandate, input = .reserveUtilization request now ∧
      state.mandates.get reservation.mandateId = some mandate ∧ mandate.status = .active ∧
      mandate.validFrom ≤ now ∧ now < mandate.expiresAt

variable {hashId : MandatePreimage → H}

theorem reserveUtilization_replay {request : ReservationRequest} {existing : Reservation H}
    (hused : state.reservations.get request.reservationId = some existing) (now : ℕ) :
    mandateStep hashId state (.reserveUtilization request now) = state := by
  let P := fun left ↦ left = state
  refine Throwing.left_lift_bind P rfl fun _ _ ↦ ?_
  refine Throwing.left_get_bind P ?_
  dsimp only
  rw [hused]
  refine Throwing.left_lift_bind P rfl fun _ _ ↦ ?_
  exact Throwing.left_lift_bind P rfl fun _ _ ↦ rfl

theorem releaseUtilization_replay {request : ReleaseRequest} {existing : Release H}
    (hused : state.releases.get request.releaseId = some existing) (now : ℕ) :
    mandateStep hashId state (.releaseUtilization request now) = state := by
  let P := fun left ↦ left = state
  refine Throwing.left_lift_bind P rfl fun _ _ ↦ ?_
  refine Throwing.left_lift_bind P rfl fun _ _ ↦ ?_
  refine Throwing.left_lift_bind P rfl fun _ _ ↦ ?_
  refine Throwing.left_get_bind P ?_
  dsimp only
  rw [hused]
  refine Throwing.left_lift_bind P rfl fun _ _ ↦ ?_
  exact Throwing.left_lift_bind P rfl fun _ _ ↦ rfl

theorem Accounted.utilizationHolds (h : Accounted state) : UtilizationHolds hashId state where
  utilized_eq := h.utilized_eq
  within_limit := by
    intro id mandate hget
    refine ⟨?_, h.utilized_le id mandate hget⟩
    rw [h.utilized_eq id mandate hget]
    exact h.reservedMinor_nonneg id
  released_le := h.released_le
  reservation_replay := fun _ now _ hused ↦ reserveUtilization_replay hused now
  release_replay := fun _ now _ hused ↦ releaseUtilization_replay hused now

theorem reservesWithinWindow (state : MandateState H) (input : MandateInput) :
    ReservesWithinWindow hashId state input := by
  intro id reservation hnone hsome
  generalize hnext : mandateStep hashId state input = next at hsome
  have hwrite : MandateWrite input state next := hnext ▸ mandateStep_write input state
  cases hwrite with
  | nothing => cases hnone.symm.trans hsome
  | created => cases hnone.symm.trans hsome
  | status => cases hnone.symm.trans hsome
  | reserved request now mandate amount reservationHash hinput hget _ hactive hwindow =>
    rw [InsertionMap.get_set] at hsome
    split at hsome
    · cases hsome
      exact ⟨request, now, mandate, hinput, hget, hactive, hwindow⟩
    · cases hnone.symm.trans hsome
  | released request now mandate found release amount hget hreserved =>
    rw [InsertionMap.get_set] at hsome
    split at hsome
    · rename_i heq
      rw [heq, hreserved] at hnone
      cases hnone
    · cases hnone.symm.trans hsome

variable (hashId) in
/-- **The counter of a mandate is what its reservations come to, in every state of every run.** -/
theorem mandate_utilization (inputs : List MandateInput) :
    Run.Along (mandateStep hashId) (UtilizationHolds hashId) .new inputs ∧
      Run.Steps (mandateStep hashId) (ReservesWithinWindow hashId) .new inputs := by
  have hstep : ∀ state input, Accounted state → Accounted (mandateStep hashId state input) :=
    fun state input h ↦ h.write (mandateStep_write input state)
  constructor
  · exact (Run.along_of_invariant hstep inputs accounted_new).mono fun _ h ↦ h.utilizationHolds
  · exact Run.steps_of_invariant hstep (fun state input _ ↦ reservesWithinWindow state input) inputs
      accounted_new

end Write

end Authorization
end IpoOne
