import IpoOne.Authorization.Utilization
import IpoOne.SpendPolicy.Service

/-!
# Approved spends are reserved

An approved spend request has a reservation against its mandate, under its own identifier and of its
own amount, and it stays so: the amount of a request does not change, and an approved request only
becomes a settled one.  `Requested` says all that a request for a spend can do.
-/

set_option autoImplicit false

namespace IpoOne
namespace SpendPolicy

open Fallible
open Throwing (get modify lift Keeps)
open Authorization (MandateState MandatePreimage MandateInput Reservation mandateStep)

variable {H : Type}

/-! ## Reservations -/

/-- What a mandate call does to the reservations: their amounts stay. -/
def KeepsAmounts (reservations next : InsertionMap String (Reservation H)) : Prop :=
  ∀ id reservation, reservations.get id = some reservation →
    ∃ reservation', next.get id = some reservation' ∧
      reservation'.amountMinor = reservation.amountMinor

theorem KeepsAmounts.refl (reservations : InsertionMap String (Reservation H)) :
    KeepsAmounts reservations reservations :=
  fun _ reservation h ↦ ⟨reservation, h, rfl⟩

theorem keepsAmounts_set {reservations : InsertionMap String (Reservation H)} {id : String}
    {reservation : Reservation H}
    (h : ∀ old, reservations.get id = some old → reservation.amountMinor = old.amountMinor) :
    KeepsAmounts reservations (reservations.set id reservation) := by
  intro id' old hold
  rw [InsertionMap.get_set]
  by_cases hid : id' = id
  · subst hid
    rw [if_pos rfl]
    exact ⟨reservation, rfl, h old hold⟩
  · rw [if_neg hid]
    exact ⟨old, hold, rfl⟩

theorem keepsAmounts_write {input : MandateInput} {state next : MandateState H}
    (h : Authorization.MandateWrite input state next) :
    KeepsAmounts state.reservations next.reservations := by
  cases h with
  | nothing => exact .refl _
  | created => exact .refl _
  | status => exact .refl _
  | reserved request now mandate amount reservationHash _ _ fresh =>
    refine keepsAmounts_set fun old hold ↦ ?_
    rw [fresh] at hold
    cases hold
  | released request now mandate reservation release amount _ reserved =>
    refine keepsAmounts_set fun old hold ↦ ?_
    rw [reserved] at hold
    rw [← Option.some.inj hold]

section Requests

variable [DecidableEq H] {hashId : MandatePreimage → H}

/-- A new reservation is of the amount that was asked for. -/
theorem reserveUtilization_fresh {request : Authorization.ReservationRequest} {now : ℕ} {amount : ℤ}
    {state : MandateState H} (hamount : request.amountMinor = some amount)
    (hfresh : state.reservations.get request.reservationId = none) :
    match Authorization.reserveUtilization hashId request now state with
    | (.ok _, left) => ∃ reservation,
        left.reservations = state.reservations.set request.reservationId reservation ∧
          reservation.amountMinor = amount
    | (.error _, left) => left.reservations = state.reservations := by
  rw [Authorization.reserveUtilization, Throwing.bind_apply, Throwing.lift_apply]
  rcases assertNonEmptyString "reservationId" request.reservationId with error | _
  · rfl
  · simp only [Throwing.bind_apply, Throwing.get_apply, hfresh, hamount]
    have hkeeps := @Authorization.keeps_assertAuthorized H
      { mandateId := request.mandateId
        subjectId := request.subjectId
        capability := request.capability
        providerId := request.providerId
        category := request.category
        assetId := request.assetId
        amountMinor := some amount
        now } state
    generalize Authorization.assertAuthorized _ state = outcome at hkeeps ⊢
    rcases outcome with ⟨error | mandate, left⟩
    · exact hkeeps
    · rw [← hkeeps]
      exact ⟨_, rfl, rfl⟩

/-- What a spend state keeps of requests and reservations. -/
structure SpendBook (H : Type) where
  spendRequests : InsertionMap String SpendRequest
  reservations : InsertionMap String (Reservation H)

/-- That part of a state. -/
def SpendState.book (state : SpendState H) : SpendBook H where
  spendRequests := state.spendRequests
  reservations := state.authorization.reservations

omit [DecidableEq H] in
theorem keeps_rollPolicy (spendPolicyId : String) (now : ℕ) :
    Keeps SpendState.book (rollPolicy spendPolicyId now :
      Throwing DomainError (SpendState H) _) := by
  refine Throwing.keeps_bind Throwing.keeps_get fun state ↦ ?_
  rcases state.policies.get spendPolicyId with _ | policy
  · exact Throwing.keeps_pure _
  · exact Throwing.keeps_bind (Throwing.keeps_modify fun _ ↦ rfl) fun _ ↦ Throwing.keeps_pure _

omit [DecidableEq H] in
theorem keeps_createSpendPolicy (input : CreateSpendPolicyInput) :
    Keeps SpendState.book (createSpendPolicy input : Throwing DomainError (SpendState H) _) := by
  refine Throwing.keeps_bind Throwing.keeps_get fun _ ↦
    Throwing.keeps_bind (Throwing.keeps_lift _) fun _ ↦
    Throwing.keeps_bind (Throwing.keeps_lift _) fun _ ↦
    Throwing.keeps_bind (Throwing.keeps_lift _) fun _ ↦
    Throwing.keeps_bind (Throwing.keeps_lift _) fun _ ↦
    Throwing.keeps_bind (Throwing.keeps_lift _) fun _ ↦
    Throwing.keeps_bind (Throwing.keeps_lift _) fun _ ↦ ?_
  exact Throwing.keeps_bind (Throwing.keeps_modify fun _ ↦ rfl) fun _ ↦
    Throwing.keeps_bind (Throwing.keeps_lift _) fun _ ↦ Throwing.keeps_pure _

omit [DecidableEq H] in
theorem keeps_scopeRejection (input : RequestSpendInput) (provider : Option Provider)
    (policy : Option Policy) :
    Keeps SpendState.book
      (scopeRejection input provider policy : Throwing DomainError (SpendState H) _) := by
  rw [scopeRejection]
  repeat' split
  case isFalse.isFalse.isFalse.isFalse =>
    refine Throwing.keeps_bind (Throwing.keeps_attempt fun state ↦ ?_) fun authorized ↦ ?_
    · simp only [SpendState.book, withAuthorization, Throwing.zoom_apply]
      rw [Authorization.keeps_assertAuthorized _ state.authorization]
    · rcases authorized with error | mandate <;> exact Throwing.keeps_pure _
  all_goals exact Throwing.keeps_pure _

/-- What a request for a spend can do to requests and reservations. -/
inductive Requested (input : RequestSpendInput) (book : SpendBook H) : SpendBook H → Prop where
  | nothing : Requested input book book
  | rejected (request : SpendRequest) (id : request.spendRequestId = input.spendRequestId)
      (amount_pos : 0 < request.amountMinor) (status : request.status = .rejected) :
      Requested input book
        { book with spendRequests := book.spendRequests.set input.spendRequestId request }
  /-- The amount is reserved under the identifier of the request. -/
  | approved (request : SpendRequest) (reservation : Reservation H)
      (id : request.spendRequestId = input.spendRequestId) (amount_pos : 0 < request.amountMinor)
      (status : request.status = .approved)
      (reserved : reservation.amountMinor = request.amountMinor) :
      Requested input book
        { spendRequests := book.spendRequests.set input.spendRequestId request
          reservations := book.reservations.set input.spendRequestId reservation }

omit [DecidableEq H] in
theorem recordRequest_rejected {input : RequestSpendInput} {state : SpendState H} (reason : String)
    (hpos : 0 < input.amountMinor) :
    Requested input state.book
      (recordRequest (createSpendRequest input .rejected (some reason)) state).2.book :=
  .rejected (createSpendRequest input .rejected (some reason)) rfl hpos rfl

theorem approve_requested {input : RequestSpendInput} {policy : Policy} {state : SpendState H}
    (hpos : 0 < input.amountMinor)
    (hfresh : state.authorization.reservations.get input.spendRequestId = none) :
    Requested input state.book (approve hashId input policy state).2.book := by
  have hreserve := @reserveUtilization_fresh _ _ hashId
    { mandateId := input.mandateId
      reservationId := input.spendRequestId
      subjectId := input.subjectId
      capability := .providerSpend
      providerId := some input.providerId
      category := some input.purposeCode
      assetId := input.assetId
      amountMinor := some input.amountMinor }
    input.reservedAt input.amountMinor state.authorization rfl hfresh
  simp only [approve, Throwing.bind_apply, withAuthorization, Throwing.zoom_apply]
  generalize Authorization.reserveUtilization hashId _ input.reservedAt state.authorization
    = outcome
    at hreserve ⊢
  rcases outcome with ⟨error | result, left⟩
  · dsimp only at hreserve ⊢
    have hbook : ({ state with authorization := left } : SpendState H).book = state.book := by
      rw [SpendState.book, SpendState.book, hreserve]
    rw [hbook]
    exact .nothing
  · obtain ⟨reservation, hset, hamount⟩ := hreserve
    have happroved : Requested input state.book _ :=
      .approved (createSpendRequest input .approved none) reservation rfl hpos rfl hamount
    convert happroved using 1
    simp only [SpendState.book, recordRequest, Throwing.bind_apply, Throwing.modify_apply,
      Throwing.pure_apply, hset]
    rfl

/-- **All that a request for a spend can do.** -/
theorem requestSpend_requested (hashId : MandatePreimage → H) (input : RequestSpendInput)
    (state : SpendState H)
    (hfresh : state.authorization.reservations.get input.spendRequestId = none) :
    Requested input state.book (requestSpend hashId input state).2.book := by
  let P (left : SpendState H) : Prop := Requested input state.book left.book
  refine Throwing.left_get_bind P ?_
  refine Throwing.left_lift_bind P .nothing fun amount hamount ↦ ?_
  have hpos : 0 < input.amountMinor := (assertPositiveMinorUnits_ok hamount).2
  refine Throwing.left_lift_bind P .nothing fun _ _ ↦ ?_
  refine Throwing.left_lift_bind P .nothing fun _ _ ↦ ?_
  refine Throwing.left_lift_bind P .nothing fun _ _ ↦ ?_
  have hroll := keeps_rollPolicy input.spendPolicyId input.now state
  refine Throwing.left_bind_cases P (fun error left hleft ↦ ?_) fun policy left hleft ↦ ?_
  · rw [hleft] at hroll
    show Requested input state.book left.book
    rw [show left.book = state.book from hroll]
    exact .nothing
  · rw [hleft] at hroll
    have hscope := keeps_scopeRejection input (state.providers.get input.providerId) policy left
    refine Throwing.left_bind_cases P (fun error between hbetween ↦ ?_) fun reason between
      hbetween ↦ ?_
    · rw [hbetween] at hscope
      show Requested input state.book between.book
      rw [show between.book = state.book from hscope.trans hroll]
      exact .nothing
    · rw [hbetween] at hscope
      have hbook : between.book = state.book := hscope.trans hroll
      show Requested input state.book (SpendState.book _)
      rw [← hbook]
      rcases reason with _ | reason
      · rcases policy with _ | policy
        · exact .nothing
        · dsimp only
          rcases limitRejection input policy with _ | reason
          · refine approve_requested hpos ?_
            rw [← hfresh]
            exact congrArg (fun book ↦ (SpendBook.reservations book).get input.spendRequestId) hbook
          · exact recordRequest_rejected reason hpos
      · exact recordRequest_rejected reason hpos

end Requests

/-! ## The invariant -/

/-- Every request is stored under its identifier, and what is approved is reserved. -/
structure SpendBook.Reserved (book : SpendBook H) : Prop where
  id_eq : ∀ id request, book.spendRequests.get id = some request → request.spendRequestId = id
  amount_pos : ∀ id request, book.spendRequests.get id = some request → 0 < request.amountMinor
  reserved : ∀ id request, book.spendRequests.get id = some request →
    request.status = .approved ∨ request.status = .settled →
    ∃ reservation, book.reservations.get id = some reservation ∧
      reservation.amountMinor = request.amountMinor

/-- What becomes of the requests in a step: their amounts stay, and an approved one is approved or
settled. -/
def SpendBook.Follows (book next : SpendBook H) : Prop :=
  ∀ id request, book.spendRequests.get id = some request →
    ∃ request', next.spendRequests.get id = some request' ∧
      request'.amountMinor = request.amountMinor ∧
      (request.status = .approved → request'.status = .approved ∨ request'.status = .settled) ∧
      (request.status = .settled → request'.status = .settled)

theorem SpendBook.Follows.refl (book : SpendBook H) : book.Follows book :=
  fun _ request h ↦ ⟨request, h, rfl, .inl, id⟩

theorem SpendBook.reserved_new : (SpendState.new : SpendState H).book.Reserved where
  id_eq _ _ h := by cases h
  amount_pos _ _ h := by cases h
  reserved _ _ h := by cases h

/-- A step that leaves the requests, and keeps the amounts of the reservations. -/
theorem SpendBook.Reserved.keep {book next : SpendBook H} (h : book.Reserved)
    (hrequests : next.spendRequests = book.spendRequests)
    (hkeeps : KeepsAmounts book.reservations next.reservations) :
    next.Reserved ∧ book.Follows next := by
  refine ⟨⟨?_, ?_, ?_⟩, ?_⟩
  · rw [hrequests]
    exact h.id_eq
  · rw [hrequests]
    exact h.amount_pos
  · rw [hrequests]
    intro id request hget hstatus
    obtain ⟨reservation, hreservation, hamount⟩ := h.reserved id request hget hstatus
    obtain ⟨reservation', hreservation', hamount'⟩ := hkeeps id reservation hreservation
    exact ⟨reservation', hreservation', hamount'.trans hamount⟩
  · intro id request hget
    rw [hrequests]
    exact ⟨request, hget, rfl, .inl, fun hstatus ↦ hstatus⟩

/-- A step that writes one request, which is reserved if it needs to be. -/
theorem SpendBook.Reserved.set {book next : SpendBook H} (h : book.Reserved) {id : String}
    {request : SpendRequest}
    (hrequests : next.spendRequests = book.spendRequests.set id request)
    (hkeeps : KeepsAmounts book.reservations next.reservations)
    (hid : request.spendRequestId = id) (hpos : 0 < request.amountMinor)
    (hreserved : request.status = .approved ∨ request.status = .settled →
      ∃ reservation, next.reservations.get id = some reservation ∧
        reservation.amountMinor = request.amountMinor)
    (hfollows : ∀ old, book.spendRequests.get id = some old →
      request.amountMinor = old.amountMinor ∧
        (old.status = .approved → request.status = .approved ∨ request.status = .settled) ∧
        (old.status = .settled → request.status = .settled)) :
    next.Reserved ∧ book.Follows next := by
  have hget : ∀ id' request', next.spendRequests.get id' = some request' →
      (id' = id ∧ request' = request) ∨
        (id' ≠ id ∧ book.spendRequests.get id' = some request') := by
    intro id' request' hget
    rw [hrequests, InsertionMap.get_set] at hget
    by_cases hid' : id' = id
    · rw [if_pos hid'] at hget
      exact .inl ⟨hid', (Option.some.inj hget).symm⟩
    · rw [if_neg hid'] at hget
      exact .inr ⟨hid', hget⟩
  refine ⟨⟨?_, ?_, ?_⟩, ?_⟩
  · intro id' request' hget'
    obtain ⟨rfl, rfl⟩ | ⟨-, hold⟩ := hget id' request' hget'
    · exact hid
    · exact h.id_eq id' request' hold
  · intro id' request' hget'
    obtain ⟨rfl, rfl⟩ | ⟨-, hold⟩ := hget id' request' hget'
    · exact hpos
    · exact h.amount_pos id' request' hold
  · intro id' request' hget' hstatus
    obtain ⟨rfl, rfl⟩ | ⟨-, hold⟩ := hget id' request' hget'
    · exact hreserved hstatus
    · obtain ⟨reservation, hreservation, hamount⟩ := h.reserved id' request' hold hstatus
      obtain ⟨reservation', hreservation', hamount'⟩ := hkeeps id' reservation hreservation
      exact ⟨reservation', hreservation', hamount'.trans hamount⟩
  · intro id' old hold
    rw [hrequests, InsertionMap.get_set]
    by_cases hid' : id' = id
    · rw [if_pos hid']
      rw [hid'] at hold
      exact ⟨request, rfl, hfollows old hold⟩
    · rw [if_neg hid']
      exact ⟨old, hold, rfl, .inl, fun hstatus ↦ hstatus⟩

theorem Requested.reserved {input : RequestSpendInput} {book next : SpendBook H}
    (h : Requested input book next) (hbook : book.Reserved)
    (hrequests : book.spendRequests.get input.spendRequestId = none)
    (hreservations : book.reservations.get input.spendRequestId = none) :
    next.Reserved ∧ book.Follows next := by
  have hfresh : ∀ old, book.spendRequests.get input.spendRequestId ≠ some old := by
    intro old hold
    rw [hrequests] at hold
    cases hold
  cases h with
  | nothing => exact ⟨hbook, .refl _⟩
  | rejected request id amount_pos status =>
    refine hbook.set rfl (.refl _) id amount_pos ?_ fun old hold ↦ absurd hold (hfresh old)
    rw [status]
    rintro (h | h) <;> cases h
  | approved request reservation id amount_pos _ reserved =>
    refine hbook.set rfl (keepsAmounts_set fun old hold ↦ ?_) id amount_pos
      (fun _ ↦ ⟨reservation, InsertionMap.get_set_self _ _ _, reserved⟩)
      fun old hold ↦ absurd hold (hfresh old)
    rw [hreservations] at hold
    cases hold

/-- An approved spend may be settled. -/
theorem settleSpend_reserved {state : SpendState H} (hbook : state.book.Reserved)
    (spendRequestId : String) (now : ℕ) :
    (settleSpend spendRequestId now state).2.book.Reserved ∧
      state.book.Follows (settleSpend spendRequestId now state).2.book := by
  let P (left : SpendState H) : Prop := left.book.Reserved ∧ state.book.Follows left.book
  refine Throwing.left_get_bind P ?_
  refine Throwing.left_lift_bind P ⟨hbook, .refl _⟩ fun request hrequest ↦ ?_
  refine Throwing.left_lift_bind P ⟨hbook, .refl _⟩ fun _ htransition ↦ ?_
  rw [requireSpendRequest_eq_ok] at hrequest
  have happroved : request.status = .approved := by
    rw [assertTransition, throwIf_eq_ok, not_not] at htransition
    rcases hstatus : request.status <;> rw [hstatus] at htransition <;> revert htransition
      <;> decide
  have hid := hbook.id_eq spendRequestId request hrequest
  refine hbook.set rfl (.refl _) rfl
    (hbook.amount_pos spendRequestId request hrequest) (fun _ ↦ ?_) fun old hold ↦ ?_
  · rw [hid]
    exact hbook.reserved spendRequestId request hrequest (.inl happroved)
  · rw [hid] at hold
    obtain rfl := Option.some.inj (hrequest.symm.trans hold)
    exact ⟨rfl, fun _ ↦ .inr rfl, fun _ ↦ rfl⟩

end SpendPolicy
end IpoOne
