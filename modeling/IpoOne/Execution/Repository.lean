import IpoOne.Execution.Record

/-!
# What the repository of executions keeps

`Valid` is what every operation of the repository keeps: a record is found under its own identifier
and under its idempotency key, its nonce is in the window of its reservation and no higher than its
signer's head, the nonces of a signer rise in the order of their reservation, and the history of a
record leads to its state.

`reserve_cases` and `transition_cases` say what an operation can do.
-/

set_option autoImplicit false

namespace IpoOne
namespace Execution
namespace ExecutionRepository

open Fallible

variable {H : Type} [DecidableEq H] {hashId : ExecutionPreimage H → H}
  {repo repo' : ExecutionRepository H} {draft : ExecutionDraft H}
  {record current next : ExecutionRecord H} {nowMs : ℕ}

/-- The nonces of a signer, in the order of their reservation. -/
def noncesOf (repo : ExecutionRepository H) (signerReferenceHash : H) : List ℕ :=
  repo.records.values.filterMap fun record ↦
    if record.signerReferenceHash = signerReferenceHash then some record.nonce else none

/-- What is said of each record that is stored. -/
structure Stored (repo : ExecutionRepository H) (id : ℕ) (record : ExecutionRecord H) : Prop where
  executionId : record.executionId = id
  drawn : id < repo.drawn
  keyed : repo.idempotency.get record.idempotencyKeyHash = some id
  future : record.nonce ≤ record.reservedAt + maximumNonceFutureMs
  age : record.reservedAt ≤ record.nonce + maximumNonceAgeMs
  head : ∃ head, repo.nonceHeads.get record.signerReferenceHash = some head ∧ record.nonce ≤ head
  history : ∃ history, repo.transitions.get id = some history ∧
    HistoryOf record.nonceState history

/-- What every reachable repository satisfies. -/
structure Valid (repo : ExecutionRepository H) : Prop where
  stored : ∀ id record, repo.records.get id = some record → Stored repo id record
  keys : ∀ key id, repo.idempotency.get key = some id →
    ∃ record, repo.records.get id = some record ∧ record.idempotencyKeyHash = key
  increasing : ∀ signer, (repo.noncesOf signer).Pairwise (· < ·)

theorem valid_new : (new : ExecutionRepository H).Valid where
  stored _ _ h := nomatch h
  keys _ _ h := nomatch h
  increasing _ := List.Pairwise.nil

/-! ## What an operation can do -/

/-- A reservation changes nothing, or adds a record under a key that is new. -/
theorem reserve_cases (hvalid : repo.Valid) (draft : ExecutionDraft H) (nowMs expiresAfter : ℕ) :
    (∃ e, repo.reserve hashId draft nowMs expiresAfter = (.error e, repo)) ∨
    (∃ id existing, repo.idempotency.get draft.idempotencyKeyHash = some id ∧
      repo.records.get id = some existing ∧ existing.requestHash = draft.requestHash ∧
      repo.reserve hashId draft nowMs expiresAfter
        = (.ok { record := existing, replayed := true }, repo)) ∨
    ∃ record, repo.idempotency.get draft.idempotencyKeyHash = none ∧
      createReservedExecutionRecord hashId repo.drawn draft
        (repo.nextNonce draft.signerReferenceHash nowMs) nowMs expiresAfter = .ok record ∧
      repo.reserve hashId draft nowMs expiresAfter
        = (.ok { record, replayed := false }, repo.insert hashId record) := by
  cases hkey : repo.idempotency.get draft.idempotencyKeyHash with
  | some id =>
    obtain ⟨existing, hexisting, -⟩ := hvalid.keys _ _ hkey
    by_cases hsame : existing.requestHash = draft.requestHash
    · exact .inr (.inl ⟨id, existing, rfl, hexisting, hsame, by
        simp [reserve, hkey, hexisting, hsame]⟩)
    · exact .inl ⟨idempotencyConflict, by simp [reserve, hkey, hexisting, hsame]⟩
  | none =>
    cases hrecord : createReservedExecutionRecord hashId repo.drawn draft
        (repo.nextNonce draft.signerReferenceHash nowMs) nowMs expiresAfter with
    | error e => exact .inl ⟨e, by simp [reserve, hkey, hrecord]⟩
    | ok record => exact .inr (.inr ⟨record, rfl, rfl, by simp [reserve, hkey, hrecord]⟩)

omit [DecidableEq H] in
/-- A transition changes nothing, or moves the record on that was expected. -/
theorem transition_cases (repo : ExecutionRepository H) (id : ℕ)
    (expectedState nextState : HyperliquidExecutionNonceState) (resultHash : Option H)
    (outcome : Option ExecutionOutcome) (nowMs : ℕ) :
    (∃ e, repo.transition hashId id expectedState nextState resultHash outcome nowMs
      = (.error e, repo)) ∨
    ∃ current next, repo.records.get id = some current ∧ current.nonceState = expectedState ∧
      transitionExecutionRecord current nextState resultHash outcome nowMs = .ok next ∧
      repo.transition hashId id expectedState nextState resultHash outcome nowMs
        = (.ok next, repo.update hashId current next) := by
  cases hcurrent : repo.records.get id with
  | none => exact .inl ⟨concurrencyConflict, by simp [transition, hcurrent]⟩
  | some current =>
    by_cases hstate : current.nonceState = expectedState
    · cases hnext : transitionExecutionRecord current nextState resultHash outcome nowMs with
      | error e => exact .inl ⟨e, by simp [transition, hcurrent, hstate, hnext]⟩
      | ok next =>
        exact .inr ⟨current, next, rfl, hstate, hnext, by
          simp [transition, hcurrent, hstate, hnext]⟩
    · exact .inl ⟨concurrencyConflict, by simp [transition, hcurrent, hstate]⟩

omit [DecidableEq H] in
/-- A transition of the record that was expected is decided by the record. -/
theorem transition_of_stored {id : ℕ} {expectedState nextState : HyperliquidExecutionNonceState}
    {resultHash : Option H} {outcome : Option ExecutionOutcome}
    (hstored : repo.records.get id = some current) (hstate : current.nonceState = expectedState) :
    repo.transition hashId id expectedState nextState resultHash outcome nowMs
      = match transitionExecutionRecord current nextState resultHash outcome nowMs with
        | .error e => (.error e, repo)
        | .ok next => (.ok next, repo.update hashId current next) := by
  cases hnext : transitionExecutionRecord current nextState resultHash outcome nowMs <;>
    simp [transition, hstored, hstate, hnext]

/-! ## The operations keep it -/

/-- The record that `reserve` inserts. -/
structure Reserves (hashId : ExecutionPreimage H → H) (repo : ExecutionRepository H)
    (draft : ExecutionDraft H) (nowMs : ℕ) (record : ExecutionRecord H) : Prop where
  fresh : repo.idempotency.get draft.idempotencyKeyHash = none
  draft_eq : record.toExecutionDraft = draft
  executionId : record.executionId = repo.drawn
  nonce : record.nonce = repo.nextNonce draft.signerReferenceHash nowMs
  nonceState : record.nonceState = .reserved
  reservedAt : record.reservedAt = nowMs
  future : record.nonce ≤ nowMs + maximumNonceFutureMs
  age : nowMs ≤ record.nonce + maximumNonceAgeMs

theorem reserves_of_create {expiresAfter : ℕ}
    (hfresh : repo.idempotency.get draft.idempotencyKeyHash = none)
    (h : createReservedExecutionRecord hashId repo.drawn draft
      (repo.nextNonce draft.signerReferenceHash nowMs) nowMs expiresAfter = .ok record) :
    Reserves hashId repo draft nowMs record := by
  obtain ⟨hdraft, hid, hnonce, hstate, hat, hfuture, hage⟩ := createReservedExecutionRecord_ok h
  exact ⟨hfresh, hdraft, hid, hnonce, hstate, hat, hnonce ▸ hfuture, hnonce ▸ hage⟩

theorem Valid.get_drawn (hvalid : repo.Valid) : repo.records.get repo.drawn = none := by
  cases hget : repo.records.get repo.drawn with
  | none => rfl
  | some record => exact absurd (hvalid.stored _ _ hget).drawn (lt_irrefl _)

/-- No nonce of a signer is above its head. -/
theorem Valid.le_of_mem_noncesOf (hvalid : repo.Valid) {signer : H} {nonce : ℕ}
    (h : nonce ∈ repo.noncesOf signer) : nonce ≤ (repo.nonceHeads.get signer).getD 0 := by
  obtain ⟨record, hrecord, hnonce⟩ := List.mem_filterMap.1 h
  obtain ⟨id, hid⟩ := (repo.records.mem_values_iff record).1 hrecord
  obtain ⟨head, hhead, hle⟩ := (hvalid.stored id record hid).head
  split at hnonce
  · rename_i hsigner
    rw [← hsigner, hhead, Option.getD_some, ← Option.some.inj hnonce]
    exact hle
  · cases hnonce

theorem Valid.insert (hvalid : repo.Valid) (h : Reserves hashId repo draft nowMs record) :
    (repo.insert hashId record).Valid := by
  have hnone : repo.records.get record.executionId = none := by
    rw [h.executionId]
    exact hvalid.get_drawn
  have hkey : repo.idempotency.get record.idempotencyKeyHash = none := by
    have := h.fresh
    rwa [← h.draft_eq] at this
  have hnonce : record.nonce = repo.nextNonce record.signerReferenceHash nowMs := by
    rw [h.nonce, ← h.draft_eq]
  refine ⟨?_, ?_, ?_⟩
  · intro id stored hget
    rw [ExecutionRepository.insert, InsertionMap.get_set] at hget
    split at hget
    · rename_i hid
      obtain rfl := Option.some.inj hget
      refine ⟨hid.symm, ?_, ?_, h.reservedAt ▸ h.future, h.reservedAt ▸ h.age,
        ⟨record.nonce, InsertionMap.get_set_self .., le_rfl⟩, ?_⟩
      · show id < repo.drawn + 1
        rw [hid, h.executionId]
        exact Nat.lt_succ_self _
      · rw [hid]
        exact InsertionMap.get_set_self ..
      · rw [hid]
        refine ⟨_, InsertionMap.get_set_self .., ?_⟩
        rw [h.nonceState]
        exact .reserved rfl rfl
    · rename_i hid
      have hstored := hvalid.stored id stored hget
      have hne : stored.idempotencyKeyHash ≠ record.idempotencyKeyHash := by
        intro heq
        have hkeyed := hstored.keyed
        rw [heq, hkey] at hkeyed
        cases hkeyed
      refine ⟨hstored.executionId, Nat.lt_succ_of_lt hstored.drawn, ?_, hstored.future,
        hstored.age, ?_, ?_⟩
      · exact (InsertionMap.get_set_of_ne _ _ hne).trans hstored.keyed
      · obtain ⟨head, hhead, hle⟩ := hstored.head
        by_cases hsigner : stored.signerReferenceHash = record.signerReferenceHash
        · refine ⟨record.nonce, ?_, ?_⟩
          · rw [hsigner]
            exact InsertionMap.get_set_self ..
          · rw [hnonce, nextNonce, ← hsigner, hhead, Option.getD_some]
            omega
        · exact ⟨head, (InsertionMap.get_set_of_ne _ _ hsigner).trans hhead, hle⟩
      · obtain ⟨history, hhistory, hof⟩ := hstored.history
        exact ⟨history, (InsertionMap.get_set_of_ne _ _ hid).trans hhistory, hof⟩
  · intro key id hget
    rw [ExecutionRepository.insert, InsertionMap.get_set] at hget
    split at hget
    · rename_i hkey'
      obtain rfl := Option.some.inj hget
      exact ⟨record, InsertionMap.get_set_self .., hkey'.symm⟩
    · obtain ⟨stored, hstored, hkey'⟩ := hvalid.keys key id hget
      have hne : id ≠ record.executionId := by
        rintro rfl
        rw [hnone] at hstored
        cases hstored
      exact ⟨stored, (InsertionMap.get_set_of_ne _ _ hne).trans hstored, hkey'⟩
  · intro signer
    show List.Pairwise _ ((repo.records.set record.executionId record).values.filterMap _)
    rw [InsertionMap.values_set_of_get_eq_none _ hnone, List.filterMap_append]
    by_cases hsigner : record.signerReferenceHash = signer
    · rw [List.filterMap_cons, if_pos hsigner, List.filterMap_nil]
      refine List.pairwise_append.2 ⟨hvalid.increasing signer, List.pairwise_singleton _ _, ?_⟩
      rintro nonce hmem _ hlast
      obtain rfl := List.mem_singleton.1 hlast
      have hle := hvalid.le_of_mem_noncesOf hmem
      rw [hnonce, nextNonce, hsigner]
      omega
    · rw [List.filterMap_cons, if_neg hsigner, List.filterMap_nil, List.append_nil]
      exact hvalid.increasing signer

theorem Valid.update {id : ℕ} {nextState : HyperliquidExecutionNonceState} {resultHash : Option H}
    {outcome : Option ExecutionOutcome} (hvalid : repo.Valid)
    (hcurrent : repo.records.get id = some current)
    (h : transitionExecutionRecord current nextState resultHash outcome nowMs = .ok next) :
    (repo.update hashId current next).Valid := by
  obtain ⟨hlegal, rfl, hdraft, hid, -, hnonce, hreserved⟩ := transitionExecutionRecord_ok h
  have hstored := hvalid.stored id current hcurrent
  have hkey : next.idempotencyKeyHash = current.idempotencyKeyHash := by rw [hdraft]
  have hsigner : next.signerReferenceHash = current.signerReferenceHash := by rw [hdraft]
  obtain rfl := hstored.executionId
  refine ⟨?_, ?_, ?_⟩
  · intro id stored hget
    rw [ExecutionRepository.update, InsertionMap.get_set] at hget
    split at hget
    · rename_i heq
      obtain rfl := Option.some.inj hget
      subst heq
      obtain ⟨history, hhistory, hof⟩ := hstored.history
      refine ⟨hid, hstored.drawn, hkey ▸ hstored.keyed, by
        rw [hnonce, hreserved]; exact hstored.future, by
        rw [hnonce, hreserved]; exact hstored.age, by
        rw [hsigner, hnonce]; exact hstored.head, ?_⟩
      refine ⟨history ++ [transitionEntry hashId current next], ?_, ?_⟩
      · show (repo.transitions.set _ _).get _ = _
        rw [InsertionMap.get_set_self, hhistory, Option.getD_some]
      · show HistoryOf (transitionEntry hashId current next).state _
        refine .move hof hlegal ?_
        rw [transitionEntry]
        rcases hlegal with ⟨hreserved, -⟩ | ⟨hsubmitted, -⟩
        · rw [hreserved] at hof ⊢
          rw [hof.length_of_reserved]
          rfl
        · rw [hsubmitted] at hof ⊢
          rw [hof.length_of_submitted]
          rfl
    · rename_i hne
      have hother := hvalid.stored id stored hget
      obtain ⟨history, hhistory, hof⟩ := hother.history
      exact ⟨hother.executionId, hother.drawn, hother.keyed, hother.future, hother.age, hother.head,
        history, (InsertionMap.get_set_of_ne _ _ hne).trans hhistory, hof⟩
  · intro key id hget
    obtain ⟨stored, hget', hkey'⟩ := hvalid.keys key id hget
    by_cases heq : id = current.executionId
    · subst heq
      refine ⟨next, InsertionMap.get_set_self .., ?_⟩
      rw [hcurrent] at hget'
      rw [hkey, Option.some.inj hget', hkey']
    · exact ⟨stored, (InsertionMap.get_set_of_ne _ _ heq).trans hget', hkey'⟩
  · intro signer
    show List.Pairwise _ ((repo.records.set current.executionId next).values.filterMap _)
    rw [InsertionMap.filterMap_values_set_same hcurrent (by rw [hsigner, hnonce])]
    exact hvalid.increasing signer

end ExecutionRepository
end Execution
end IpoOne
