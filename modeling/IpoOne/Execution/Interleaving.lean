import IpoOne.Execution.Gateway

/-!
# The gateway under interleaving

A call owns the record it has reserved until it is done with it, and no two calls own the same one.
`Effect` lists what taking a call on can do to it and to the repository; `World.Sound` is what every
step keeps, from which `executions_sound` reads the nonces, the histories and the calls of the
transport, and `key_reserves_once` what becomes of a second call under a key.
-/

set_option autoImplicit false

namespace IpoOne
namespace Execution

open Fallible

section Runs

variable {H : Type} [DecidableEq H] {hashId : ExecutionPreimage H → H}
  {w : World H} {call next : CallState H} {repo repo' : ExecutionRepository H}

/-! ## What a call owns -/

/-- The record that a call has reserved and has not ended, with the state it must be in. -/
def CallState.owns : CallState H → Option (ℕ × HyperliquidExecutionNonceState)
  | .reserved reservation =>
    if reservation.replayed then none else some (reservation.record.executionId, .reserved)
  | .signing record => some (record.executionId, .reserved)
  | .rejecting record _ _ => some (record.executionId, .reserved)
  | .submitting record _ _ => some (record.executionId, .reserved)
  | .submitted record _ => some (record.executionId, .submitted)
  | .awaiting record _ => some (record.executionId, .submitted)
  | .finishing record _ _ _ => some (record.executionId, .submitted)
  | _ => none

/-- The call has called the transport, and has its record still to end. -/
def CallState.posted : CallState H → Bool
  | .awaiting _ _ => true
  | .finishing _ _ _ _ => true
  | _ => false

/-- The call has not ended. -/
def CallState.live : CallState H → Bool
  | .done _ => false
  | _ => true

/-- The time that a call passes on is one that the clock may return. -/
def CallState.timed : CallState H → Prop
  | .finishing _ _ _ nowMs => isSafeInteger nowMs ∧ 1 ≤ nowMs
  | _ => True

/-- The clock failed: it returned no time, or one that no date has. -/
def ClockFailed (e : DomainError) : Prop :=
  e.code = "invalid_hyperliquid_execution_clock" ∨ e.code = "RangeError"

/-- What taking a call on can do. -/
inductive Effect (repo : ExecutionRepository H) :
    CallState H → CallState H → ExecutionRepository H → Option ℕ → Prop
  /-- The call goes on with what it had. -/
  | keep {call next : CallState H} (owns : next.owns = call.owns)
      (posted : next.posted = call.posted) (timed : next.timed)
      (live : call.live = false → next = call) : Effect repo call next repo none
  /-- The call stops; where it has called the transport, because of the clock. -/
  | stop {call : CallState H} {outcome : Domain (ExecutionRecord H)} (live : call.live = true)
      (posted : call.posted = true → ∃ e, outcome = .error e ∧ ClockFailed e) :
      Effect repo call (.done outcome) repo none
  /-- The call reserves a record. -/
  | reserve {call : CallState H} {draft : ExecutionDraft H} {nowMs : ℕ} {record : ExecutionRecord H}
      {hashId : ExecutionPreimage H → H} (live : call.live = true) (owns : call.owns = none)
      (reserves : repo.Reserves hashId draft nowMs record) :
      Effect repo call (.reserved { record, replayed := false }) (repo.insert hashId record) none
  /-- The call moves its record to `SUBMITTED`. -/
  | submit {call : CallState H} {current moved : ExecutionRecord H} {signed : SignerResult H}
      {nowMs : ℕ} {hashId : ExecutionPreimage H → H}
      (owns : call.owns = some (current.executionId, .reserved)) (posted : call.posted = false)
      (stored : repo.records.get current.executionId = some current)
      (move : transitionExecutionRecord current .submitted none none nowMs = .ok moved) :
      Effect repo call (.submitted moved signed) (repo.update hashId current moved) none
  /-- The call ends its record. -/
  | finish {call : CallState H} {current moved : ExecutionRecord H}
      {state : HyperliquidExecutionNonceState} {outcome : Domain (ExecutionRecord H)}
      {resultHash : Option H} {result : Option ExecutionOutcome} {nowMs : ℕ}
      {hashId : ExecutionPreimage H → H}
      (owns : call.owns = some (current.executionId, current.nonceState))
      (stored : repo.records.get current.executionId = some current)
      (terminal : state.isTerminal = true)
      (move : transitionExecutionRecord current state resultHash result nowMs = .ok moved) :
      Effect repo call (.done outcome) (repo.update hashId current moved) none
  /-- The transport is called. -/
  | post {record : ExecutionRecord H} {signed : SignerResult H} :
      Effect repo (.submitted record signed) (.awaiting record signed) repo
        (some record.executionId)

/-! ## The steps of a call -/

theorem timestamp_eq_ok {clock nowMs : ℕ} :
    timestamp clock = .ok nowMs ↔ nowMs = clock ∧ isSafeInteger clock ∧ 1 ≤ clock := by
  simp only [timestamp, bind_eq_ok, throwIf_eq_ok, pure_eq_ok, not_or, not_not, not_lt]
  constructor
  · rintro ⟨_, hclock, rfl⟩
    exact ⟨rfl, hclock⟩
  · rintro ⟨rfl, hclock⟩
    exact ⟨(), hclock, rfl⟩

theorem timestamp_errorsIn (clock : ℕ) : ErrorsIn ClockFailed (timestamp clock) :=
  errorsIn_bind (errorsIn_throwIf (.inl rfl)) fun _ _ ↦ errorsIn_pure _

/-- A call that goes on only if `x` succeeds keeps what it has or stops. -/
theorem effect_orStop {α : Type} {x : Domain α} {k : α → CallState H} (hlive : call.live = true)
    (hposted : call.posted = true → ErrorsIn ClockFailed x)
    (hk : ∀ a, x = .ok a → (k a).owns = call.owns ∧ (k a).posted = call.posted ∧ (k a).timed) :
    Effect repo call (orStop x k) repo none := by
  cases hx : x with
  | error e => exact .stop hlive fun h ↦ ⟨e, rfl, hposted h e hx⟩
  | ok a =>
    obtain ⟨howns, hpost, htimed⟩ := hk a hx
    exact .keep howns hpost htimed fun hdone ↦ absurd (hlive.symm.trans hdone) (by decide)

omit [DecidableEq H] in
/-- With everything else in order, a transition only fails for its time. -/
theorem transitionExecutionRecord_errorsIn {record : ExecutionRecord H}
    {nextState : HyperliquidExecutionNonceState} {resultHash : Option H}
    {outcome : Option ExecutionOutcome} {nowMs : ℕ}
    (hlegal : Legal record.nonceState nextState)
    (hresult : assertResult nextState resultHash outcome = .ok ())
    (htime : isSafeInteger nowMs ∧ 1 ≤ nowMs) :
    ErrorsIn ClockFailed
      (transitionExecutionRecord record nextState resultHash outcome nowMs) := by
  have hsafe : safePositiveInteger "nowMs" nowMs = .ok () :=
    throwIf_eq_ok.2 (by rw [not_or, not_not, not_lt]; exact htime)
  have hmove : throwIf (¬ Legal record.nonceState nextState)
      "hyperliquid_execution_transition_denied"
      "nonce state transition is terminal or out of order" = .ok () :=
    throwIf_eq_ok.2 (not_not.2 hlegal)
  rw [transitionExecutionRecord, bind_of_ok hsafe, bind_of_ok hmove, bind_of_ok hresult]
  exact errorsIn_bind
    (errorsIn_bind (errorsIn_throwIf (.inr rfl)) fun _ _ ↦ errorsIn_pure _)
    fun _ _ ↦ errorsIn_pure _

omit [DecidableEq H] in
theorem assertResult_terminal (disposition : Disposition) (resultHash : H) :
    assertResult disposition.nextState (some resultHash) (some disposition.outcome) = .ok () := by
  cases disposition <;> rfl

theorem legal_terminal (disposition : Disposition) : Legal .submitted disposition.nextState := by
  cases disposition <;> decide

/-- **What taking a call on can do**, in a repository where its record is as the call expects. -/
theorem resume_effect (hvalid : repo.Valid) (htimed : call.timed)
    (howned : ∀ id state, call.owns = some (id, state) →
      ∃ record, repo.records.get id = some record ∧ record.nonceState = state)
    (answer : Answer H) :
    Effect repo call (resume hashId repo call answer).1 (resume hashId repo call answer).2.1
      (resume hashId repo call answer).2.2 := by
  cases call with
  | resolving input normalized =>
    cases answer with
    | resolved answer => exact effect_orStop rfl (fun h ↦ nomatch h) fun _ _ ↦ ⟨rfl, rfl, trivial⟩
    | _ => exact .keep rfl rfl htimed fun _ ↦ rfl
  | evaluating input normalized binding =>
    cases answer with
    | evaluated answer clock =>
      exact effect_orStop rfl (fun h ↦ nomatch h) fun _ _ ↦ ⟨rfl, rfl, trivial⟩
    | _ => exact .keep rfl rfl htimed fun _ ↦ rfl
  | reserving draft nowMs =>
    cases answer with
    | performed =>
      simp only [resume]
      rcases ExecutionRepository.reserve_cases hvalid draft nowMs (nowMs + expiresAfterMs) with
        ⟨e, heq⟩ | ⟨_, existing, -, -, -, heq⟩ | ⟨record, hfresh, hrecord, heq⟩
      · rw [heq]
        exact .stop rfl fun h ↦ nomatch h
      · rw [heq]
        exact .keep rfl rfl trivial nofun
      · rw [heq]
        exact .reserve rfl rfl (ExecutionRepository.reserves_of_create hfresh hrecord)
    | _ => exact .keep rfl rfl htimed fun _ ↦ rfl
  | reserved reservation =>
    cases answer with
    | continued =>
      simp only [resume, afterReserve]
      split
      · exact .stop rfl fun h ↦ nomatch h
      · rename_i hfresh
        exact .keep (if_neg hfresh).symm rfl trivial nofun
    | _ => exact .keep rfl rfl htimed fun _ ↦ rfl
  | signing record =>
    cases answer with
    | signed answer clock =>
      simp only [resume, afterSign]
      split
      · exact effect_orStop rfl (fun h ↦ nomatch h) fun _ _ ↦ ⟨rfl, rfl, trivial⟩
      · exact effect_orStop rfl (fun h ↦ nomatch h) fun _ _ ↦ ⟨rfl, rfl, trivial⟩
    | _ => exact .keep rfl rfl htimed fun _ ↦ rfl
  | rejecting record error nowMs =>
    cases answer with
    | performed =>
      simp only [resume]
      rcases repo.transition_cases record.executionId .reserved .rejected
          (some (localRejection hashId record)) (some .simulatedRejected) nowMs with
        ⟨e, heq⟩ | ⟨current, moved, hstored, hstate, hmove, heq⟩
      · rw [heq]
        exact .stop rfl fun h ↦ nomatch h
      · rw [heq]
        have hid := (hvalid.stored _ _ hstored).executionId
        exact .finish (by rw [hid, hstate]; rfl) (hid ▸ hstored) rfl hmove
    | _ => exact .keep rfl rfl htimed fun _ ↦ rfl
  | submitting record signed nowMs =>
    cases answer with
    | performed =>
      simp only [resume]
      rcases repo.transition_cases record.executionId .reserved .submitted none none nowMs with
        ⟨e, heq⟩ | ⟨current, moved, hstored, hstate, hmove, heq⟩
      · rw [heq]
        exact .stop rfl fun h ↦ nomatch h
      · rw [heq]
        have hid := (hvalid.stored _ _ hstored).executionId
        exact .submit (by rw [hid]; rfl) rfl (hid ▸ hstored) hmove
    | _ => exact .keep rfl rfl htimed fun _ ↦ rfl
  | submitted record signed =>
    cases answer with
    | continued => exact .post
    | _ => exact .keep rfl rfl htimed fun _ ↦ rfl
  | awaiting record signed =>
    cases answer with
    | responded answer clock =>
      refine effect_orStop rfl (fun _ ↦ timestamp_errorsIn clock) fun nowMs htime ↦ ⟨rfl, rfl, ?_⟩
      obtain ⟨rfl, hclock⟩ := timestamp_eq_ok.1 htime
      exact hclock
    | _ => exact .keep rfl rfl htimed fun _ ↦ rfl
  | finishing record disposition resultHash nowMs =>
    cases answer with
    | performed =>
      simp only [resume]
      obtain ⟨current, hcurrent, hsubmitted⟩ := howned _ _ rfl
      rcases repo.transition_cases record.executionId .submitted disposition.nextState
          (some resultHash) (some disposition.outcome) nowMs with
        ⟨e, heq⟩ | ⟨current, moved, hstored, hstate, hmove, heq⟩
      · rw [heq]
        refine .stop rfl fun _ ↦ ⟨e, rfl, ?_⟩
        -- the record is there and the move is legal, so that only the time is left
        rw [ExecutionRepository.transition_of_stored hcurrent hsubmitted] at heq
        split at heq
        · rename_i hfail
          obtain rfl := Except.error.inj (Prod.mk.inj heq).1
          exact transitionExecutionRecord_errorsIn (hsubmitted ▸ legal_terminal disposition)
            (assertResult_terminal disposition resultHash) htimed _ hfail
        · cases (Prod.mk.inj heq).1
      · rw [heq]
        have hid := (hvalid.stored _ _ hstored).executionId
        exact .finish (by rw [hid, hstate]; rfl) (hid ▸ hstored) (by cases disposition <;> rfl)
          hmove
    | _ => exact .keep rfl rfl htimed fun _ ↦ rfl
  | done outcome => cases answer <;> exact .keep rfl rfl htimed fun _ ↦ rfl

/-! ## What every step keeps -/

/-- What is said of each call of the transport: the record was in `SUBMITTED` when it was made, and
its call still has to end the record, has ended it, or has stopped because of the clock. -/
structure Posted (w : World H) (submission : Submission) : Prop where
  stored : submission.stored = some .submitted
  ended : ∃ call record, w.calls[submission.call]? = some call ∧
    w.repository.records.get submission.executionId = some record ∧
    record.nonceState ≠ .reserved ∧
    (call.posted = true ∧ call.owns = some (submission.executionId, .submitted) ∨
      ∃ outcome, call = .done outcome ∧ (record.nonceState.isTerminal = true ∨
        ∃ e, outcome = .error e ∧ ClockFailed e))

/-- What holds at all times: of the repository, and of what each call has still to do. -/
structure World.Sound (w : World H) : Prop where
  valid : w.repository.Valid
  timed : ∀ (i : ℕ) (call : CallState H), w.calls[i]? = some call → call.timed
  owned : ∀ (i : ℕ) (call : CallState H) (id : ℕ) (state : HyperliquidExecutionNonceState),
    w.calls[i]? = some call → call.owns = some (id, state) →
    ∃ record, w.repository.records.get id = some record ∧ record.nonceState = state
  exclusive : ∀ (i j : ℕ) (call other : CallState H) (id : ℕ)
    (state state' : HyperliquidExecutionNonceState), w.calls[i]? = some call →
    w.calls[j]? = some other → call.owns = some (id, state) → other.owns = some (id, state') → i = j
  once : (w.submissions.map (·.executionId)).Nodup
  posted : ∀ submission ∈ w.submissions, Posted w submission
  own : ∀ (i : ℕ) (call : CallState H) (id : ℕ) (state : HyperliquidExecutionNonceState),
    w.calls[i]? = some call → call.owns = some (id, state) →
    ∀ submission ∈ w.submissions, submission.executionId = id →
      submission.call = i ∧ call.posted = true

theorem sound_new : (World.new : World H).Sound where
  valid := ExecutionRepository.valid_new
  timed _ _ h := by cases h
  owned _ _ _ _ h := by cases h
  exclusive _ _ _ _ _ _ _ h := by cases h
  once := List.nodup_nil
  posted _ h := by cases h
  own _ _ _ _ h := by cases h

omit [DecidableEq H] in
theorem CallState.live_of_owns {call : CallState H} {owned : ℕ × HyperliquidExecutionNonceState}
    (h : call.owns = some owned) : call.live = true := by
  cases call <;> first | rfl | cases h

omit [DecidableEq H] in
/-- A call that has not ended and that called the transport has still to end the record. -/
theorem Posted.posted_of_live {w : World H} {submission : Submission} (h : Posted w submission)
    (hcall : w.calls[submission.call]? = some call) (hlive : call.live = true) :
    call.posted = true ∧ call.owns = some (submission.executionId, .submitted) := by
  obtain ⟨call', _, hcall', -, -, hcases⟩ := h.ended
  obtain rfl := Option.some.inj (hcall.symm.trans hcall')
  rcases hcases with hposted | ⟨outcome, rfl, -⟩
  · exact hposted
  · cases hlive

omit [DecidableEq H] in
theorem calls_resumed {index i : ℕ} {c : CallState H}
    {result : CallState H × ExecutionRepository H × Option ℕ}
    (hcall : w.calls[index]? = some call) :
    (w.resumed index result).calls[i]? = some c ↔
      i = index ∧ c = result.1 ∨ i ≠ index ∧ w.calls[i]? = some c := by
  have hlt : index < w.calls.length := (List.getElem?_eq_some_iff.1 hcall).1
  rw [World.resumed, List.getElem?_set]
  by_cases hi : index = i
  · subst hi
    rw [if_pos rfl, if_pos hlt, Option.some.injEq]
    simp [eq_comm]
  · rw [if_neg hi]
    simp [Ne.symm hi]

/-- A call that does not call the transport keeps the invariant if it leaves alone what it does not
own, and says the truth about what it then owns and about its own calls of the transport. -/
theorem World.Sound.quiet {index : ℕ} (h : w.Sound) (hcall : w.calls[index]? = some call)
    (hvalid : repo'.Valid) (htimed : next.timed)
    (hothers : ∀ id record, w.repository.records.get id = some record →
      (∀ state, call.owns ≠ some (id, state)) → repo'.records.get id = some record)
    (hnext : ∀ id state, next.owns = some (id, state) →
      (∃ record, repo'.records.get id = some record ∧ record.nonceState = state) ∧
      ((∃ state', call.owns = some (id, state')) ∧ (call.posted = true → next.posted = true) ∨
        w.repository.records.get id = none))
    (hposted : ∀ submission ∈ w.submissions, submission.call = index →
      Posted (w.resumed index (next, repo', none)) submission) :
    (w.resumed index (next, repo', none)).Sound := by
  have hsubmissions : (w.resumed index (next, repo', none)).submissions = w.submissions :=
    List.append_nil _
  -- another call does not own what this one does
  have hnot : ∀ {i c id state}, i ≠ index → w.calls[i]? = some c →
      c.owns = some (id, state) → ∀ state', call.owns ≠ some (id, state') :=
    fun hi hc howns state' hown ↦ hi (h.exclusive _ _ _ _ _ _ _ hc hcall howns hown)
  refine ⟨hvalid, ?_, ?_, ?_, hsubmissions ▸ h.once, ?_, ?_⟩
  · intro i c hc
    rcases (calls_resumed hcall).1 hc with ⟨-, rfl⟩ | ⟨-, hc⟩
    · exact htimed
    · exact h.timed i c hc
  · intro i c id state hc howns
    rcases (calls_resumed hcall).1 hc with ⟨-, rfl⟩ | ⟨hi, hc⟩
    · exact (hnext id state howns).1
    · obtain ⟨record, hrecord, hstate⟩ := h.owned i c id state hc howns
      exact ⟨record, hothers id record hrecord (hnot hi hc howns), hstate⟩
  · -- what is owned afresh was not there before, so that nobody else owns it
    have hfresh : ∀ {j c id state state'}, j ≠ index → w.calls[j]? = some c →
        c.owns = some (id, state) → next.owns ≠ some (id, state') := by
      intro j c id state state' hj hc howns hown
      rcases (hnext id state' hown).2 with ⟨⟨state'', hold⟩, -⟩ | hnone
      · exact hnot hj hc howns state'' hold
      · obtain ⟨record, hrecord, -⟩ := h.owned j c id state hc howns
        rw [hnone] at hrecord
        cases hrecord
    intro i j c c' id state state' hc hc' howns howns'
    rcases (calls_resumed hcall).1 hc with ⟨rfl, rfl⟩ | ⟨hi, hold⟩ <;>
      rcases (calls_resumed hcall).1 hc' with ⟨rfl, rfl⟩ | ⟨hj, hold'⟩
    · rfl
    · exact absurd howns (hfresh hj hold' howns')
    · exact absurd howns' (hfresh hi hold howns)
    · exact h.exclusive i j c c' id state state' hold hold' howns howns'
  · intro submission hmem
    rw [hsubmissions] at hmem
    by_cases hindex : submission.call = index
    · exact hposted submission hmem hindex
    · obtain ⟨hstored, c, record, hc, hrecord, hne, hcases⟩ := h.posted submission hmem
      have hother : ∀ state, call.owns ≠ some (submission.executionId, state) := fun state hown ↦
        hindex (h.own index call _ state hcall hown submission hmem rfl).1
      exact ⟨hstored, c, record, (calls_resumed hcall).2 (.inr ⟨hindex, hc⟩),
        hothers _ record hrecord hother, hne, hcases⟩
  · intro i c id state hc howns submission hmem hid
    rw [hsubmissions] at hmem
    rcases (calls_resumed hcall).1 hc with ⟨rfl, rfl⟩ | ⟨-, hc⟩
    · rcases (hnext id state howns).2 with ⟨⟨state', hold⟩, hpost⟩ | hnone
      · obtain ⟨hsame, hcallPosted⟩ := h.own _ call id state' hcall hold submission hmem hid
        exact ⟨hsame, hpost hcallPosted⟩
      · obtain ⟨_, _, record, _, hrecord, -⟩ := h.posted submission hmem
        rw [hid, hnone] at hrecord
        cases hrecord
    · exact h.own i c id state hc howns submission hmem hid

/-- The transport is called for a record that the call has just moved to `SUBMITTED`. -/
theorem World.Sound.post {index : ℕ} {record : ExecutionRecord H} {signed : SignerResult H}
    (h : w.Sound) (hcall : w.calls[index]? = some (.submitted record signed)) :
    (w.resumed index
      (.awaiting record signed, w.repository, some record.executionId)).Sound := by
  obtain ⟨stored, hstored, hstate⟩ := h.owned index _ _ _ hcall rfl
  -- no call of the transport is for this record yet
  have hnew : ∀ submission ∈ w.submissions, submission.executionId ≠ record.executionId :=
    fun submission hmem hid ↦ by
      cases (h.own index _ _ _ hcall rfl submission hmem hid).2
  refine ⟨h.valid, ?_, ?_, ?_, ?_, ?_, ?_⟩
  · intro i c hc
    rcases (calls_resumed hcall).1 hc with ⟨-, rfl⟩ | ⟨-, hc⟩
    · exact trivial
    · exact h.timed i c hc
  · intro i c id state hc howns
    rcases (calls_resumed hcall).1 hc with ⟨-, rfl⟩ | ⟨-, hc⟩
    · exact h.owned index _ id state hcall howns
    · exact h.owned i c id state hc howns
  · intro i j c c' id state state' hc hc' howns howns'
    rcases (calls_resumed hcall).1 hc with ⟨rfl, rfl⟩ | ⟨hi, hold⟩ <;>
      rcases (calls_resumed hcall).1 hc' with ⟨rfl, rfl⟩ | ⟨hj, hold'⟩
    · rfl
    · exact h.exclusive i j _ c' id state state' hcall hold' howns howns'
    · exact h.exclusive i j c _ id state state' hold hcall howns howns'
    · exact h.exclusive i j c c' id state state' hold hold' howns howns'
  · show ((w.submissions ++ [_]).map _).Nodup
    rw [List.map_append, List.map_singleton]
    refine List.nodup_append'.2 ⟨h.once, List.nodup_singleton _, ?_⟩
    intro id hmem hlast
    obtain ⟨submission, hsubmission, rfl⟩ := List.mem_map.1 hmem
    exact hnew submission hsubmission (List.mem_singleton.1 hlast)
  · intro submission hmem
    rcases List.mem_append.1 hmem with hmem | hmem
    · obtain ⟨hsubmitted, c, old, hc, hold, hne, hcases⟩ := h.posted submission hmem
      have hindex : submission.call ≠ index := by
        intro hindex
        obtain ⟨hposted, -⟩ := (h.posted submission hmem).posted_of_live (hindex ▸ hcall) rfl
        cases hposted
      exact ⟨hsubmitted, c, old, (calls_resumed hcall).2 (.inr ⟨hindex, hc⟩), hold, hne, hcases⟩
    · obtain rfl := List.mem_singleton.1 hmem
      refine ⟨?_, .awaiting record signed, stored, (calls_resumed hcall).2 (.inl ⟨rfl, rfl⟩),
        hstored, ?_, .inl ⟨rfl, rfl⟩⟩
      · show (w.repository.records.get record.executionId).map _ = _
        rw [hstored, Option.map_some, hstate]
      · rw [hstate]
        decide
  · intro i c id state hc howns submission hmem hid
    rcases List.mem_append.1 hmem with hmem | hmem
    · rcases (calls_resumed hcall).1 hc with ⟨-, rfl⟩ | ⟨-, hc⟩
      · exact absurd (hid.trans (Prod.mk.inj (Option.some.inj howns)).1.symm) (hnew submission hmem)
      · exact h.own i c id state hc howns submission hmem hid
    · obtain rfl := List.mem_singleton.1 hmem
      rcases (calls_resumed hcall).1 hc with ⟨rfl, rfl⟩ | ⟨hi, hc⟩
      · exact ⟨rfl, rfl⟩
      · obtain rfl : record.executionId = id := hid
        exact absurd (h.exclusive i index c _ _ _ _ hc hcall howns rfl) hi

/-- A call keeps the invariant whatever it does of what it can. -/
theorem World.Sound.effect {index : ℕ} {posted : Option ℕ} (h : w.Sound)
    (hcall : w.calls[index]? = some call) (heffect : Effect w.repository call next repo' posted) :
    (w.resumed index (next, repo', posted)).Sound := by
  -- the calls of the transport that this call made
  have hlive : ∀ {submission}, submission ∈ w.submissions → submission.call = index →
      call.live = true →
      call.posted = true ∧ call.owns = some (submission.executionId, .submitted) :=
    fun hmem hindex hlive ↦ (h.posted _ hmem).posted_of_live (hindex ▸ hcall) hlive
  have hnow : ∀ {result : CallState H × ExecutionRepository H × Option ℕ} {submission : Submission},
      submission.call = index → (w.resumed index result).calls[submission.call]? = some result.1 :=
    fun hindex ↦ (calls_resumed hcall).2 (.inl ⟨hindex, rfl⟩)
  cases heffect with
  | keep howns hposted htimed hended =>
    refine h.quiet hcall h.valid htimed (fun _ _ hrecord _ ↦ hrecord) ?_ ?_
    · intro id state hown
      rw [howns] at hown
      exact ⟨h.owned index call id state hcall hown,
        .inl ⟨⟨state, hown⟩, fun hp ↦ hposted.trans hp⟩⟩
    · intro submission hmem hindex
      obtain ⟨hsubmitted, c, record, hc, hrecord, hne, hcases⟩ := h.posted submission hmem
      cases hl : call.live with
      | true =>
        obtain ⟨hp, ho⟩ := hlive hmem hindex hl
        exact ⟨hsubmitted, next, record, hnow hindex, hrecord, hne,
          .inl ⟨hposted.trans hp, howns.trans ho⟩⟩
      | false =>
        obtain rfl := hended hl
        obtain rfl := Option.some.inj ((hindex ▸ hcall).symm.trans hc)
        exact ⟨hsubmitted, next, record, hnow hindex, hrecord, hne, hcases⟩
  | stop hl hposted =>
    refine h.quiet hcall h.valid trivial (fun _ _ hrecord _ ↦ hrecord)
      (fun _ _ hown ↦ by cases hown) ?_
    intro submission hmem hindex
    obtain ⟨hsubmitted, _, record, _, hrecord, hne, -⟩ := h.posted submission hmem
    exact ⟨hsubmitted, _, record, hnow hindex, hrecord, hne,
      .inr ⟨_, rfl, .inr (hposted (hlive hmem hindex hl).1)⟩⟩
  | @reserve _ draft nowMs record hashId hl howns hreserves =>
    have hdrawn : w.repository.records.get record.executionId = none :=
      hreserves.executionId ▸ h.valid.get_drawn
    refine h.quiet hcall (h.valid.insert hreserves) trivial ?_ ?_ ?_
    · intro id stored hstored _
      refine (InsertionMap.get_set_of_ne _ _ ?_).trans hstored
      rintro rfl
      rw [hdrawn] at hstored
      cases hstored
    · intro id state hown
      obtain ⟨rfl, rfl⟩ := Prod.mk.inj (Option.some.inj hown)
      exact ⟨⟨record, InsertionMap.get_set_self .., hreserves.nonceState⟩, .inr hdrawn⟩
    · intro submission hmem hindex
      obtain ⟨-, ho⟩ := hlive hmem hindex hl
      rw [howns] at ho
      cases ho
  | @submit _ current moved signed nowMs hashId howns hposted hstored hmove =>
    obtain ⟨-, hstate, -, hid, -⟩ := transitionExecutionRecord_ok hmove
    refine h.quiet hcall (h.valid.update hstored hmove) trivial ?_ ?_ ?_
    · intro id record hrecord hown
      refine (InsertionMap.get_set_of_ne _ _ ?_).trans hrecord
      rintro rfl
      exact hown _ howns
    · intro id state hown
      obtain ⟨rfl, rfl⟩ := Prod.mk.inj (Option.some.inj hown)
      rw [hid]
      exact ⟨⟨moved, InsertionMap.get_set_self .., hstate⟩, .inl ⟨⟨_, howns⟩, fun hp ↦
        absurd (hp.symm.trans hposted) (by decide)⟩⟩
    · intro submission hmem hindex
      obtain ⟨hp, -⟩ := hlive hmem hindex (CallState.live_of_owns howns)
      exact absurd (hp.symm.trans hposted) (by decide)
  | @finish _ current moved state outcome resultHash result nowMs hashId howns hstored hterminal
      hmove =>
    obtain ⟨-, rfl, -, hid, -⟩ := transitionExecutionRecord_ok hmove
    refine h.quiet hcall (h.valid.update hstored hmove) trivial ?_ (fun _ _ hown ↦ by cases hown) ?_
    · intro id record hrecord hown
      refine (InsertionMap.get_set_of_ne _ _ ?_).trans hrecord
      rintro rfl
      exact hown _ howns
    · intro submission hmem hindex
      obtain ⟨hsubmitted, -⟩ := h.posted submission hmem
      obtain ⟨-, ho⟩ := hlive hmem hindex (CallState.live_of_owns howns)
      rw [howns] at ho
      have hsame : current.executionId = submission.executionId :=
        (Prod.mk.inj (Option.some.inj ho)).1
      refine ⟨hsubmitted, _, moved, hnow hindex, ?_, ?_, .inr ⟨outcome, rfl, .inl hterminal⟩⟩
      · rw [← hsame]
        exact InsertionMap.get_set_self ..
      · intro hreserved
        rw [hreserved] at hterminal
        cases hterminal
  | post => exact h.post hcall

omit [DecidableEq H] in
theorem startCall_owns (hashId : ExecutionPreimage H → H) (input : GatewayInput H) :
    (startCall hashId input).owns = none ∧ (startCall hashId input).timed := by
  rw [startCall]
  cases (do
    assertGatewayInput input
    normalizeAction hashId input.action input.facilityHash input.orderIntentHash
      (idempotencyKeyHash hashId input)) <;> exact ⟨rfl, trivial⟩

/-- A call that begins owns nothing. -/
theorem World.Sound.execute (h : w.Sound) (input : GatewayInput H) :
    (gatewayStep hashId w (.execute input)).Sound := by
  obtain ⟨hnone, htimed⟩ := startCall_owns hashId input
  -- a call is the new one, or it was there
  have hcalls : ∀ {i : ℕ} {c : CallState H},
      (w.calls ++ [startCall hashId input])[i]? = some c →
      w.calls[i]? = some c ∨ c = startCall hashId input := by
    intro i c hc
    rw [List.getElem?_append] at hc
    split at hc
    · exact .inl hc
    · exact .inr (List.mem_singleton.1 (List.mem_of_getElem? hc))
  have hold : ∀ {i : ℕ} {c : CallState H} {owned},
      (w.calls ++ [startCall hashId input])[i]? = some c → c.owns = some owned →
      w.calls[i]? = some c := by
    intro i c owned hc howns
    rcases hcalls hc with hc | rfl
    · exact hc
    · rw [hnone] at howns
      cases howns
  refine ⟨h.valid, ?_, fun i c id state hc ho ↦ h.owned i c id state (hold hc ho) ho,
    fun i j c c' id state state' hc hc' ho ho' ↦
      h.exclusive i j c c' id state state' (hold hc ho) (hold hc' ho') ho ho',
    h.once, ?_, fun i c id state hc ho ↦ h.own i c id state (hold hc ho) ho⟩
  · intro i c hc
    rcases hcalls hc with hc | rfl
    · exact h.timed i c hc
    · exact htimed
  · intro submission hmem
    obtain ⟨hsubmitted, c, record, hc, hrest⟩ := h.posted submission hmem
    exact ⟨hsubmitted, c, record,
      (List.getElem?_append_left (List.getElem?_eq_some_iff.1 hc).1).trans hc, hrest⟩

/-- **Every step keeps the invariant.** -/
theorem World.Sound.step (h : w.Sound) (input : GatewayStep H) :
    (gatewayStep hashId w input).Sound := by
  cases input with
  | execute input => exact h.execute input
  | resume index answer =>
    rw [gatewayStep]
    split
    · exact h
    · rename_i call hcall
      exact h.effect hcall (resume_effect h.valid (h.timed index call hcall)
        (fun id state ↦ h.owned index call id state hcall) answer)

/-! ## What a run gives -/

/-- What a record keeps whatever becomes of it. -/
structure SameExecution (record later : ExecutionRecord H) : Prop where
  draft : later.toExecutionDraft = record.toExecutionDraft
  executionId : later.executionId = record.executionId
  executionHash : later.executionHash = record.executionHash
  nonce : later.nonce = record.nonce
  reservedAt : later.reservedAt = record.reservedAt

omit [DecidableEq H] in
theorem SameExecution.refl (record : ExecutionRecord H) : SameExecution record record :=
  ⟨rfl, rfl, rfl, rfl, rfl⟩

omit [DecidableEq H] in
theorem SameExecution.trans {record later latest : ExecutionRecord H}
    (h : SameExecution record later) (h' : SameExecution later latest) :
    SameExecution record latest :=
  ⟨h'.draft.trans h.draft, h'.executionId.trans h.executionId,
    h'.executionHash.trans h.executionHash, h'.nonce.trans h.nonce,
    h'.reservedAt.trans h.reservedAt⟩

/-- A record that is stored stays, in its state or in one that may follow it. -/
theorem Effect.moves {posted : Option ℕ} (hvalid : repo.Valid)
    (heffect : Effect repo call next repo' posted) {id : ℕ} {record : ExecutionRecord H}
    (hrecord : repo.records.get id = some record) :
    ∃ moved, repo'.records.get id = some moved ∧ SameExecution record moved ∧
      (moved.nonceState = record.nonceState ∨ Legal record.nonceState moved.nonceState) := by
  -- a record that is moved on, or any other one
  have hupdate : ∀ {current moved : ExecutionRecord H} {state resultHash result nowMs},
      repo.records.get current.executionId = some current →
      transitionExecutionRecord current state resultHash result nowMs = .ok moved →
      ∃ moved', (repo.records.set current.executionId moved).get id = some moved' ∧
        SameExecution record moved' ∧ (moved'.nonceState = record.nonceState ∨
          Legal record.nonceState moved'.nonceState) := by
    intro current moved state resultHash result nowMs hstored hmove
    obtain ⟨hlegal, hstate, hdraft, hsame, hhash, hnonce, hat⟩ := transitionExecutionRecord_ok hmove
    by_cases hid : id = current.executionId
    · subst hid
      obtain rfl := Option.some.inj (hrecord.symm.trans hstored)
      exact ⟨moved, InsertionMap.get_set_self .., ⟨hdraft, hsame, hhash, hnonce, hat⟩,
        .inr (hstate ▸ hlegal)⟩
    · exact ⟨record, (InsertionMap.get_set_of_ne _ _ hid).trans hrecord, .refl record, .inl rfl⟩
  cases heffect with
  | keep _ _ _ _ => exact ⟨record, hrecord, .refl record, .inl rfl⟩
  | stop _ _ => exact ⟨record, hrecord, .refl record, .inl rfl⟩
  | post => exact ⟨record, hrecord, .refl record, .inl rfl⟩
  | submit _ _ hstored hmove => exact hupdate hstored hmove
  | finish _ hstored _ hmove => exact hupdate hstored hmove
  | reserve _ _ hreserves =>
    refine ⟨record, (InsertionMap.get_set_of_ne _ _ ?_).trans hrecord, .refl record, .inl rfl⟩
    rintro rfl
    rw [hreserves.executionId, hvalid.get_drawn] at hrecord
    cases hrecord

theorem World.Sound.moves (h : w.Sound) (hashId : ExecutionPreimage H → H) (input : GatewayStep H)
    {id : ℕ} {record : ExecutionRecord H} (hrecord : w.repository.records.get id = some record) :
    ∃ moved, (gatewayStep hashId w input).repository.records.get id = some moved ∧
      SameExecution record moved ∧
      (moved.nonceState = record.nonceState ∨ Legal record.nonceState moved.nonceState) := by
  cases input with
  | execute input => exact ⟨record, hrecord, .refl record, .inl rfl⟩
  | resume index answer =>
    rw [gatewayStep]
    split
    · exact ⟨record, hrecord, .refl record, .inl rfl⟩
    · rename_i call hcall
      exact (resume_effect h.valid (h.timed index call hcall)
        (fun id state ↦ h.owned index call id state hcall) answer).moves h.valid hrecord

theorem ValidClock.timestamp {clock : ℕ} (h : ValidClock clock) :
    timestamp clock = .ok clock :=
  timestamp_eq_ok.2 ⟨rfl, h.2.trans (by decide), h.1⟩

theorem calls_step {index : ℕ} (answer : Answer H) (hcall : w.calls[index]? = some call) :
    gatewayStep hashId w (.resume index answer)
      = w.resumed index (resume hashId w.repository call answer) := by
  rw [gatewayStep, hcall]

/-- Whatever the transport answers, a call goes on to end its record if the clock works. -/
theorem responded_finishing {index : ℕ} {record : ExecutionRecord H} {signed : SignerResult H}
    (hcall : w.calls[index]? = some (.awaiting record signed)) (answer : Domain (TransportResult H))
    {clock : ℕ} (hclock : ValidClock clock) :
    ∃ disposition resultHash,
      (gatewayStep hashId w (.resume index (.responded answer clock))).calls[index]?
        = some (.finishing record disposition resultHash clock) := by
  have hafter : afterRespond hashId record signed answer clock
      = .finishing record (effectiveResponse hashId record answer).1
          (hashId (.executionResult record.executionHash signed.signatureHash
            (effectiveResponse hashId record answer).2
            (effectiveResponse hashId record answer).1.outcome)) clock := by
    simp only [afterRespond, hclock.timestamp, orStop]
  rw [calls_step _ hcall]
  exact ⟨_, _, (calls_resumed hcall).2 (.inl ⟨rfl, hafter.symm⟩)⟩

/-- A call that is to end its record does, if the time is one that a date has. -/
theorem World.Sound.finishes (h : w.Sound) {index : ℕ} {record : ExecutionRecord H}
    {disposition : Disposition} {resultHash : H} {nowMs : ℕ}
    (hcall : w.calls[index]? = some (.finishing record disposition resultHash nowMs))
    (hclock : ValidClock nowMs) :
    ∃ ended, (gatewayStep hashId w (.resume index .performed)).calls[index]?
        = some (.done (.ok ended)) ∧
      (gatewayStep hashId w (.resume index .performed)).repository.records.get record.executionId
        = some ended ∧ ended.nonceState.isTerminal = true := by
  obtain ⟨current, hcurrent, hstate⟩ := h.owned index _ _ _ hcall rfl
  obtain ⟨ended, hended⟩ := (transitionExecutionRecord_isOk
    (hstate ▸ legal_terminal disposition) (assertResult_terminal disposition resultHash)).2 hclock
  obtain ⟨-, hterminal, -⟩ := transitionExecutionRecord_ok hended
  have hid := (h.valid.stored _ _ hcurrent).executionId
  have hresume : resume hashId w.repository (.finishing record disposition resultHash nowMs)
      .performed = (.done (.ok ended), w.repository.update hashId current ended, none) := by
    rw [resume, ExecutionRepository.transition_of_stored hcurrent hstate, hended]
  rw [calls_step _ hcall, hresume]
  refine ⟨ended, (calls_resumed hcall).2 (.inl ⟨rfl, rfl⟩), ?_, ?_⟩
  · show (w.repository.records.set current.executionId ended).get record.executionId = some ended
    rw [hid]
    exact InsertionMap.get_set_self ..
  · rw [hterminal]
    cases disposition <;> rfl

/-- What is to hold of the executions of a repository. -/
structure ExecutionsSound (hashId : ExecutionPreimage H → H) (w : World H) : Prop where
  /-- The nonces of a signer rise in the order of their reservation. -/
  increasing : ∀ signer, (w.repository.noncesOf signer).Pairwise (· < ·)
  /-- They are in the window of the reservation's clock. -/
  window : ∀ (id : ℕ) (record : ExecutionRecord H), w.repository.records.get id = some record →
    record.nonce ≤ record.reservedAt + maximumNonceFutureMs ∧
      record.reservedAt ≤ record.nonce + maximumNonceAgeMs
  /-- The transport is called once for an execution, -/
  once : (w.submissions.map (·.executionId)).Nodup
  /-- when its record is in `SUBMITTED`, -/
  submitted : ∀ submission ∈ w.submissions, submission.stored = some .submitted
  /-- and its call ends the record, or stops because of the clock. -/
  ends : ∀ submission ∈ w.submissions, ∃ (call : CallState H) (record : ExecutionRecord H),
    w.calls[submission.call]? = some call ∧
      w.repository.records.get submission.executionId = some record ∧
      (call.live = false → record.nonceState.isTerminal = true ∨
        ∃ e, call = .done (.error e) ∧ ClockFailed e)
  /-- A call that waits for the transport goes on whatever the answer, -/
  responds : ∀ (index : ℕ) (record : ExecutionRecord H) (signed : SignerResult H),
    w.calls[index]? = some (.awaiting record signed) →
    ∀ (answer : Domain (TransportResult H)) (clock : ℕ), ValidClock clock →
      ∃ disposition resultHash,
        (gatewayStep hashId w (.resume index (.responded answer clock))).calls[index]?
          = some (.finishing record disposition resultHash clock)
  /-- and then ends its record. -/
  finishes : ∀ (index : ℕ) (record : ExecutionRecord H) (disposition : Disposition) (resultHash : H)
    (nowMs : ℕ), w.calls[index]? = some (.finishing record disposition resultHash nowMs) →
    ValidClock nowMs →
      ∃ ended, (gatewayStep hashId w (.resume index .performed)).calls[index]?
          = some (.done (.ok ended)) ∧
        (gatewayStep hashId w (.resume index .performed)).repository.records.get record.executionId
          = some ended ∧ ended.nonceState.isTerminal = true
  /-- The history of a record leads to its state by legal moves, numbered without gaps. -/
  history : ∀ (id : ℕ) (record : ExecutionRecord H), w.repository.records.get id = some record →
    ∃ history, w.repository.transitions.get id = some history ∧
      HistoryOf record.nonceState history
  /-- The next step keeps a record in its state, or moves it to one that may follow. -/
  moves : ∀ (input : GatewayStep H) (id : ℕ) (record : ExecutionRecord H),
    w.repository.records.get id = some record →
    ∃ moved, (gatewayStep hashId w input).repository.records.get id = some moved ∧
      SameExecution record moved ∧
      (moved.nonceState = record.nonceState ∨ Legal record.nonceState moved.nonceState)

theorem World.Sound.ends (h : w.Sound) {submission : Submission}
    (hmem : submission ∈ w.submissions) :
    ∃ (call : CallState H) (record : ExecutionRecord H),
      w.calls[submission.call]? = some call ∧
        w.repository.records.get submission.executionId = some record ∧
        (call.live = false → record.nonceState.isTerminal = true ∨
          ∃ e, call = .done (.error e) ∧ ClockFailed e) := by
  obtain ⟨-, call, record, hcall, hrecord, -, hcases⟩ := h.posted submission hmem
  refine ⟨call, record, hcall, hrecord, fun hended ↦ ?_⟩
  rcases hcases with ⟨-, howns⟩ | ⟨outcome, rfl, hterminal | ⟨e, rfl, hclock⟩⟩
  · exact absurd ((CallState.live_of_owns howns).symm.trans hended) (by decide)
  · exact .inl hterminal
  · exact .inr ⟨e, rfl, hclock⟩

/-- **Executions under every interleaving**: nonces rise, the transport is called at most once for
an execution and only while its record is in `SUBMITTED`, records move on as they may, and a call
that has called the transport ends its record unless the clock fails. -/
theorem executions_sound (hashId : ExecutionPreimage H → H) (inputs : List (GatewayStep H)) :
    ExecutionsSound hashId (Run.run (gatewayStep hashId) World.new inputs) := by
  have h : (Run.run (gatewayStep hashId) World.new inputs).Sound :=
    Run.run_induct (fun _ input h ↦ h.step input) sound_new inputs
  exact
    { increasing := h.valid.increasing
      window := fun id record hrecord ↦
        ⟨(h.valid.stored id record hrecord).future, (h.valid.stored id record hrecord).age⟩
      once := h.once
      submitted := fun submission hmem ↦ (h.posted submission hmem).stored
      ends := fun _ hmem ↦ h.ends hmem
      responds := fun _ _ _ hcall answer _ hclock ↦ responded_finishing hcall answer hclock
      finishes := fun _ _ _ _ _ hcall hclock ↦ h.finishes hcall hclock
      history := fun id record hrecord ↦ (h.valid.stored id record hrecord).history
      moves := fun input _ _ hrecord ↦ h.moves hashId input hrecord }

/-! ## Replays -/

/-- A call whose key has a record gets that record, if it asks for the same, and is refused if not;
nothing is reserved either way. -/
theorem World.Sound.replays (h : w.Sound) {id index nowMs : ℕ} {record : ExecutionRecord H}
    {draft : ExecutionDraft H} (hrecord : w.repository.records.get id = some record)
    (hcall : w.calls[index]? = some (.reserving draft nowMs))
    (hkey : draft.idempotencyKeyHash = record.idempotencyKeyHash) :
    gatewayStep hashId w (.resume index .performed)
      = w.resumed index (if record.requestHash = draft.requestHash
          then .reserved { record, replayed := true }
          else .done (.error ExecutionRepository.idempotencyConflict), w.repository, none) := by
  have hkeyed := (h.valid.stored id record hrecord).keyed
  have hreserve : w.repository.reserve hashId draft nowMs (nowMs + expiresAfterMs)
      = (if record.requestHash = draft.requestHash then .ok { record, replayed := true }
          else .error ExecutionRepository.idempotencyConflict, w.repository) := by
    simp only [ExecutionRepository.reserve, hkey, hkeyed, hrecord, ne_eq, ite_not]
    split <;> rfl
  rw [calls_step _ hcall, resume, hreserve]
  by_cases hsame : record.requestHash = draft.requestHash
  · rw [if_pos hsame, if_pos hsame]
    rfl
  · rw [if_neg hsame, if_neg hsame]
    rfl

/-- A stored record is found for ever, and stays the record of its execution. -/
theorem World.Sound.kept (h : w.Sound) (hashId : ExecutionPreimage H → H) {id : ℕ}
    {record : ExecutionRecord H} (hrecord : w.repository.records.get id = some record)
    (inputs : List (GatewayStep H)) :
    (Run.run (gatewayStep hashId) w inputs).Sound ∧
      ∃ later, (Run.run (gatewayStep hashId) w inputs).repository.records.get id = some later ∧
        SameExecution record later := by
  have hstep : ∀ (t : World H) (input : GatewayStep H),
      (t.Sound ∧ ∃ later, t.repository.records.get id = some later ∧ SameExecution record later) →
      (gatewayStep hashId t input).Sound ∧ ∃ later,
        (gatewayStep hashId t input).repository.records.get id = some later ∧
          SameExecution record later := by
    rintro t input ⟨ht, later, hlater, hsame⟩
    obtain ⟨moved, hmoved, hsame', -⟩ := ht.moves hashId input hlater
    exact ⟨ht.step input, moved, hmoved, hsame.trans hsame'⟩
  exact Run.run_induct (P := fun t : World H ↦ t.Sound ∧ ∃ later,
    t.repository.records.get id = some later ∧ SameExecution record later) hstep
    ⟨h, record, hrecord, .refl record⟩ inputs

/-- **A key reserves once.**  Once a record has been reserved under a key, whatever happens in
between, a later call under that key gets the stored record if its request is the same and is
refused if it is not; it reserves no nonce, calls no transport, and leaves every record as it is. -/
theorem key_reserves_once (hashId : ExecutionPreimage H → H) (past future : List (GatewayStep H))
    {id : ℕ} {record : ExecutionRecord H}
    (hrecord : (Run.run (gatewayStep hashId) World.new past).repository.records.get id
      = some record) :
    ∃ later, (Run.run (gatewayStep hashId) World.new (past ++ future)).repository.records.get id
        = some later ∧ SameExecution record later ∧
      ∀ (index nowMs : ℕ) (draft : ExecutionDraft H),
        (Run.run (gatewayStep hashId) World.new (past ++ future)).calls[index]?
          = some (.reserving draft nowMs) →
        draft.idempotencyKeyHash = record.idempotencyKeyHash →
        gatewayStep hashId (Run.run (gatewayStep hashId) World.new (past ++ future))
            (.resume index .performed)
          = (Run.run (gatewayStep hashId) World.new (past ++ future)).resumed index
            (if record.requestHash = draft.requestHash
              then .reserved { record := later, replayed := true }
              else .done (.error ExecutionRepository.idempotencyConflict),
              (Run.run (gatewayStep hashId) World.new (past ++ future)).repository, none) := by
  have hpast : (Run.run (gatewayStep hashId) World.new past).Sound :=
    Run.run_induct (fun _ input h ↦ h.step input) sound_new past
  rw [Run.run_append]
  obtain ⟨hsound, later, hlater, hsame⟩ := hpast.kept hashId hrecord future
  refine ⟨later, hlater, hsame, fun index nowMs draft hcall hkey ↦ ?_⟩
  have hkey' : draft.idempotencyKeyHash = later.idempotencyKeyHash := by rw [hkey, hsame.draft]
  rw [hsound.replays hlater hcall hkey', hsame.draft]

end Runs

namespace Sample

/-- Digests are texts: the key itself, and nothing for the rest. -/
def hashId : ExecutionPreimage String → String
  | .idempotency idempotencyKey => idempotencyKey
  | _ => ""

/-- The request of the samples, to cancel an order. -/
def input : GatewayInput String where
  facilityId := "facility_1"
  facilityHash := "facility"
  facilityVersion := 1
  orderIntentId := "order_intent_1"
  orderIntentHash := "order intent"
  orderIntentVersion := 1
  idempotencyKey := "cancel-order-7"
  action := .cancel 3 7

/-- The answer of the binding resolver. -/
def binding : Binding String where
  facilityId := "facility_1"
  facilityHash := "facility"
  accountBindingHash := "account"
  signerReferenceHash := "signer"
  simulationOnly := true
  liveSignerAvailable := false
  apiWalletApproved := false
  keyExportable := false

/-- The answer of the policy evaluator. -/
def policy : PolicyDecision String where
  approved := true
  policyDecisionHash := "policy"
  actionKind := .cancel
  serverReduceOnlyProven := false
  killSwitchOpen := true
  simulationOnly := true

/-- The draft that these make. -/
def draft : ExecutionDraft String :=
  createDraft hashId input binding policy
    { actionKind := .cancel, action := .cancel 3 7, cloid := none }

/-- The call at `index`, up to the reservation. -/
def upToReserve (index clock : ℕ) : List (GatewayStep String) :=
  [.execute input, .resume index (.resolved (.ok binding)),
    .resume index (.evaluated (.ok policy) clock)]

/-- The first call has reserved its record. -/
def past : List (GatewayStep String) := upToReserve 0 1000 ++ [.resume 0 .performed]

end Sample

/-- A second call under the key of the first gets its record. -/
theorem key_reserves_once_retried :
    ∃ later, (gatewayStep Sample.hashId (Run.run (gatewayStep Sample.hashId) World.new
        (Sample.past ++ Sample.upToReserve 1 2000)) (.resume 1 .performed)).calls[1]?
      = some (.reserved { record := later, replayed := true }) := by
  obtain ⟨record, hrecord, hdraft⟩ : ∃ record : ExecutionRecord String,
      (Run.run (gatewayStep Sample.hashId) World.new Sample.past).repository.records.get 0
        = some record ∧ record.toExecutionDraft = Sample.draft :=
    ⟨_, rfl, rfl⟩
  have hcall : (Run.run (gatewayStep Sample.hashId) World.new
      (Sample.past ++ Sample.upToReserve 1 2000)).calls[1]? = some (.reserving Sample.draft 2000) :=
    rfl
  obtain ⟨later, -, -, hreplay⟩ :=
    key_reserves_once Sample.hashId Sample.past (Sample.upToReserve 1 2000) hrecord
  refine ⟨later, ?_⟩
  rw [hreplay 1 2000 Sample.draft hcall (by rw [hdraft]), if_pos (by rw [hdraft])]
  exact (calls_resumed hcall).2 (.inl ⟨rfl, rfl⟩)

end Execution
end IpoOne
