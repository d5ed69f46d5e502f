import IpoOne.Indexer.Atomicity

/-!
# The order of delivery does not matter

Observations of one event arrive several times, on their way from inclusion to finality, in blocks
that may be replaced, and mixed with those of other events.  What the indexer projects from them is
determined by the finalized ones alone: sorted by their place on the chain, each event once.

* `Tracks seen s` is the invariant of a run in which every call succeeded: what the maps, the
  projection and the store have to do with the observations `seen` so far, and with each other.
* `Accepts.tracks` — it holds along every such run.
* `Tracks.snapshot` reads the projection off it, `Tracks.restore` says that replaying the store
  arrives at the same projection, and `Tracks.same` that two runs with the same finalized
  observations do.

The hash is assumed to have no collisions: two observations of the same key and content hash are
then observations of the same event in the same block.
-/

set_option autoImplicit false

namespace IpoOne
namespace Indexer

open Fallible

/-- The hash has no collisions. -/
structure CollisionFree {H : Type} (prims : Primitives H) : Prop where
  injective : Function.Injective prims.hashId

/-! ## What the hashes bind -/

section Hashes

variable {H : Type} {prims : Primitives H} {descriptor : Descriptor} {o o' : Observation H}

/-- What of an observation matters to the projection. -/
structure Content (H : Type) where
  eventKey : H
  transactionIndex : ℕ
  logIndex : ℕ
  blockNumber : ℕ
  blockTimestamp : ℕ
  event : PoolEvent
  observationStatus : ObservationStatus

/-- What the content hash of an observation covers. -/
def content (o : Observation H) : Content H where
  eventKey := o.eventKey
  transactionIndex := o.transactionIndex
  logIndex := o.logIndex
  blockNumber := o.blockNumber
  blockTimestamp := o.blockTimestamp
  event := o.event
  observationStatus := o.observationStatus

/-- Observations with the same content hash and status say the same about the same event. -/
theorem CollisionFree.content_eq (hcf : CollisionFree prims) (h : Normalized prims descriptor o)
    (h' : Normalized prims descriptor o') (hhash : o.eventContentHash = o'.eventContentHash)
    (hstatus : o.observationStatus = o'.observationStatus) : content o = content o' := by
  rw [h.eventContentHash, h'.eventContentHash] at hhash
  obtain ⟨hkey, hindex, hblock, _, htime, _, hevent⟩ :=
    Preimage.eventContent.inj (hcf.injective hhash)
  have hlog := hkey
  rw [h.eventKey, h'.eventKey] at hlog
  obtain ⟨_, _, _, hlog⟩ := Preimage.eventKey.inj (hcf.injective hlog)
  rw [content, content, hkey, hindex, hlog, hblock, htime, hevent, hstatus]

/-- Normalized observations with the same hash are the same, but for their identifiers. -/
theorem CollisionFree.core_eq (hcf : CollisionFree prims) (h : Normalized prims descriptor o)
    (h' : Normalized prims descriptor o') (hhash : o.observationHash = o'.observationHash) :
    o.toObservationCore = o'.toObservationCore := by
  rw [h.observationHash, h'.observationHash] at hhash
  exact Preimage.observation.inj (hcf.injective hhash)

/-- An invalidation is never taken for an observation of a log. -/
theorem CollisionFree.not_invalidation (hcf : CollisionFree prims)
    (h : Normalized prims descriptor o) (h' : IsInvalidation prims o') :
    o'.observationHash ≠ o.observationHash := by
  rw [h.observationHash, h'.observationHash]
  intro hhash
  cases hcf.injective hhash

end Hashes

/-! ## Runs without rejections -/

/-- What a provider feeds the indexer with. -/
inductive Feed where
  | log (log : RawLog)
  | block (blockNumber : Option ℕ) (blockHash : Option Bytes32) (observedAt : Option ℕ)

section Runs

variable {H : Type} [LinearOrder H] (prims : Primitives H) (descriptor : Descriptor)

/-- The feed is taken, and leads from one state to another. -/
def Takes (s : System H) : Feed → System H → Prop
  | .log log, s' => ∃ r, ingest prims descriptor s log none = (.ok r, s')
  | .block blockNumber blockHash observedAt, s' =>
    ∃ r, observeCanonicalBlock prims descriptor s blockNumber blockHash observedAt none
      = (.ok r, s')

/-- All feeds are taken, one after the other. -/
def Accepts : System H → List Feed → System H → Prop
  | s, [], s' => s' = s
  | s, feed :: rest, s' => ∃ s₁, Takes prims descriptor s feed s₁ ∧ Accepts s₁ rest s'

/-- The observations of the logs among some feeds. -/
def observed (feeds : List Feed) : List (Observation H) :=
  feeds.filterMap fun
    | .log log => (normalizeLog prims descriptor log).toOption
    | .block .. => none

/-- The stored history replays to the given head and finalized observations. -/
def Replays (history : List (Observation H)) (head : Option (Head H))
    (finalized : InsertionMap H (Observation H)) : Prop :=
  ∀ ix : PoolEventIndexer H, ix.head = none → ix.finalizedObservations = .empty →
    ∃ ix', replay prims descriptor ix history = (.ok (), ix') ∧ ix'.head = head ∧
      ix'.finalizedObservations = finalized

/-- **The invariant of a run without rejections.** -/
structure Tracks (seen : List (Observation H)) (s : System H) : Prop where
  normalized : ∀ o ∈ seen, Normalized prims descriptor o
  keyed : Keyed s.indexer
  /-- A latest observation is an invalidation or was seen. -/
  latest : ∀ k o, s.indexer.latestByEventKey.get k = some o →
    IsInvalidation prims o ∨ o ∈ seen
  /-- A finalized observation stays the latest one of its event, and the projection has it. -/
  finalized : ∀ k o, s.indexer.finalizedObservations.get k = some o ↔
    s.indexer.latestByEventKey.get k = some o ∧ o.observationStatus = .finalized
  /-- No finalized observation is lost. -/
  complete : ∀ o ∈ seen, o.observationStatus = .finalized →
    ∃ x, s.indexer.finalizedObservations.get o.eventKey = some x ∧
      x.eventContentHash = o.eventContentHash
  keySet : ∀ k, k ∈ s.indexer.finalizedEventKeySet ↔
    ∃ o, s.indexer.finalizedObservations.get k = some o
  rebuilt : rebuildProjection descriptor s.indexer.finalizedObservations
    = .ok (s.indexer.state, s.indexer.finalizedEventKeys)
  /-- What is stored was seen, is behind the head, and projected if it is final; or it is an
  invalidation. -/
  stored : ∀ x ∈ s.store.observations,
    IsInvalidation prims x ∨ x ∈ seen ∧
      (∃ h, s.indexer.head = some h ∧ x.blockNumber ≤ h.blockNumber) ∧
      (x.observationStatus = .finalized →
        s.indexer.finalizedObservations.get x.eventKey = some x)
  replays : Replays prims descriptor s.store.observations s.indexer.head
    s.indexer.finalizedObservations

end Runs

/-! ## Recording, replaying, committing -/

section Steps

variable {H : Type} [LinearOrder H] {prims : Primitives H} {descriptor : Descriptor}
  {ix ix' : PoolEventIndexer H} {o : Observation H}

theorem get_setLatest_of_ne {os : List (Observation H)} {k : H} (h : ∀ i ∈ os, i.eventKey ≠ k) :
    (setLatest ix os).latestByEventKey.get k = ix.latestByEventKey.get k := by
  induction os generalizing ix with
  | nil => rfl
  | cons i rest ih =>
    have hrest := @ih (setLatest ix [i]) fun j hj ↦ h j (List.mem_cons_of_mem _ hj)
    refine hrest.trans ?_
    exact InsertionMap.get_set_of_ne _ _ (h i (List.mem_cons_self ..)).symm

theorem get_setLatest_cases {os : List (Observation H)} {k : H} {x : Observation H}
    (h : (setLatest ix os).latestByEventKey.get k = some x) :
    x ∈ os ∧ x.eventKey = k ∨ ix.latestByEventKey.get k = some x := by
  induction os generalizing ix with
  | nil => exact .inr h
  | cons i rest ih =>
    rcases @ih (setLatest ix [i]) h with ⟨hx, hk⟩ | hget
    · exact .inl ⟨List.mem_cons_of_mem _ hx, hk⟩
    · rw [setLatest, List.foldl_cons, List.foldl_nil, InsertionMap.get_set] at hget
      split at hget
      · rename_i hk
        obtain rfl := Option.some.inj hget
        exact .inl ⟨List.mem_cons_self .., hk.symm⟩
      · exact .inr hget

theorem replay_append {xs ys : List (Observation H)}
    (h : replay prims descriptor ix xs = (.ok (), ix')) :
    replay prims descriptor ix (xs ++ ys) = replay prims descriptor ix' ys := by
  induction xs generalizing ix with
  | nil => rw [← (Prod.mk.inj h).2, List.nil_append]
  | cons x xs ih =>
    rw [replay] at h
    rw [List.cons_append, replay]
    split at h
    · rename_i hinvalid
      rw [if_pos hinvalid]
      exact ih h
    · rename_i hvalid
      rw [if_neg hvalid]
      split at h
      · cases h
      · exact ih h

theorem Replays.append_invalidated {history xs : List (Observation H)} {head : Option (Head H)}
    {finalized : InsertionMap H (Observation H)}
    (h : Replays prims descriptor history head finalized)
    (hxs : ∀ x ∈ xs, x.observationStatus = .invalidated) :
    Replays prims descriptor (history ++ xs) head finalized := by
  intro ix hhead hempty
  obtain ⟨ix', hreplay, hhead', hfinalized'⟩ := h ix hhead hempty
  rw [replay_append hreplay]
  clear hreplay
  induction xs generalizing ix' with
  | nil => exact ⟨ix', rfl, hhead', hfinalized'⟩
  | cons x xs ih =>
    rw [replay, if_pos (hxs x (List.mem_cons_self ..))]
    exact ih (fun y hy ↦ hxs y (List.mem_cons_of_mem _ hy)) (setLatest ix' [x]) hhead' hfinalized'

theorem Replays.append_one {history : List (Observation H)} {head head' : Option (Head H)}
    {finalized : InsertionMap H (Observation H)} {cursor : Cursor H}
    (h : Replays prims descriptor history head finalized)
    (hvalid : o.observationStatus ≠ .invalidated)
    (hcursor : cursorFor prims descriptor head o = .ok (head', cursor)) :
    Replays prims descriptor (history ++ [o]) head'
      (if o.observationStatus = .finalized then finalized.set o.eventKey o else finalized) := by
  intro ix hhead hempty
  obtain ⟨ix', hreplay, rfl, rfl⟩ := h ix hhead hempty
  have hhead' : (setLatest ix' [o]).head = ix'.head := rfl
  rw [replay_append hreplay, replay, if_neg hvalid, hhead', hcursor]
  exact ⟨_, rfl, rfl, rfl⟩

omit [LinearOrder H] in
/-- The head never moves back, and is at the observation or ahead of it. -/
theorem cursorFor_head {head head' : Option (Head H)} {cursor : Cursor H}
    (h : cursorFor prims descriptor head o = .ok (head', cursor)) :
    ∃ h', head' = some h' ∧ o.blockNumber ≤ h'.blockNumber ∧
      ∀ h₀, head = some h₀ → h₀.blockNumber ≤ h'.blockNumber ∧
        (o.blockNumber ≤ h₀.blockNumber → h' = h₀) := by
  simp only [cursorFor, bind_eq_ok, pure_eq_ok, Prod.mk.injEq] at h
  obtain ⟨_, _, rfl, _⟩ := h
  cases head with
  | none => exact ⟨_, rfl, le_rfl, fun h₀ hh ↦ by cases hh⟩
  | some h₀ =>
    by_cases hlt : h₀.blockNumber < o.blockNumber
    · refine ⟨_, if_pos (by simpa using hlt), le_rfl, ?_⟩
      intro h₁ heq
      obtain rfl := Option.some.inj heq
      exact ⟨hlt.le, fun hle ↦ absurd hlt (not_lt.2 hle)⟩
    · refine ⟨h₀, if_neg (by simpa using hlt), not_lt.1 hlt, ?_⟩
      intro h₁ heq
      obtain rfl := Option.some.inj heq
      exact ⟨le_rfl, fun _ ↦ rfl⟩

theorem commitIngestion_observations {store store' : Store H} {bundle : Bundle H}
    {persisted : Persisted} (h : commitIngestion store bundle none = .ok (store', persisted)) :
    store'.observations = store.observations ++ bundle.observations.filter fun o ↦
      o.observationHash ∉ store.observations.map (·.observationHash) := by
  rw [commitIngestion] at h
  split at h
  · rename_i hnone
    obtain ⟨rfl, _⟩ := Prod.mk.inj (pure_eq_ok.1 h)
    rw [hnone.1, List.append_nil]
  · obtain ⟨rfl, _⟩ := Prod.mk.inj (pure_eq_ok.1 h)
    rfl

/-- What may follow a finalized observation is a duplicate of it. -/
theorem validateTransition_not_finalized {current : Observation H} {u : Unit}
    (h : validateTransition (some current) o = .ok u)
    (hfresh : isDuplicate (some current) o = false) :
    current.observationStatus ≠ .finalized := by
  intro hfinal
  have hne : current.observationHash ≠ o.observationHash := by
    intro hhash
    simp [isDuplicate, hhash] at hfresh
  rw [validateTransition, if_neg hne, if_pos hfinal, throwIf_eq_ok, not_or, not_not, not_not] at h
  simp [isDuplicate, h.1, h.2, hfinal] at hfresh

/-- What the projection becomes when an observation of an event arrives that it does not have. -/
theorem finalize_new {effect : Option (FinalizedEffect H × OutboxMessage H)}
    (h : finalize prims descriptor ix o = .ok (ix', effect))
    (hkey : o.eventKey ∉ ix.finalizedEventKeySet)
    (hrebuilt : rebuildProjection descriptor ix.finalizedObservations
      = .ok (ix.state, ix.finalizedEventKeys)) :
    ix'.finalizedObservations = (if o.observationStatus = .finalized
        then ix.finalizedObservations.set o.eventKey o else ix.finalizedObservations) ∧
      (∀ k, k ∈ ix'.finalizedEventKeySet ↔
        k ∈ ix.finalizedEventKeySet ∨ k = o.eventKey ∧ o.observationStatus = .finalized) ∧
      rebuildProjection descriptor ix'.finalizedObservations
        = .ok (ix'.state, ix'.finalizedEventKeys) := by
  obtain ⟨rfl, _, hold⟩ | ⟨hfinal, _, state, eventKeys, _, hrebuild, rfl⟩ := finalize_ok h
  · have hopen : o.observationStatus ≠ .finalized := fun hfinal ↦ hold ⟨hfinal, hkey⟩
    refine ⟨(if_neg hopen).symm, fun k ↦ ⟨.inl, ?_⟩, hrebuilt⟩
    rintro (hk | ⟨_, hfinal⟩)
    · exact hk
    · exact absurd hfinal hopen
  · refine ⟨(if_pos hfinal).symm, fun k ↦ ?_, hrebuild⟩
    rw [List.mem_append, List.mem_singleton, and_iff_left hfinal]

/-- What is admitted replaces no finalized observation, and the invalidations are of the one it does
replace. -/
theorem admission_replaces (hkeyed : Keyed ix) {invalidations : List (Observation H)}
    (hfresh : isDuplicate (ix.latestByEventKey.get o.eventKey) o = false)
    (h : admission prims ix o = .ok invalidations) :
    (∀ c, ix.latestByEventKey.get o.eventKey = some c → c.observationStatus ≠ .finalized) ∧
      ∀ i ∈ invalidations, IsInvalidation prims i ∧ i.eventKey = o.eventKey := by
  constructor
  · intro c hc
    simp only [admission, bind_eq_ok] at h
    obtain ⟨_, hvalid, _⟩ := h
    rw [hc] at hvalid hfresh
    exact validateTransition_not_finalized hvalid hfresh
  · intro i hi
    obtain ⟨current, hcurrent, _, _, hinvalid⟩ := admission_ok h i hi
    obtain ⟨_, hkey, hstatus⟩ := createInvalidation_ok hinvalid
    exact ⟨hstatus, hkey.trans (hkeyed _ _ hcurrent)⟩

end Steps

/-! ## One step -/

section Preservation

variable {H : Type} [LinearOrder H] {prims : Primitives H} {descriptor : Descriptor}
  {seen : List (Observation H)} {s : System H}

theorem rebuildProjection_empty :
    rebuildProjection (H := H) descriptor .empty = .ok (initialState descriptor, []) := by
  have hordered : orderedFinalized (.empty : InsertionMap H (Observation H)) = [] :=
    List.mergeSort_nil
  rw [rebuildProjection, hordered]
  rfl

theorem tracks_new (now : ℕ) : Tracks prims descriptor [] (System.new prims descriptor now) where
  normalized o ho := by cases ho
  keyed := keyed_new now
  latest k o h := by cases h
  finalized k o := ⟨fun h ↦ (by cases h), fun h ↦ (by cases h.1)⟩
  complete o ho := by cases ho
  keySet k := ⟨fun h ↦ (by cases h), fun ⟨o, h⟩ ↦ (by cases h)⟩
  rebuilt := rebuildProjection_empty
  stored x hx := by cases hx
  replays ix hhead hempty := ⟨ix, rfl, hhead, hempty⟩

/-- An event that is not finalized has no place in the projection. -/
theorem Tracks.get_eq_none (h : Tracks prims descriptor seen s) {k : H}
    (hk : ∀ c, s.indexer.latestByEventKey.get k = some c → c.observationStatus ≠ .finalized) :
    s.indexer.finalizedObservations.get k = none := by
  rw [Option.eq_none_iff_forall_ne_some]
  intro x hx
  obtain ⟨hlatest, hfinal⟩ := (h.finalized k x).1 hx
  exact hk x hlatest hfinal

/-- Invalidating observations that are not finalized keeps the invariant. -/
theorem Tracks.invalidate (h : Tracks prims descriptor seen s)
    {invalidations : List (Observation H)}
    {store' : Store H}
    (hinvalid : ∀ i ∈ invalidations, IsInvalidation prims i ∧
      ∃ o, s.indexer.latestByEventKey.get i.eventKey = some o ∧ o.observationStatus ≠ .finalized)
    (hstore : ∃ fresh, (∀ x ∈ fresh, x ∈ invalidations) ∧
      store'.observations = s.store.observations ++ fresh) :
    Tracks prims descriptor seen ⟨setLatest s.indexer invalidations, store'⟩ := by
  obtain ⟨fresh, hfresh, hobservations⟩ := hstore
  refine ⟨h.normalized, keyed_setLatest h.keyed rfl, ?_, ?_, h.complete, h.keySet,
    h.rebuilt, ?_, ?_⟩
  · intro k o ho
    rcases get_setLatest_cases ho with ⟨hmem, _⟩ | hold
    · exact .inl (hinvalid o hmem).1
    · exact h.latest k o hold
  · intro k o
    by_cases hk : ∀ i ∈ invalidations, i.eventKey ≠ k
    · change s.indexer.finalizedObservations.get k = some o ↔
        (setLatest s.indexer invalidations).latestByEventKey.get k = some o ∧ _
      rw [get_setLatest_of_ne hk]
      exact h.finalized k o
    · -- neither before nor after is the event finalized
      push Not at hk
      obtain ⟨i, hi, rfl⟩ := hk
      obtain ⟨_, c, hc, hcfinal⟩ := hinvalid i hi
      have hnone : s.indexer.finalizedObservations.get i.eventKey = none := by
        refine h.get_eq_none fun c' hc' ↦ ?_
        obtain rfl := Option.some.inj (hc.symm.trans hc')
        exact hcfinal
      refine ⟨fun hget ↦ ?_, fun ⟨hget, hfinal⟩ ↦ ?_⟩
      · cases hnone.symm.trans hget
      · rcases get_setLatest_cases hget with ⟨hmem, _⟩ | hold
        · rw [(hinvalid o hmem).1.status] at hfinal
          cases hfinal
        · obtain rfl := Option.some.inj (hc.symm.trans hold)
          exact absurd hfinal hcfinal
  · intro x hx
    rw [hobservations, List.mem_append] at hx
    rcases hx with hx | hx
    · exact h.stored x hx
    · exact .inl (hinvalid x (hfresh x hx)).1
  · rw [hobservations]
    exact h.replays.append_invalidated fun x hx ↦ (hinvalid x (hfresh x hx)).1.status

/-- **A canonical block keeps the invariant.** -/
theorem Tracks.block (h : Tracks prims descriptor seen s) {blockNumber : Option ℕ}
    {blockHash : Option Bytes32} {observedAt : Option ℕ} {s' : System H}
    (htakes : Takes prims descriptor s (.block blockNumber blockHash observedAt) s') :
    Tracks prims descriptor seen s' := by
  obtain ⟨r, hr⟩ := htakes
  rw [observeCanonicalBlock] at hr
  split at hr
  · cases hr
  · rename_i number hash invalidations hinvalidations
    split at hr
    · obtain ⟨_, rfl⟩ := Prod.mk.inj hr
      exact h
    · dsimp only at hr
      split at hr
      · cases hr
      · rename_i store' _ hcommit
        obtain ⟨_, rfl⟩ := Prod.mk.inj hr
        refine h.invalidate (fun i hi ↦ ?_)
          ⟨_, fun x hx ↦ (List.mem_filter.1 hx).1, commitIngestion_observations hcommit⟩
        obtain ⟨hinvalid, o, ho, _, hfinal⟩ := invalidationsOf_ok h.keyed hinvalidations i hi
        exact ⟨hinvalid, o, ho, hfinal⟩

/-- An observation that was recorded before changes nothing. -/
theorem Tracks.duplicate (hcf : CollisionFree prims) (h : Tracks prims descriptor seen s)
    {o : Observation H} (ho : Normalized prims descriptor o)
    (hdup : isDuplicate (s.indexer.latestByEventKey.get o.eventKey) o = true) :
    Tracks prims descriptor (seen ++ [o]) s := by
  have hseen : ∀ x, x ∈ seen → x ∈ seen ++ [o] := fun x hx ↦ List.mem_append_left _ hx
  refine ⟨?_, h.keyed, fun k x hx ↦ (h.latest k x hx).imp_right (hseen x), h.finalized, ?_,
    h.keySet, h.rebuilt, fun x hx ↦ (h.stored x hx).imp_right (And.imp_left (hseen x)), h.replays⟩
  · intro x hx
    rcases List.mem_append.1 hx with hx | hx
    · exact h.normalized x hx
    · exact List.mem_singleton.1 hx ▸ ho
  · intro x hx hfinal
    rcases List.mem_append.1 hx with hx | hx
    · exact h.complete x hx hfinal
    · obtain rfl := List.mem_singleton.1 hx
      rw [isDuplicate, Option.any_eq_true] at hdup
      obtain ⟨c, hc, hsame⟩ := hdup
      rw [decide_eq_true_eq] at hsame
      have hcontent : c.eventContentHash = x.eventContentHash ∧
          c.observationStatus = x.observationStatus := by
        rcases hsame with hhash | hcontent
        · rcases h.latest _ c hc with hinvalid | hmem
          · exact absurd hhash (hcf.not_invalidation ho hinvalid)
          · have hcore := hcf.core_eq (h.normalized c hmem) ho hhash
            exact ⟨congrArg ObservationCore.eventContentHash hcore,
              congrArg ObservationCore.observationStatus hcore⟩
        · exact hcontent
      exact ⟨c, (h.finalized _ c).2 ⟨hc, hcontent.2.trans hfinal⟩, hcontent.1⟩

/-- What an observation that is applied does to the maps: it becomes the latest one of its event,
which was not final before, and joins the projection if it is final itself. -/
structure Records (ix : PoolEventIndexer H) (o : Observation H) (ix' : PoolEventIndexer H) :
    Prop where
  own : ix'.latestByEventKey.get o.eventKey = some o
  other : ∀ k, k ≠ o.eventKey → ix'.latestByEventKey.get k = ix.latestByEventKey.get k
  pending : ix.finalizedObservations.get o.eventKey = none
  finalized : ix'.finalizedObservations = if o.observationStatus = .finalized
    then ix.finalizedObservations.set o.eventKey o else ix.finalizedObservations

theorem Records.get {ix ix' : PoolEventIndexer H} {o : Observation H} (h : Records ix o ix')
    (k : H) : ix'.finalizedObservations.get k =
      if k = o.eventKey ∧ o.observationStatus = .finalized then some o
      else ix.finalizedObservations.get k := by
  rw [h.finalized]
  by_cases hfinal : o.observationStatus = .finalized
  · rw [if_pos hfinal, InsertionMap.get_set]
    simp only [hfinal, and_true]
  · rw [if_neg hfinal, if_neg fun hk ↦ hfinal hk.2]

/-- What is final stays as it is. -/
theorem Records.kept {ix ix' : PoolEventIndexer H} {o : Observation H} (h : Records ix o ix')
    {k : H} {x : Observation H} (hx : ix.finalizedObservations.get k = some x) :
    ix'.finalizedObservations.get k = some x := by
  rw [h.get, if_neg, hx]
  rintro ⟨rfl, _⟩
  cases h.pending.symm.trans hx

/-- The history stays replayable when an observation and its invalidations are stored. -/
theorem Tracks.replays_append (hcf : CollisionFree prims) (h : Tracks prims descriptor seen s)
    {o : Observation H} (ho : Normalized prims descriptor o) {ix' : PoolEventIndexer H}
    (hrecords : Records s.indexer o ix') {invalidations : List (Observation H)}
    (hinvalid : ∀ i ∈ invalidations, IsInvalidation prims i) {head : Option (Head H)}
    {cursor : Cursor H}
    (hcursor : cursorFor prims descriptor s.indexer.head o = .ok (head, cursor)) :
    Replays prims descriptor (s.store.observations ++ (invalidations ++ [o]).filter fun x ↦
        x.observationHash ∉ s.store.observations.map (·.observationHash))
      head ix'.finalizedObservations := by
  have hhistory : Replays prims descriptor (s.store.observations ++ invalidations.filter fun x ↦
        x.observationHash ∉ s.store.observations.map (·.observationHash))
      s.indexer.head s.indexer.finalizedObservations :=
    h.replays.append_invalidated fun x hx ↦ (hinvalid x (List.mem_filter.1 hx).1).status
  rw [List.filter_append, ← List.append_assoc]
  by_cases hnew : o.observationHash ∈ s.store.observations.map (·.observationHash)
  · -- the observation is stored already, hence not final and not ahead of the head
    rw [List.filter_cons_of_neg (by simpa using hnew), List.filter_nil, List.append_nil]
    obtain ⟨x, hx, hhash⟩ := List.mem_map.1 hnew
    rcases h.stored x hx with hi | ⟨hmem, ⟨h₀, hh₀, hle⟩, hproj⟩
    · exact absurd hhash (hcf.not_invalidation ho hi)
    · have hcore := hcf.core_eq (h.normalized x hmem) ho hhash
      have hblock : x.blockNumber = o.blockNumber := congrArg ObservationCore.blockNumber hcore
      have hopen : o.observationStatus ≠ .finalized := by
        intro hfinal
        have hxfinal : x.observationStatus = .finalized :=
          (congrArg ObservationCore.observationStatus hcore).trans hfinal
        have hxkey : x.eventKey = o.eventKey := congrArg ObservationCore.eventKey hcore
        have hprojected := hproj hxfinal
        rw [hxkey, hrecords.pending] at hprojected
        cases hprojected
      obtain ⟨h', rfl, _, hgrows⟩ := cursorFor_head hcursor
      rw [hrecords.finalized, if_neg hopen, (hgrows h₀ hh₀).2 (hblock ▸ hle), ← hh₀]
      exact hhistory
  · rw [List.filter_cons_of_pos (by simpa using hnew), List.filter_nil, hrecords.finalized]
    exact hhistory.append_one ho.not_invalidated hcursor

/-- **An observation that is applied keeps the invariant.** -/
theorem Tracks.applied (hcf : CollisionFree prims) (h : Tracks prims descriptor seen s)
    {o : Observation H} (ho : Normalized prims descriptor o)
    {invalidations : List (Observation H)} {projected : PoolEventIndexer H}
    {effect : Option (FinalizedEffect H × OutboxMessage H)} {head : Option (Head H)}
    {cursor : Cursor H} {store' : Store H} {persisted : Persisted}
    (hfresh : isDuplicate (s.indexer.latestByEventKey.get o.eventKey) o = false)
    (hadmission : admission prims s.indexer o = .ok invalidations)
    (hfinalize : finalize prims descriptor (setLatest s.indexer (invalidations ++ [o])) o
      = .ok (projected, effect))
    (hcursor : cursorFor prims descriptor projected.head o = .ok (head, cursor))
    (hcommit : commitIngestion s.store ⟨invalidations ++ [o], effect, some cursor⟩ none
      = .ok (store', persisted)) :
    Tracks prims descriptor (seen ++ [o]) ⟨{ projected with head }, store'⟩ := by
  have hseen : ∀ x, x ∈ seen → x ∈ seen ++ [o] := fun x hx ↦ List.mem_append_left _ hx
  have hself : o ∈ seen ++ [o] := List.mem_append_right _ (List.mem_singleton_self o)
  obtain ⟨hcurrent, hinvalid⟩ := admission_replaces h.keyed hfresh hadmission
  have hpending := h.get_eq_none hcurrent
  have hkey : o.eventKey ∉ s.indexer.finalizedEventKeySet := by
    rw [h.keySet]
    rintro ⟨x, hx⟩
    cases hpending.symm.trans hx
  obtain ⟨hlatest, hhead⟩ := finalize_frame hfinalize
  obtain ⟨hfinalized, hkeySet, hrebuilt⟩ := finalize_new hfinalize hkey h.rebuilt
  replace hhead : projected.head = s.indexer.head := hhead
  rw [hhead] at hcursor
  have hrecords : Records s.indexer o projected := by
    refine ⟨hlatest ▸ get_setLatest .., fun k hk ↦ ?_, hpending, hfinalized⟩
    rw [hlatest]
    refine get_setLatest_of_ne fun i hi hik ↦ hk ?_
    rcases List.mem_append.1 hi with hi | hi
    · exact hik.symm.trans (hinvalid i hi).2
    · exact hik.symm.trans (congrArg (·.eventKey) (List.mem_singleton.1 hi))
  have hstore := commitIngestion_observations hcommit
  obtain ⟨h', rfl, hahead, hgrows⟩ := cursorFor_head hcursor
  refine ⟨?_, keyed_setLatest h.keyed hlatest, ?_, ?_, ?_, ?_, hrebuilt, ?_, ?_⟩
  · intro x hx
    rcases List.mem_append.1 hx with hx | hx
    · exact h.normalized x hx
    · exact List.mem_singleton.1 hx ▸ ho
  · intro k x hx
    by_cases hk : k = o.eventKey
    · subst hk
      obtain rfl := Option.some.inj (hrecords.own.symm.trans hx)
      exact .inr hself
    · exact (h.latest k x ((hrecords.other k hk).symm.trans hx)).imp_right (hseen x)
  · intro k x
    dsimp only
    by_cases hk : k = o.eventKey
    · subst hk
      rw [hrecords.get, hrecords.own, hpending]
      by_cases hfinal : o.observationStatus = .finalized
      · rw [if_pos ⟨rfl, hfinal⟩, Option.some.injEq]
        exact ⟨fun hx ↦ ⟨hx, hx ▸ hfinal⟩, And.left⟩
      · rw [if_neg fun hc ↦ hfinal hc.2, Option.some.injEq]
        exact ⟨fun hx ↦ (by cases hx), fun ⟨hx, hxfinal⟩ ↦ absurd (hx ▸ hxfinal) hfinal⟩
    · rw [hrecords.get, if_neg fun hc ↦ hk hc.1, hrecords.other k hk]
      exact h.finalized k x
  · intro x hx hfinal
    rcases List.mem_append.1 hx with hx | hx
    · obtain ⟨y, hy, hcontent⟩ := h.complete x hx hfinal
      exact ⟨y, hrecords.kept hy, hcontent⟩
    · obtain rfl := List.mem_singleton.1 hx
      exact ⟨x, (hrecords.get _).trans (if_pos ⟨rfl, hfinal⟩), rfl⟩
  · intro k
    dsimp only
    rw [hkeySet, hrecords.get]
    by_cases hk : k = o.eventKey ∧ o.observationStatus = .finalized
    · rw [if_pos hk]
      exact ⟨fun _ ↦ ⟨o, rfl⟩, fun _ ↦ .inr hk⟩
    · rw [if_neg hk, or_iff_left hk]
      exact h.keySet k
  · intro x hx
    rw [hstore, List.mem_append] at hx
    rcases hx with hx | hx
    · rcases h.stored x hx with hi | ⟨hmem, ⟨h₀, hh₀, hle⟩, hproj⟩
      · exact .inl hi
      · exact .inr ⟨hseen x hmem, ⟨h', rfl, hle.trans (hgrows h₀ hh₀).1⟩,
          fun hfinal ↦ hrecords.kept (hproj hfinal)⟩
    · rcases List.mem_append.1 (List.mem_filter.1 hx).1 with hi | hx
      · exact .inl (hinvalid x hi).1
      · obtain rfl := List.mem_singleton.1 hx
        exact .inr ⟨hself, ⟨h', rfl, hahead⟩,
          fun hfinal ↦ (hrecords.get _).trans (if_pos ⟨rfl, hfinal⟩)⟩
  · rw [hstore]
    exact h.replays_append hcf ho hrecords (fun i hi ↦ (hinvalid i hi).1) hcursor

/-- What becomes of a log that is taken. -/
theorem Takes.log_cases {log : RawLog} {s' : System H}
    (h : Takes prims descriptor s (.log log) s') :
    ∃ o, normalizeLog prims descriptor log = .ok o ∧
      (isDuplicate (s.indexer.latestByEventKey.get o.eventKey) o = true ∧ s' = s ∨
        ∃ invalidations projected effect head cursor store' persisted,
          isDuplicate (s.indexer.latestByEventKey.get o.eventKey) o = false ∧
          admission prims s.indexer o = .ok invalidations ∧
          finalize prims descriptor (setLatest s.indexer (invalidations ++ [o])) o
            = .ok (projected, effect) ∧
          cursorFor prims descriptor projected.head o = .ok (head, cursor) ∧
          commitIngestion s.store ⟨invalidations ++ [o], effect, some cursor⟩ none
            = .ok (store', persisted) ∧
          s' = ⟨{ projected with head }, store'⟩) := by
  obtain ⟨r, hr⟩ := h
  cases hlog : normalizeLog prims descriptor log with
  | error e =>
    rw [ingest, hlog] at hr
    cases hr
  | ok o =>
    refine ⟨o, rfl, ?_⟩
    have houtcome := applyObservation_outcome prims descriptor s.indexer o
    generalize happly : applyObservation prims descriptor s.indexer o = a at houtcome
    cases houtcome with
    | duplicate dup =>
      rw [ingest, hlog] at hr
      dsimp only at hr
      rw [happly] at hr
      exact .inl ⟨dup, (Prod.mk.inj hr).2.symm⟩
    | applied invalidations projected effect head cursor fresh admitted finalized window =>
      rw [ingest_applied prims descriptor none hlog (congrArg Prod.fst happly), happly] at hr
      split at hr
      · cases hr
      · rename_i store' persisted hcommit
        exact .inr ⟨invalidations, projected, effect, head, cursor, store', persisted, fresh,
          admitted, finalized, window, hcommit, (Prod.mk.inj hr).2.symm⟩
    | refused e fresh admitted =>
      rw [ingest_error prims descriptor none hlog (congrArg Prod.fst happly)] at hr
      cases hr
    | unprojected e invalidations fresh admitted finalized =>
      rw [ingest_error prims descriptor none hlog (congrArg Prod.fst happly)] at hr
      cases hr
    | outOfWindow e invalidations projected effect fresh admitted finalized window =>
      rw [ingest_error prims descriptor none hlog (congrArg Prod.fst happly)] at hr
      cases hr

/-- **Every feed that is taken keeps the invariant.** -/
theorem Tracks.takes (hcf : CollisionFree prims) (h : Tracks prims descriptor seen s) {feed : Feed}
    {s' : System H} (htakes : Takes prims descriptor s feed s') :
    Tracks prims descriptor (seen ++ observed prims descriptor [feed]) s' := by
  cases feed with
  | block blockNumber blockHash observedAt =>
    have hnone : observed prims descriptor [.block blockNumber blockHash observedAt] = [] := rfl
    rw [hnone, List.append_nil]
    exact h.block htakes
  | log log =>
    obtain ⟨o, hlog, hcases⟩ := htakes.log_cases
    have hone : observed prims descriptor [.log log] = [o] := by
      simp only [observed, List.filterMap_cons, hlog]
      rfl
    have ho := normalizeLog_normalized hlog
    rw [hone]
    obtain ⟨hdup, rfl⟩ | ⟨invalidations, projected, effect, head, cursor, store', persisted, hfresh,
      hadmission, hfinalize, hcursor, hcommit, rfl⟩ := hcases
    · exact h.duplicate hcf ho hdup
    · exact h.applied hcf ho hfresh hadmission hfinalize hcursor hcommit

end Preservation

/-! ## Whole runs -/

section Runs

variable {H : Type} [LinearOrder H] {prims : Primitives H} {descriptor : Descriptor}
  {seen seen' : List (Observation H)} {s s' : System H}

theorem Tracks.accepts (hcf : CollisionFree prims) (h : Tracks prims descriptor seen s)
    {feeds : List Feed} (haccepts : Accepts prims descriptor s feeds s') :
    Tracks prims descriptor (seen ++ observed prims descriptor feeds) s' := by
  induction feeds generalizing seen s with
  | nil =>
    obtain rfl : s' = s := haccepts
    rw [observed, List.filterMap_nil, List.append_nil]
    exact h
  | cons feed rest ih =>
    obtain ⟨s₁, htakes, hrest⟩ := haccepts
    have hobserved : observed prims descriptor (feed :: rest)
        = observed prims descriptor [feed] ++ observed prims descriptor rest :=
      List.filterMap_append (l := [feed])
    rw [hobserved, ← List.append_assoc]
    exact ih (h.takes hcf htakes) hrest

/-- **The invariant holds along every run without rejections.** -/
theorem Accepts.tracks (hcf : CollisionFree prims) {now : ℕ} {feeds : List Feed}
    (h : Accepts prims descriptor (.new prims descriptor now) feeds s) :
    Tracks prims descriptor (observed prims descriptor feeds) s := by
  have htracks := (tracks_new now).accepts hcf h
  rw [List.nil_append] at htracks
  exact htracks

/-- **Restoring arrives at the same projection.** -/
theorem Tracks.restore (h : Tracks prims descriptor seen s) (now : ℕ) :
    (restore prims descriptor s now).1 = .ok (s.indexer.snapshot prims) := by
  obtain ⟨ix', hreplay, _, hfinalized⟩ := h.replays (clear descriptor s.indexer) rfl rfl
  rw [Indexer.restore, hreplay]
  dsimp only
  rw [hfinalized, h.rebuilt]
  rfl

/-- What is projected was seen, under its own key. -/
theorem Tracks.seen_of_get (h : Tracks prims descriptor seen s) {k : H} {x : Observation H}
    (hx : s.indexer.finalizedObservations.get k = some x) :
    x ∈ seen ∧ x.observationStatus = .finalized ∧ x.eventKey = k := by
  obtain ⟨hlatest, hfinal⟩ := (h.finalized k x).1 hx
  refine ⟨(h.latest k x hlatest).resolve_left fun hinvalid ↦ ?_, hfinal, h.keyed k x hlatest⟩
  rw [hinvalid.status] at hfinal
  cases hfinal

/-- **The projection has the contents of the finalized observations**, each under its key. -/
theorem Tracks.get_map_content (hcf : CollisionFree prims) (h : Tracks prims descriptor seen s)
    (k : H) (c : Content H) :
    (s.indexer.finalizedObservations.get k).map content = some c ↔
      c.eventKey = k ∧ ∃ o ∈ seen, o.observationStatus = .finalized ∧ content o = c := by
  rw [Option.map_eq_some_iff]
  constructor
  · rintro ⟨x, hx, rfl⟩
    obtain ⟨hmem, hfinal, hkey⟩ := h.seen_of_get hx
    exact ⟨hkey, x, hmem, hfinal, rfl⟩
  · rintro ⟨rfl, o, hmem, hfinal, rfl⟩
    obtain ⟨x, hx, hhash⟩ := h.complete o hmem hfinal
    obtain ⟨hxmem, hxfinal, _⟩ := h.seen_of_get hx
    exact ⟨x, hx, hcf.content_eq (h.normalized x hxmem) (h.normalized o hmem) hhash
      (hxfinal.trans hfinal.symm)⟩

/-- The event keys of a projection are distinct. -/
theorem Tracks.nodup_keys (h : Tracks prims descriptor seen s) :
    ((orderedFinalized s.indexer.finalizedObservations).map (·.eventKey)).Nodup := by
  have hperm := (s.indexer.finalizedObservations.sortedBy_perm position).map (·.eventKey)
  have hkeys : s.indexer.finalizedObservations.values.map (·.eventKey)
      = s.indexer.finalizedObservations.entries.map Prod.fst := by
    rw [InsertionMap.values, List.map_map]
    refine List.map_congr_left fun e he ↦ ?_
    have hget := (s.indexer.finalizedObservations.mem_entries_iff e.1 e.2).1 he
    exact (h.seen_of_get hget).2.2
  refine hperm.nodup_iff.2 ?_
  rw [hkeys]
  exact s.indexer.finalizedObservations.nodup

/-- The projected observations stand in the order of the chain, no two at one place. -/
theorem Tracks.pairwise_position (h : Tracks prims descriptor seen s) :
    (orderedFinalized s.indexer.finalizedObservations).Pairwise
      fun a b ↦ position a < position b := by
  have hle := s.indexer.finalizedObservations.pairwise_sortedBy position
  have hne := List.pairwise_map.1 h.nodup_keys
  refine (hle.and hne).imp fun {a b} hab ↦ lt_of_le_of_ne hab.1 fun heq ↦ hab.2 ?_
  exact congrArg (fun p : ℕ ×ₗ ℕ ×ₗ ℕ ×ₗ H ↦ (ofLex (ofLex (ofLex p).2).2).2) heq

theorem Tracks.mem_contents (hcf : CollisionFree prims) (h : Tracks prims descriptor seen s)
    (c : Content H) :
    c ∈ (orderedFinalized s.indexer.finalizedObservations).map content ↔
      ∃ o ∈ seen, o.observationStatus = .finalized ∧ content o = c := by
  have hmem : ∀ x, x ∈ orderedFinalized s.indexer.finalizedObservations ↔
      ∃ k, s.indexer.finalizedObservations.get k = some x := by
    intro x
    have hperm := s.indexer.finalizedObservations.sortedBy_perm position
    exact hperm.mem_iff.trans (InsertionMap.mem_values_iff ..)
  rw [List.mem_map]
  constructor
  · rintro ⟨x, hx, rfl⟩
    obtain ⟨k, hk⟩ := (hmem x).1 hx
    obtain ⟨hseen, hfinal, _⟩ := h.seen_of_get hk
    exact ⟨x, hseen, hfinal, rfl⟩
  · intro ho
    obtain ⟨x, hx, rfl⟩ := Option.map_eq_some_iff.1 ((h.get_map_content hcf _ c).2 ⟨rfl, ho⟩)
    exact ⟨x, (hmem x).2 ⟨_, hx⟩, rfl⟩

/-- **The snapshot is the fold of what is projected.** -/
theorem Tracks.rebuilt_fold (h : Tracks prims descriptor seen s) :
    ∃ state, (orderedFinalized s.indexer.finalizedObservations).foldlM applyFinalizedEvent
        (initialState descriptor) = .ok state ∧
      s.indexer.snapshot prims = projectionSnapshot prims state
        ((orderedFinalized s.indexer.finalizedObservations).map (·.eventKey)) := by
  have hrebuilt := h.rebuilt
  simp only [rebuildProjection, bind_eq_ok, pure_eq_ok, Prod.mk.injEq] at hrebuilt
  obtain ⟨state, hstate, rfl, hkeys⟩ := hrebuilt
  exact ⟨_, hstate, by rw [PoolEventIndexer.snapshot, hkeys]⟩

/-- `position` of a content -/
def Content.position (c : Content H) : ℕ ×ₗ ℕ ×ₗ ℕ ×ₗ H :=
  toLex (c.blockNumber, toLex (c.transactionIndex, toLex (c.logIndex, c.eventKey)))

omit [LinearOrder H] in
/-- Only the contents of observations go into a projection. -/
theorem foldlM_applyFinalizedEvent (state : ProjectionState) (os : List (Observation H)) :
    os.foldlM applyFinalizedEvent state = (os.map content).foldlM (fun state c ↦ do
      throwIf (c.observationStatus ≠ .finalized) "pool_event_not_finalized"
        "only finalized Pool V1 events can mutate the canonical projection"
      applyEvent state c.blockTimestamp c.event) state := by
  rw [List.foldlM_map]
  rfl

/-- **Runs with the same finalized contents project alike.** -/
theorem Tracks.same (hcf : CollisionFree prims) (h : Tracks prims descriptor seen s)
    (h' : Tracks prims descriptor seen' s')
    (hsame : ∀ c, (∃ o ∈ seen, o.observationStatus = .finalized ∧ content o = c) ↔
      ∃ o ∈ seen', o.observationStatus = .finalized ∧ content o = c) :
    s.indexer.snapshot prims = s'.indexer.snapshot prims := by
  have hget : ∀ k, (s.indexer.finalizedObservations.get k).map content
      = (s'.indexer.finalizedObservations.get k).map content := by
    intro k
    refine Option.ext fun c ↦ ?_
    rw [h.get_map_content hcf, hsame, ← h'.get_map_content hcf]
  have hordered : (orderedFinalized s.indexer.finalizedObservations).map content
      = (orderedFinalized s'.indexer.finalizedObservations).map content := by
    refine InsertionMap.map_sortedBy_eq Content.position (fun _ ↦ rfl) hget ?_
    intro a ha b hb hab
    -- the position has the key in it
    obtain ⟨k, hk⟩ := (InsertionMap.mem_values_iff ..).1 ha
    obtain ⟨l, hl⟩ := (InsertionMap.mem_values_iff ..).1 hb
    have hkey : a.eventKey = b.eventKey :=
      congrArg (fun p : ℕ ×ₗ ℕ ×ₗ ℕ ×ₗ H ↦ (ofLex (ofLex (ofLex p).2).2).2) hab
    rw [(h.seen_of_get hk).2.2, (h.seen_of_get hl).2.2] at hkey
    subst hkey
    rw [Option.some.inj (hk.symm.trans hl)]
  have hkeys : ∀ os : List (Observation H),
      os.map (·.eventKey) = (os.map content).map (·.eventKey) := by
    intro os
    rw [List.map_map]
    rfl
  have hrebuild : rebuildProjection descriptor s.indexer.finalizedObservations
      = rebuildProjection descriptor s'.indexer.finalizedObservations := by
    simp only [rebuildProjection, foldlM_applyFinalizedEvent, hkeys, hordered]
  rw [h.rebuilt, h'.rebuilt] at hrebuild
  obtain ⟨hstate, heventKeys⟩ := Prod.mk.inj (Except.ok.inj hrebuild)
  rw [PoolEventIndexer.snapshot, PoolEventIndexer.snapshot, hstate, heventKeys]

end Runs

/-! ## What is final stays -/

section Sealed

variable {H : Type} [LinearOrder H] {prims : Primitives H} {descriptor : Descriptor}
  {ix ix' : PoolEventIndexer H} {o : Observation H}

/-- The projected observations are the latest ones of their events. -/
structure Sealed (ix : PoolEventIndexer H) : Prop where
  keyed : Keyed ix
  latest : ∀ k x, ix.finalizedObservations.get k = some x →
    ix.latestByEventKey.get k = some x ∧ x.observationStatus = .finalized ∧
      k ∈ ix.finalizedEventKeySet

/-- The projected observations of one indexer are also those of another. -/
def Keeps (ix ix' : PoolEventIndexer H) : Prop :=
  ∀ k x, ix.finalizedObservations.get k = some x → ix'.finalizedObservations.get k = some x

theorem Sealed.write (h : Sealed ix) {os : List (Observation H)}
    (hos : ∀ i ∈ os, ix.finalizedObservations.get i.eventKey = none) :
    Sealed (setLatest ix os) := by
  refine ⟨keyed_setLatest h.keyed rfl, fun k x hx ↦ ?_⟩
  rw [get_setLatest_of_ne]
  · exact h.latest k x hx
  · rintro i hi rfl
    cases (hos i hi).symm.trans hx

theorem Sealed.finalize (h : Sealed ix) {effect : Option (FinalizedEffect H × OutboxMessage H)}
    (hlatest : ix.latestByEventKey.get o.eventKey = some o)
    (hpending : ix.finalizedObservations.get o.eventKey = none)
    (hfinalize : finalize prims descriptor ix o = .ok (ix', effect)) :
    Sealed ix' ∧ Keeps ix ix' := by
  obtain ⟨rfl, _, _⟩ | ⟨hfinal, _, state, eventKeys, _, _, rfl⟩ := finalize_ok hfinalize
  · exact ⟨h, fun _ _ hx ↦ hx⟩
  · refine ⟨⟨h.keyed, fun k x hx ↦ ?_⟩, fun k x hx ↦ ?_⟩
    · dsimp only at hx ⊢
      rw [InsertionMap.get_set] at hx
      split at hx
      · rename_i hk
        obtain rfl := Option.some.inj hx
        rw [hk]
        exact ⟨hlatest, hfinal, List.mem_append_right _ (List.mem_singleton_self _)⟩
      · obtain ⟨hx, hxfinal, hk⟩ := h.latest k x hx
        exact ⟨hx, hxfinal, List.mem_append_left _ hk⟩
    · dsimp only
      rw [InsertionMap.get_set_of_ne, hx]
      rintro rfl
      cases hpending.symm.trans hx

variable (prims descriptor)

/-- **No observation changes what is final**, whether it is applied or rejected. -/
theorem Sealed.applyObservation (h : Sealed ix) (o : Observation H) :
    Sealed (applyObservation prims descriptor ix o).2 ∧
      Keeps ix (applyObservation prims descriptor ix o).2 := by
  have hwrite : ∀ invalidations, isDuplicate (ix.latestByEventKey.get o.eventKey) o = false →
      admission prims ix o = .ok invalidations →
      Sealed (setLatest ix (invalidations ++ [o])) ∧
        ix.finalizedObservations.get o.eventKey = none := by
    intro invalidations hfresh hadmission
    obtain ⟨hcurrent, hinvalid⟩ := admission_replaces h.keyed hfresh hadmission
    have hpending : ix.finalizedObservations.get o.eventKey = none := by
      rw [Option.eq_none_iff_forall_ne_some]
      intro x hx
      obtain ⟨hlatest, hfinal, _⟩ := h.latest _ x hx
      exact hcurrent x hlatest hfinal
    refine ⟨h.write fun i hi ↦ ?_, hpending⟩
    rcases List.mem_append.1 hi with hi | hi
    · rw [(hinvalid i hi).2]
      exact hpending
    · rw [List.mem_singleton.1 hi]
      exact hpending
  have houtcome := applyObservation_outcome prims descriptor ix o
  generalize Indexer.applyObservation prims descriptor ix o = r at houtcome ⊢
  cases houtcome with
  | duplicate dup => exact ⟨h, fun _ _ hx ↦ hx⟩
  | refused e fresh admitted => exact ⟨h, fun _ _ hx ↦ hx⟩
  | unprojected e invalidations fresh admitted finalized =>
    exact ⟨(hwrite invalidations fresh admitted).1, fun _ _ hx ↦ hx⟩
  | outOfWindow e invalidations projected effect fresh admitted finalized window =>
    obtain ⟨hsealed, hpending⟩ := hwrite invalidations fresh admitted
    exact hsealed.finalize (get_setLatest ..) hpending finalized
  | applied invalidations projected effect head cursor fresh admitted finalized window =>
    obtain ⟨hsealed, hpending⟩ := hwrite invalidations fresh admitted
    obtain ⟨hprojected, hkeeps⟩ := hsealed.finalize (get_setLatest ..) hpending finalized
    exact ⟨⟨hprojected.keyed, hprojected.latest⟩, hkeeps⟩

/-- The state a feed leaves, taken or not. -/
def deliver (s : System H) (delivery : Feed × Option DomainError) : System H :=
  match delivery with
  | (.log log, failure) => (ingest prims descriptor s log failure).2
  | (.block blockNumber blockHash observedAt, failure) =>
    (observeCanonicalBlock prims descriptor s blockNumber blockHash observedAt failure).2

theorem Sealed.deliver {s : System H} (h : Sealed s.indexer)
    (delivery : Feed × Option DomainError) :
    Sealed (deliver prims descriptor s delivery).indexer ∧
      Keeps s.indexer (deliver prims descriptor s delivery).indexer := by
  obtain ⟨feed, failure⟩ := delivery
  cases feed with
  | log log =>
    rw [Indexer.deliver]
    rcases ingest_indexer prims descriptor s log failure with hsame | ⟨o, _, happly⟩
    · rw [hsame]
      exact ⟨h, fun _ _ hx ↦ hx⟩
    · rw [happly]
      exact h.applyObservation prims descriptor o
  | block blockNumber blockHash observedAt =>
    rw [Indexer.deliver, observeCanonicalBlock]
    split
    · exact ⟨h, fun _ _ hx ↦ hx⟩
    · rename_i number hash invalidations hinvalidations
      have hsealed : Sealed (setLatest s.indexer invalidations) := by
        refine h.write fun i hi ↦ ?_
        obtain ⟨_, o, ho, _, hfinal⟩ := invalidationsOf_ok h.keyed hinvalidations i hi
        rw [Option.eq_none_iff_forall_ne_some]
        intro x hx
        obtain ⟨hlatest, hxfinal, _⟩ := h.latest _ x hx
        obtain rfl := Option.some.inj (ho.symm.trans hlatest)
        exact hfinal hxfinal
      split
      · exact ⟨h, fun _ _ hx ↦ hx⟩
      · dsimp only
        split
        · exact ⟨hsealed, fun _ _ hx ↦ hx⟩
        · exact ⟨hsealed, fun _ _ hx ↦ hx⟩

/-- **Nothing that is delivered later changes what is final.** -/
theorem Sealed.keeps {s : System H} (h : Sealed s.indexer)
    (deliveries : List (Feed × Option DomainError)) :
    Keeps s.indexer (deliveries.foldl (Indexer.deliver prims descriptor) s).indexer := by
  induction deliveries generalizing s with
  | nil => exact fun _ _ hx ↦ hx
  | cons delivery rest ih =>
    obtain ⟨hsealed, hkeeps⟩ := h.deliver prims descriptor delivery
    intro k x hx
    exact ih hsealed k x (hkeeps k x hx)

end Sealed

/-- **The order of delivery does not matter.**  Take two runs without rejections whose finalized
observations say the same, in whatever order, how often and with whatever other observations in
between.  Then both end with the same snapshot; it is the fold of the finalized observations in the
order of the chain, each event once; nothing that is delivered later, accepted or not, changes or
removes a finalized observation; and restoring from the store returns the same snapshot. -/
theorem projection_order_independent {H : Type} [LinearOrder H] {prims : Primitives H}
    {descriptor : Descriptor} (hcf : CollisionFree prims) {now now' : ℕ} {feeds feeds' : List Feed}
    {s s' : System H} (h : Accepts prims descriptor (.new prims descriptor now) feeds s)
    (h' : Accepts prims descriptor (.new prims descriptor now') feeds' s')
    (hsame : ∀ c,
      (∃ o ∈ observed prims descriptor feeds, o.observationStatus = .finalized ∧ content o = c) ↔
        ∃ o ∈ observed prims descriptor feeds',
          o.observationStatus = .finalized ∧ content o = c) :
    s.indexer.snapshot prims = s'.indexer.snapshot prims ∧
    (∃ (os : List (Observation H)) (state : ProjectionState),
      os.Pairwise (fun a b ↦ position a < position b) ∧
      (os.map (·.eventKey)).Nodup ∧
      (∀ c, c ∈ os.map content ↔
        ∃ o ∈ observed prims descriptor feeds,
          o.observationStatus = .finalized ∧ content o = c) ∧
      os.foldlM applyFinalizedEvent (initialState descriptor) = .ok state ∧
      s.indexer.snapshot prims = projectionSnapshot prims state (os.map (·.eventKey))) ∧
    (∀ deliveries : List (Feed × Option DomainError), ∀ k x,
      s.indexer.finalizedObservations.get k = some x →
        (deliveries.foldl (deliver prims descriptor) s).indexer.finalizedObservations.get k
          = some x) ∧
    (∀ time, (restore prims descriptor s time).1 = .ok (s.indexer.snapshot prims)) := by
  have htracks := h.tracks hcf
  refine ⟨htracks.same hcf (h'.tracks hcf) hsame, ?_, ?_, htracks.restore⟩
  · obtain ⟨state, hstate, hkeys⟩ := htracks.rebuilt_fold
    refine ⟨_, state, htracks.pairwise_position, htracks.nodup_keys, ?_, hstate, hkeys⟩
    intro c
    rw [← htracks.mem_contents hcf]
  · have hsealed : Sealed s.indexer := by
      refine ⟨htracks.keyed, fun k x hx ↦ ?_⟩
      obtain ⟨hlatest, hfinal⟩ := (htracks.finalized k x).1 hx
      exact ⟨hlatest, hfinal, (htracks.keySet k).2 ⟨x, hx⟩⟩
    exact fun deliveries ↦ hsealed.keeps prims descriptor deliveries

section Evaluation

variable {H : Type} [LinearOrder H] (prims : Primitives H) (descriptor : Descriptor)

/-- All feeds are taken, decided by running them. -/
def allTaken (s : System H) : List Feed → Bool
  | [] => true
  | .log log :: rest =>
    (ingest prims descriptor s log none).1.isOk &&
      allTaken (ingest prims descriptor s log none).2 rest
  | .block blockNumber blockHash observedAt :: rest =>
    (observeCanonicalBlock prims descriptor s blockNumber blockHash observedAt none).1.isOk &&
      allTaken (observeCanonicalBlock prims descriptor s blockNumber blockHash observedAt none).2
        rest

theorem accepts_of_allTaken {s : System H} {feeds : List Feed}
    (h : allTaken prims descriptor s feeds = true) :
    ∃ s', Accepts prims descriptor s feeds s' := by
  induction feeds generalizing s with
  | nil => exact ⟨s, rfl⟩
  | cons feed rest ih =>
    cases feed with
    | log log =>
      rw [allTaken, Bool.and_eq_true, isOk_iff] at h
      obtain ⟨⟨r, hr⟩, hrest⟩ := h
      obtain ⟨s', hs'⟩ := ih hrest
      exact ⟨s', _, ⟨r, Prod.ext hr rfl⟩, hs'⟩
    | block blockNumber blockHash observedAt =>
      rw [allTaken, Bool.and_eq_true, isOk_iff] at h
      obtain ⟨⟨r, hr⟩, hrest⟩ := h
      obtain ⟨s', hs'⟩ := ih hrest
      exact ⟨s', _, ⟨r, Prod.ext hr rfl⟩, hs'⟩

end Evaluation

namespace Sample

theorem collisionFree : CollisionFree prims := ⟨digest_injective⟩

/-- The guardian's pause is included, safe and, twice, final, before its end is included. -/
def straight : List Feed :=
  [.log (rawLog 10 1 ⟨5, .newRiskPauseChanged true 20, 1000⟩),
    .log (rawLog 10 2 ⟨5, .newRiskPauseChanged true 20, 1000⟩),
    .log (rawLog 10 4 ⟨5, .newRiskPauseChanged true 20, 1000⟩),
    .log (rawLog 10 4 ⟨5, .newRiskPauseChanged true 20, 1000⟩),
    .log (rawLog 11 1 ⟨5, .newRiskPauseChanged false 20, 1010⟩)]

/-- The end of the pause is safe first; the pause is included in a block that the chain drops, and
then final in another. -/
def reordered : List Feed :=
  [.log (rawLog 11 2 ⟨5, .newRiskPauseChanged false 20, 1010⟩),
    .log { rawLog 10 1 ⟨5, .newRiskPauseChanged true 20, 1000⟩ with
      blockHash := some (Abi.bytes32 3010) },
    .block (some 10) (some (Abi.bytes32 2010)) (some 1005),
    .log (rawLog 10 4 ⟨5, .newRiskPauseChanged true 20, 1000⟩)]

end Sample

/-- Two orders of the guardian's logs, with a reorganization in one of them. -/
theorem projection_order_independent_pause :
    ∃ s s' : System (List ℕ),
      Accepts Sample.prims Sample.descriptor (.new Sample.prims Sample.descriptor 0)
        Sample.straight s ∧
      Accepts Sample.prims Sample.descriptor (.new Sample.prims Sample.descriptor 0)
        Sample.reordered s' ∧
      s.indexer.snapshot Sample.prims = s'.indexer.snapshot Sample.prims := by
  have hstraight : allTaken Sample.prims Sample.descriptor (.new Sample.prims Sample.descriptor 0)
      Sample.straight = true := by decide +kernel
  have hreordered : allTaken Sample.prims Sample.descriptor (.new Sample.prims Sample.descriptor 0)
      Sample.reordered = true := by decide +kernel
  obtain ⟨s, hs⟩ := accepts_of_allTaken _ _ hstraight
  obtain ⟨s', hs'⟩ := accepts_of_allTaken _ _ hreordered
  refine ⟨s, s', hs, hs', (projection_order_independent Sample.collisionFree hs hs' ?_).1⟩
  intro c
  have hstraight : ∀ o ∈ observed Sample.prims Sample.descriptor Sample.straight,
      o.observationStatus = .finalized →
        o ∈ observed Sample.prims Sample.descriptor Sample.reordered := by decide +kernel
  have hreordered : ∀ o ∈ observed Sample.prims Sample.descriptor Sample.reordered,
      o.observationStatus = .finalized →
        o ∈ observed Sample.prims Sample.descriptor Sample.straight := by decide +kernel
  constructor
  · rintro ⟨o, ho, hfinal, hc⟩
    exact ⟨o, hstraight o ho hfinal, hfinal, hc⟩
  · rintro ⟨o, ho, hfinal, hc⟩
    exact ⟨o, hreordered o ho hfinal, hfinal, hc⟩

end Indexer
end IpoOne
