import IpoOne.Indexer.Order

/-!
# The order in which effects are exposed

When an event becomes final the indexer stores an effect with the projection at that moment, and the
number of events in it says to importers where the effect stands: `finalizedEventCount`.  That
number is one of arrival.  `arrivals` are the first finalized observations of the events, in the
order in which they come, and the effects are theirs, counted from one (`Exposes`); so the counts
follow the chain exactly if the events become final in the order of the chain (`countsInOrder_iff`).
-/

set_option autoImplicit false

namespace IpoOne
namespace Indexer

open Fallible

section Arrivals

variable {H : Type} [LinearOrder H]

/-- `projection.finalizedEventCount` of an effect -/
def FinalizedEffect.finalizedEventCount {H : Type} (effect : FinalizedEffect H) : ℕ :=
  effect.projection.finalizedEventKeys.length

/-- Whether an observation is the first finalized one of its event. -/
def Arrives (arrived : List (Observation H)) (o : Observation H) : Prop :=
  o.observationStatus = .finalized ∧ o.eventKey ∉ arrived.map (·.eventKey)

instance (arrived : List (Observation H)) (o : Observation H) : Decidable (Arrives arrived o) :=
  inferInstanceAs (Decidable (_ ∧ _))

/-- The first finalized observations of the events, in the order in which they come. -/
def arrivals (seen : List (Observation H)) : List (Observation H) :=
  seen.foldl (fun arrived o ↦ if Arrives arrived o then arrived ++ [o] else arrived) []

theorem arrivals_append_one (seen : List (Observation H)) (o : Observation H) :
    arrivals (seen ++ [o])
      = if Arrives (arrivals seen) o then arrivals seen ++ [o] else arrivals seen := by
  rw [arrivals, List.foldl_append]
  rfl

theorem arrivals_append_of_not {seen : List (Observation H)} {o : Observation H}
    (h : ¬ Arrives (arrivals seen) o) : arrivals (seen ++ [o]) = arrivals seen := by
  rw [arrivals_append_one, if_neg h]

theorem mem_of_mem_arrivals {seen : List (Observation H)} {o : Observation H}
    (h : o ∈ arrivals seen) : o ∈ seen ∧ o.observationStatus = .finalized := by
  induction seen using List.reverseRecOn with
  | nil => cases h
  | append_singleton seen last ih =>
    rw [arrivals_append_one] at h
    split at h
    · rename_i harrives
      rcases List.mem_append.1 h with h | h
      · exact ⟨List.mem_append_left _ (ih h).1, (ih h).2⟩
      · rw [List.mem_singleton.1 h]
        exact ⟨List.mem_append_right _ (List.mem_singleton_self _), harrives.1⟩
    · exact ⟨List.mem_append_left _ (ih h).1, (ih h).2⟩

theorem nodup_arrivals (seen : List (Observation H)) :
    ((arrivals seen).map (·.eventKey)).Nodup := by
  induction seen using List.reverseRecOn with
  | nil => exact List.nodup_nil
  | append_singleton seen last ih =>
    rw [arrivals_append_one]
    split
    · rename_i harrives
      rw [List.map_append, List.nodup_append]
      refine ⟨ih, List.nodup_singleton _, fun a ha b hb ↦ ?_⟩
      rw [List.mem_singleton.1 hb]
      rintro rfl
      exact harrives.2 ha
    · exact ih

/-- No two events stand at one place. -/
theorem pairwise_arrivals_position (seen : List (Observation H)) :
    (arrivals seen).Pairwise fun a b ↦ position a ≠ position b := by
  refine (List.pairwise_map.1 (nodup_arrivals seen)).imp fun {a b} hne hsame ↦ hne ?_
  exact congrArg (fun p : ℕ ×ₗ ℕ ×ₗ ℕ ×ₗ H ↦ (ofLex (ofLex (ofLex p).2).2).2) hsame

end Arrivals

/-! ## What is exposed -/

section Exposure

variable {H : Type} [LinearOrder H] {prims : Primitives H} {descriptor : Descriptor}
  {seen : List (Observation H)} {s s' : System H}

/-- **The effects are those of the arrivals**, counted from one. -/
structure Exposes (seen : List (Observation H)) (s : System H) : Prop where
  effects : List.Forall₂ (fun effect o ↦ effect.eventKey = o.eventKey ∧
    effect.observationHash = o.observationHash) s.store.effects (arrivals seen)
  keySet : ∀ k, k ∈ s.indexer.finalizedEventKeySet ↔ k ∈ (arrivals seen).map (·.eventKey)
  size : s.indexer.finalizedEventKeys.length = s.store.effects.length
  counts : s.store.effects.map (·.finalizedEventCount) = List.range' 1 s.store.effects.length
  stored : ∀ o ∈ arrivals seen, ∃ x ∈ s.store.observations, x.observationHash = o.observationHash

theorem exposes_new (now : ℕ) : Exposes [] (System.new prims descriptor now) where
  effects := .nil
  keySet := fun _ ↦ Iff.rfl
  size := rfl
  counts := rfl
  stored := List.forall_mem_nil _

theorem rebuildProjection_length {observations : InsertionMap H (Observation H)}
    {state : ProjectionState} {eventKeys : List H}
    (h : rebuildProjection descriptor observations = .ok (state, eventKeys)) :
    eventKeys.length = observations.values.length := by
  simp only [rebuildProjection, bind_eq_ok, pure_eq_ok, Prod.mk.injEq] at h
  obtain ⟨_, _, _, rfl⟩ := h
  rw [List.length_map]
  exact (observations.sortedBy_perm position).length_eq

/-- The effect of an observation that joins the projection. -/
theorem finalize_effect {ix ix' : PoolEventIndexer H} {o : Observation H}
    {effect : Option (FinalizedEffect H × OutboxMessage H)}
    (h : finalize prims descriptor ix o = .ok (ix', effect))
    (hnew : o.observationStatus = .finalized ∧ o.eventKey ∉ ix.finalizedEventKeySet) :
    ∃ exposed message, effect = some (exposed, message) ∧ exposed.eventKey = o.eventKey ∧
      exposed.observationHash = o.observationHash ∧
        exposed.finalizedEventCount = ix'.finalizedEventKeys.length := by
  rw [finalize, if_pos hnew] at h
  simp only [bind_eq_ok, pure_eq_ok, Prod.exists, Prod.mk.injEq] at h
  obtain ⟨state, eventKeys, _, rfl, rfl⟩ := h
  exact ⟨_, _, rfl, rfl, rfl, rfl⟩

theorem commitIngestion_effects {store store' : Store H} {bundle : Bundle H}
    {persisted : Persisted} (h : commitIngestion store bundle none = .ok (store', persisted)) :
    store'.effects = store.effects ++ (bundle.effect.toList.filter fun e ↦
      e.1.eventKey ∉ store.effects.map (·.eventKey)).map (·.1) := by
  rw [commitIngestion] at h
  split at h
  · rename_i hnone
    obtain ⟨rfl, _⟩ := Prod.mk.inj (pure_eq_ok.1 h)
    rw [hnone.2]
    exact (List.append_nil _).symm
  · obtain ⟨rfl, _⟩ := Prod.mk.inj (pure_eq_ok.1 h)
    rfl

/-- What is committed is stored, or was. -/
theorem commitIngestion_stored {store store' : Store H} {bundle : Bundle H} {persisted : Persisted}
    (h : commitIngestion store bundle none = .ok (store', persisted)) :
    (∀ x ∈ store.observations, x ∈ store'.observations) ∧
      ∀ o ∈ bundle.observations, ∃ x ∈ store'.observations,
        x.observationHash = o.observationHash := by
  rw [commitIngestion_observations h]
  refine ⟨fun x hx ↦ List.mem_append_left _ hx, fun o ho ↦ ?_⟩
  by_cases hold : o.observationHash ∈ store.observations.map (·.observationHash)
  · obtain ⟨x, hx, hhash⟩ := List.mem_map.1 hold
    exact ⟨x, List.mem_append_left _ hx, hhash⟩
  · exact ⟨o, List.mem_append_right _ (List.mem_filter.2 ⟨ho, decide_eq_true hold⟩), rfl⟩

/-- Nothing becomes final, and nothing is exposed. -/
theorem Exposes.of_same (h : Exposes seen s) {seen' : List (Observation H)}
    (harrivals : arrivals seen' = arrivals seen) (heffects : s'.store.effects = s.store.effects)
    (hkeySet : s'.indexer.finalizedEventKeySet = s.indexer.finalizedEventKeySet)
    (hkeys : s'.indexer.finalizedEventKeys = s.indexer.finalizedEventKeys)
    (hstored : ∀ x ∈ s.store.observations, x ∈ s'.store.observations) : Exposes seen' s' := by
  constructor
  · rw [harrivals, heffects]
    exact h.effects
  · rw [harrivals, hkeySet]
    exact h.keySet
  · rw [hkeys, heffects]
    exact h.size
  · rw [heffects]
    exact h.counts
  · rw [harrivals]
    intro o ho
    obtain ⟨x, hx, hhash⟩ := h.stored o ho
    exact ⟨x, hstored x hx, hhash⟩

theorem Exposes.effect_keys (h : Exposes seen s) :
    s.store.effects.map (·.eventKey) = (arrivals seen).map (·.eventKey) := by
  have heffects := h.effects
  generalize s.store.effects = effects at heffects
  generalize arrivals seen = arrived at heffects
  induction heffects with
  | nil => rfl
  | cons hhead _ ih => rw [List.map_cons, List.map_cons, hhead.1, ih]

/-- **An observation that is applied** is exposed if it is the first finalized one of its event. -/
theorem Exposes.applied (htracks : Tracks prims descriptor seen s) (h : Exposes seen s)
    {o : Observation H} {invalidations : List (Observation H)} {projected : PoolEventIndexer H}
    {effect : Option (FinalizedEffect H × OutboxMessage H)} {head : Option (Head H)}
    {cursor : Cursor H} {store' : Store H} {persisted : Persisted}
    (hfresh : isDuplicate (s.indexer.latestByEventKey.get o.eventKey) o = false)
    (hadmission : admission prims s.indexer o = .ok invalidations)
    (hfinalize : finalize prims descriptor (setLatest s.indexer (invalidations ++ [o])) o
      = .ok (projected, effect))
    (hcommit : commitIngestion s.store ⟨invalidations ++ [o], effect, some cursor⟩ none
      = .ok (store', persisted)) :
    Exposes (seen ++ [o]) ⟨{ projected with head }, store'⟩ := by
  obtain ⟨hcurrent, _⟩ := admission_replaces htracks.keyed hfresh hadmission
  have hpending := htracks.get_eq_none hcurrent
  have hkey : o.eventKey ∉ s.indexer.finalizedEventKeySet := by
    rw [htracks.keySet]
    rintro ⟨x, hx⟩
    cases hpending.symm.trans hx
  have hself := (commitIngestion_stored hcommit).2 o
    (List.mem_append_right _ (List.mem_singleton_self o))
  have hkeySet := h.keySet
  by_cases hfinal : o.observationStatus = .finalized
  · -- the first finalized observation of its event
    have harrives : Arrives (arrivals seen) o := ⟨hfinal, fun hmem ↦ hkey ((hkeySet _).2 hmem)⟩
    have harrivals : arrivals (seen ++ [o]) = arrivals seen ++ [o] := by
      rw [arrivals_append_one, if_pos harrives]
    obtain ⟨exposed, message, rfl, hexposedKey, hexposedHash, hcount⟩ :=
      finalize_effect hfinalize ⟨hfinal, hkey⟩
    have heffects : store'.effects = s.store.effects ++ [exposed] := by
      have hnew : exposed.eventKey ∉ s.store.effects.map (·.eventKey) := by
        rw [h.effect_keys, hexposedKey]
        exact harrives.2
      rw [commitIngestion_effects hcommit, Option.toList_some,
        List.filter_cons_of_pos (by simpa using hnew), List.filter_nil, List.map_singleton]
    obtain ⟨rfl, _, hold⟩ | ⟨_, _, state, eventKeys, _, hrebuild, rfl⟩ := finalize_ok hfinalize
    · exact absurd ⟨hfinal, hkey⟩ hold
    have hsize : eventKeys.length = s.store.effects.length + 1 := by
      have hvalues := InsertionMap.values_set_of_get_eq_none o hpending
      rw [rebuildProjection_length hrebuild, ← h.size, rebuildProjection_length htracks.rebuilt]
      show (s.indexer.finalizedObservations.set o.eventKey o).values.length = _
      rw [hvalues, List.length_append, List.length_singleton]
    constructor
    · rw [harrivals]
      show List.Forall₂ _ store'.effects _
      rw [heffects]
      exact List.rel_append h.effects (.cons ⟨hexposedKey, hexposedHash⟩ .nil)
    · intro k
      show k ∈ s.indexer.finalizedEventKeySet ++ [o.eventKey] ↔ _
      rw [harrivals, List.map_append, List.mem_append, List.mem_append, hkeySet]
      rfl
    · show eventKeys.length = store'.effects.length
      rw [heffects, List.length_append, hsize, List.length_singleton]
    · show store'.effects.map _ = List.range' 1 store'.effects.length
      rw [heffects, List.map_append, h.counts, List.length_append, List.length_singleton,
        List.range'_1_concat, List.map_singleton, hcount, add_comm 1]
      show _ ++ [eventKeys.length] = _
      rw [hsize]
    · rw [harrivals]
      intro x hx
      rcases List.mem_append.1 hx with hx | hx
      · obtain ⟨y, hy, hhash⟩ := h.stored x hx
        exact ⟨y, (commitIngestion_stored hcommit).1 y hy, hhash⟩
      · rw [List.mem_singleton.1 hx]
        exact hself
  · have hnot : ¬ Arrives (arrivals seen) o := fun harrives ↦ hfinal harrives.1
    obtain ⟨rfl, rfl, _⟩ | ⟨hfinal', _⟩ := finalize_ok hfinalize
    · refine h.of_same (arrivals_append_of_not hnot) ?_ rfl rfl (commitIngestion_stored hcommit).1
      rw [commitIngestion_effects hcommit]
      exact List.append_nil _
    · exact absurd hfinal' hfinal

/-- **Every feed that is taken keeps the effects those of the arrivals.** -/
theorem Exposes.takes (hcf : CollisionFree prims) (htracks : Tracks prims descriptor seen s)
    (h : Exposes seen s) {feed : Feed} (htakes : Takes prims descriptor s feed s') :
    Exposes (seen ++ observed prims descriptor [feed]) s' := by
  cases feed with
  | block blockNumber blockHash observedAt =>
    have hnone : observed prims descriptor [.block blockNumber blockHash observedAt] = [] := rfl
    rw [hnone, List.append_nil]
    obtain ⟨r, hr⟩ := htakes
    rw [observeCanonicalBlock] at hr
    split at hr
    · cases hr
    · split at hr
      · obtain ⟨_, rfl⟩ := Prod.mk.inj hr
        exact h
      · dsimp only at hr
        split at hr
        · cases hr
        · rename_i hcommit
          obtain ⟨_, rfl⟩ := Prod.mk.inj hr
          refine h.of_same rfl ?_ rfl rfl (commitIngestion_stored hcommit).1
          rw [commitIngestion_effects hcommit]
          exact List.append_nil _
  | log log =>
    obtain ⟨o, hlog, hcases⟩ := htakes.log_cases
    have hone : observed prims descriptor [.log log] = [o] := by
      simp only [observed, List.filterMap_cons, hlog]
      rfl
    rw [hone]
    obtain ⟨hdup, rfl⟩ | ⟨invalidations, projected, effect, head, cursor, store', persisted, hfresh,
      hadmission, hfinalize, hcursor, hcommit, rfl⟩ := hcases
    · refine h.of_same (arrivals_append_of_not ?_) rfl rfl rfl fun x hx ↦ hx
      rintro ⟨hfinal, hnew⟩
      have hdelivered := htracks.duplicate hcf (normalizeLog_normalized hlog) hdup
      obtain ⟨x, hx, _⟩ := hdelivered.complete o
        (List.mem_append_right _ (List.mem_singleton_self o)) hfinal
      exact hnew ((h.keySet _).1 ((htracks.keySet _).2 ⟨x, hx⟩))
    · exact h.applied htracks hfresh hadmission hfinalize hcommit

theorem Exposes.accepts (hcf : CollisionFree prims) (htracks : Tracks prims descriptor seen s)
    (h : Exposes seen s) {feeds : List Feed} (haccepts : Accepts prims descriptor s feeds s') :
    Exposes (seen ++ observed prims descriptor feeds) s' := by
  induction feeds generalizing seen s with
  | nil =>
    obtain rfl : s' = s := haccepts
    rw [observed, List.filterMap_nil, List.append_nil]
    exact h
  | cons feed rest ih =>
    obtain ⟨s₁, htakes, hrest⟩ := haccepts
    have hobserved : observed prims descriptor (feed :: rest)
        = observed prims descriptor [feed] ++ observed prims descriptor rest :=
      List.filterMap_append (l := [feed])
    rw [hobserved, ← List.append_assoc]
    exact ih (htracks.takes hcf htakes) (h.takes hcf htracks htakes) hrest

/-- **The effects of a run are those of its arrivals.** -/
theorem Accepts.exposes (hcf : CollisionFree prims) {now : ℕ} {feeds : List Feed}
    (h : Accepts prims descriptor (.new prims descriptor now) feeds s) :
    Exposes (observed prims descriptor feeds) s := by
  have hexposes := (exposes_new now).accepts hcf (tracks_new now) h
  rw [List.nil_append] at hexposes
  exact hexposes

/-! ## Counts and places -/

/-- An effect and its observation, joined by the hash as the importer reads them. -/
structure Exposed (s : System H) (effect : FinalizedEffect H) (o : Observation H) : Prop where
  mem : effect ∈ s.store.effects
  stored : o ∈ s.store.observations
  joined : o.observationHash = effect.observationHash

/-- **Counts follow the chain**: of two effects the one that is earlier on the chain has the smaller
count. -/
def CountsInOrder (s : System H) : Prop :=
  ∀ f a g b, Exposed s f a → Exposed s g b → position a < position b →
    f.finalizedEventCount < g.finalizedEventCount

variable (prims descriptor) in
/-- **Events become final in the order of the chain.** -/
def ArrivesInOrder (feeds : List Feed) : Prop :=
  (arrivals (observed prims descriptor feeds)).Pairwise fun a b ↦ position a < position b

omit [LinearOrder H] in
/-- Two ways to order a list agree exactly if the list is sorted in both. -/
theorem agree_iff_pairwise {α P : Type*} [LinearOrder P] {count : α → ℕ} {place : α → P}
    {l : List α} (hcount : l.Pairwise fun p q ↦ count p < count q)
    (hplace : l.Pairwise fun p q ↦ place p ≠ place q) :
    (∀ p ∈ l, ∀ q ∈ l, place p < place q → count p < count q) ↔
      l.Pairwise fun p q ↦ place p < place q := by
  constructor
  · intro h
    refine (hcount.and hplace).imp_of_mem fun {p q} hp hq hpq ↦ ?_
    refine lt_of_le_of_ne (not_lt.1 fun hback ↦ ?_) hpq.2
    exact lt_asymm hpq.1 (h q hq p hp hback)
  · intro h
    have hforth : l.Pairwise fun p q ↦ place p < place q → count p < count q := by
      refine hcount.imp ?_
      intro p q hpq _
      exact hpq
    have hback : l.Pairwise (flip fun p q ↦ place p < place q → count p < count q) :=
      h.imp fun hpq hqp ↦ absurd hqp (lt_asymm hpq)
    have hself : ∀ p ∈ l, place p < place p → count p < count p :=
      fun p _ hpp ↦ absurd hpp (lt_irrefl _)
    intro p hp q hq
    exact hforth.forall_of_forall_of_flip hself hback hp hq

/-- The joined observation of an effect stands where the arrival does. -/
theorem Tracks.position_eq (hcf : CollisionFree prims) (htracks : Tracks prims descriptor seen s)
    {effect : FinalizedEffect H} {a o : Observation H} (ha : Exposed s effect a)
    (ho : o ∈ arrivals seen) (hhash : effect.observationHash = o.observationHash) :
    position a = position o := by
  have hnormal := htracks.normalized o (mem_of_mem_arrivals ho).1
  have hsame : a.observationHash = o.observationHash := ha.joined.trans hhash
  rcases htracks.stored a ha.stored with hinvalid | ⟨hseen, _⟩
  · exact absurd hsame (hcf.not_invalidation hnormal hinvalid)
  · have hcore := hcf.core_eq (htracks.normalized a hseen) hnormal hsame
    rw [position, position, hcore]

/-- **Counts follow the chain exactly if events become final in its order.** -/
theorem countsInOrder_iff (hcf : CollisionFree prims) {now : ℕ} {feeds : List Feed}
    (h : Accepts prims descriptor (.new prims descriptor now) feeds s) :
    CountsInOrder s ↔ ArrivesInOrder prims descriptor feeds := by
  have htracks := h.tracks hcf
  have hexposes := h.exposes hcf
  generalize hseen : observed prims descriptor feeds = seen at htracks hexposes
  rw [ArrivesInOrder, hseen]
  -- each effect beside the observation it is of
  obtain ⟨hlength, hjoined⟩ := List.forall₂_iff_zip.1 hexposes.effects
  have heffects : (s.store.effects.zip (arrivals seen)).map Prod.fst = s.store.effects :=
    List.map_fst_zip hlength.le
  have harrivals : (s.store.effects.zip (arrivals seen)).map Prod.snd = arrivals seen :=
    List.map_snd_zip hlength.ge
  have hcount : (s.store.effects.zip (arrivals seen)).Pairwise fun p q ↦
      p.1.finalizedEventCount < q.1.finalizedEventCount := by
    have hcounts : (s.store.effects.map (·.finalizedEventCount)).Pairwise (· < ·) := by
      rw [hexposes.counts]
      exact List.pairwise_lt_range'
    rw [List.pairwise_map, ← heffects, List.pairwise_map] at hcounts
    exact hcounts
  have hplace : (s.store.effects.zip (arrivals seen)).Pairwise fun p q ↦
      position p.2 ≠ position q.2 := by
    have hpositions := pairwise_arrivals_position seen
    rw [← harrivals, List.pairwise_map] at hpositions
    exact hpositions
  have hsorted : (arrivals seen).Pairwise (fun a b ↦ position a < position b) ↔
      (s.store.effects.zip (arrivals seen)).Pairwise fun p q ↦ position p.2 < position q.2 := by
    conv_lhs => rw [← harrivals, List.pairwise_map]
  rw [hsorted, ← agree_iff_pairwise hcount hplace]
  constructor
  · intro hcounts p hp q hq hlt
    have hexposed : ∀ r ∈ s.store.effects.zip (arrivals seen), ∃ x, Exposed s r.1 x ∧
        position x = position r.2 := by
      intro r hr
      obtain ⟨heffect, harrival⟩ := List.of_mem_zip hr
      obtain ⟨x, hx, hhash⟩ := hexposes.stored r.2 harrival
      have hr' := (hjoined hr).2
      have hx' : Exposed s r.1 x := ⟨heffect, hx, hhash.trans hr'.symm⟩
      exact ⟨x, hx', htracks.position_eq hcf hx' harrival hr'⟩
    obtain ⟨a, ha, haplace⟩ := hexposed p hp
    obtain ⟨b, hb, hbplace⟩ := hexposed q hq
    exact hcounts p.1 a q.1 b ha hb (by rwa [haplace, hbplace])
  · intro hagree f a g b ha hb hlt
    have hpaired : ∀ {e : FinalizedEffect H} {x : Observation H}, Exposed s e x →
        ∃ r ∈ s.store.effects.zip (arrivals seen), r.1 = e ∧ position x = position r.2 := by
      intro e x hx
      have hmem := hx.mem
      rw [← heffects] at hmem
      obtain ⟨r, hr, rfl⟩ := List.mem_map.1 hmem
      exact ⟨r, hr, rfl, htracks.position_eq hcf hx (List.of_mem_zip hr).2 (hjoined hr).2⟩
    obtain ⟨p, hp, rfl, hpplace⟩ := hpaired ha
    obtain ⟨q, hq, rfl, hqplace⟩ := hpaired hb
    exact hagree p hp q hq (by rwa [← hpplace, ← hqplace])

end Exposure

end Indexer
end IpoOne
