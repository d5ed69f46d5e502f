import IpoOne.Credit.PoolLedger
import IpoOne.Indexer.Atomicity
import IpoOne.Indexer.Exposure

/-!
# Importing effects in source order

The importer takes an effect only if its count is larger than that of the last effect it took.  The
counts are given out by the indexer as events become final, so the importer takes the effects of a
position in the order of the chain if the events became final in that order, and
`effects_in_source_order_iff` says that they have to.
-/

set_option autoImplicit false

namespace IpoOne
namespace Credit

open Indexer Fallible

section Imports

variable {H : Type} [DecidableEq H] {hashId : CreditPreimage H → H}
  {binding : PoolObligationBinding H} {b b' : BoundObligation H} {source : EffectSource H}

/-- The check of `createPoolObligationEffectPlan` on the count of an effect. -/
def InSourceOrder (b : BoundObligation H) (source : EffectSource H) : Prop :=
  source.effect.finalizedEventCount ≤ maxSafeInteger ∧
    b.projection.sourceFinalizedEventCount < source.effect.finalizedEventCount

/-- An effect that is imported is in source order, and its count is the one the next effects are
held against. -/
theorem importFinalizedEffect_count (h : importFinalizedEffect hashId binding b source = .ok b') :
    InSourceOrder b source ∧
      b'.projection.sourceFinalizedEventCount = source.effect.finalizedEventCount := by
  simp only [importFinalizedEffect, createPoolObligationEffectPlan, bind_eq_ok, pure_eq_ok,
    throwIf_eq_ok, not_or, not_lt, not_le] at h
  obtain ⟨_, ⟨_, _, _, _, _, _, _, horder, _, _, account, _, _, _, _, _, _, _, _, _, rfl⟩, rfl⟩ := h
  exact ⟨horder, rfl⟩

/-- Effects whose counts grow pass the check one after the other, whatever else is checked. -/
theorem steps_inSourceOrder {sources : List (EffectSource H)}
    (hgrow : sources.Pairwise fun x y ↦
      x.effect.finalizedEventCount < y.effect.finalizedEventCount)
    (hsafe : ∀ source ∈ sources, source.effect.finalizedEventCount ≤ maxSafeInteger)
    (hstart : ∀ source ∈ sources,
      b.projection.sourceFinalizedEventCount < source.effect.finalizedEventCount) :
    Run.Steps (importStep hashId binding) InSourceOrder b sources := by
  induction sources generalizing b with
  | nil => trivial
  | cons source rest ih =>
    obtain ⟨hlater, hgrow⟩ := List.pairwise_cons.1 hgrow
    obtain ⟨hsafe, hsafe'⟩ := List.forall_mem_cons.1 hsafe
    obtain ⟨hstart, hstart'⟩ := List.forall_mem_cons.1 hstart
    refine ⟨⟨hsafe, hstart⟩, ih hgrow hsafe' fun next hnext ↦ ?_⟩
    rw [importStep]
    split
    · rename_i taken htaken
      rw [(importFinalizedEffect_count htaken).2]
      exact hlater next hnext
    · exact hstart' next hnext

end Imports

section Runs

variable {H : Type} [LinearOrder H] {prims : Primitives H} {descriptor : Descriptor} {s : System H}

/-- **Effects are exposed in source order**: the counts follow the chain, and an importer that
starts with a new binding takes effects in the order of the chain without ever finding one out of
order. -/
structure ExposedInOrder (s : System H) : Prop where
  counts : CountsInOrder s
  imports : ∀ (hashId : CreditPreimage H → H) (binding : PoolObligationBinding H)
    (b : BoundObligation H) (sources : List (EffectSource H)),
    b.projection.sourceFinalizedEventCount = 0 →
    (∀ source ∈ sources, Exposed s source.effect source.observation) →
    (sources.Pairwise fun x y ↦ position x.observation < position y.observation) →
    Run.Steps (importStep hashId binding) InSourceOrder b sources

/-- Counts are given out from one on. -/
theorem Exposes.count_mem {seen : List (Observation H)} (h : Exposes seen s)
    {effect : FinalizedEffect H} (hmem : effect ∈ s.store.effects) :
    0 < effect.finalizedEventCount ∧ effect.finalizedEventCount ≤ s.store.effects.length := by
  have hcount : effect.finalizedEventCount ∈ List.range' 1 s.store.effects.length := by
    rw [← h.counts]
    exact List.mem_map_of_mem hmem
  rw [List.mem_range'_1] at hcount
  omega

/-- **When effects are exposed in source order.**  Whatever logs and blocks are taken, in whatever
order, the effects are exposed in source order exactly if the events became final in the order of
the chain. -/
theorem effects_in_source_order_iff (hcf : CollisionFree prims) {now : ℕ} {feeds : List Feed}
    (h : Accepts prims descriptor (.new prims descriptor now) feeds s)
    (hsafe : s.store.effects.length ≤ maxSafeInteger) :
    ExposedInOrder s ↔ ArrivesInOrder prims descriptor feeds := by
  have hexposes := h.exposes hcf
  constructor
  · exact fun hexposed ↦ (countsInOrder_iff hcf h).1 hexposed.counts
  · intro harrives
    have hcounts := (countsInOrder_iff hcf h).2 harrives
    refine ⟨hcounts, fun hashId binding b sources hzero hexposed hsorted ↦ ?_⟩
    have hcount := fun source hsource ↦ Exposes.count_mem hexposes (hexposed source hsource).mem
    refine steps_inSourceOrder ?_ (fun source hsource ↦ ?_) fun source hsource ↦ ?_
    · refine hsorted.imp_of_mem fun {x y} hx hy hlt ↦ ?_
      exact hcounts _ _ _ _ (hexposed x hx) (hexposed y hy) hlt
    · exact (hcount source hsource).2.trans hsafe
    · rw [hzero]
      exact (hcount source hsource).1

end Runs

/-! ## Two runs -/

section Pauses

variable {H : Type} [LinearOrder H] (prims : Primitives H) (descriptor : Descriptor)

/-- A finalized event of the pause guardian. -/
def IsPause (o : Observation H) : Prop :=
  o.observationStatus = .finalized ∧
    (o.event = .newRiskPauseChanged true 20 ∨ o.event = .newRiskPauseChanged false 20)

instance (o : Observation H) : Decidable (IsPause o) :=
  inferInstanceAs (Decidable (_ ∧ _))

omit [LinearOrder H] in
theorem IsPause.foldlM {os : List (Observation H)} (h : ∀ o ∈ os, IsPause o)
    (state : ProjectionState) : ∃ r, os.foldlM applyFinalizedEvent state = .ok r := by
  induction os generalizing state with
  | nil => exact ⟨state, rfl⟩
  | cons o os ih =>
    obtain ⟨⟨hfinal, hevent⟩, hos⟩ := List.forall_mem_cons.1 h
    have happly : ∃ paused, applyFinalizedEvent state o
        = .ok { state with newRiskPaused := paused } := by
      rw [applyFinalizedEvent, throwIf, failIf, if_neg (not_not.2 hfinal)]
      rcases hevent with hevent | hevent
      · rw [hevent]
        exact ⟨true, rfl⟩
      · rw [hevent]
        exact ⟨false, rfl⟩
    obtain ⟨paused, happly⟩ := happly
    rw [List.foldlM_cons, happly]
    exact ih hos _

/-- What is left to check of a log if all events are the pause guardian's, which project in any
order. -/
def pauseTaken (ix : PoolEventIndexer H) (log : RawLog) : Bool :=
  (normalizeLog prims descriptor log).toOption.any fun o ↦
    isDuplicate (ix.latestByEventKey.get o.eventKey) o = false ∧
      (admission prims ix o).isOk = true ∧
      (cursorFor prims descriptor ix.head o).isOk = true ∧
      ∀ x ∈ (ix.finalizedObservations.set o.eventKey o).values, IsPause x

theorem takes_of_pauseTaken {s : System H} {log : RawLog}
    (h : pauseTaken prims descriptor s.indexer log = true) :
    ∃ s', Takes prims descriptor s (.log log) s' := by
  rw [pauseTaken, Option.any_eq_true] at h
  obtain ⟨o, ho, h⟩ := h
  obtain ⟨hnew, hadmission, hcursor, hpauses⟩ := of_decide_eq_true h
  have hrebuilds : Rebuilds descriptor s.indexer o := by
    intro _
    obtain ⟨state, hstate⟩ := IsPause.foldlM (fun x hx ↦
      hpauses x ((InsertionMap.sortedBy_perm _ position).mem_iff.1 hx)) (initialState descriptor)
    exact ⟨_, bind_eq_ok.2 ⟨state, hstate, rfl⟩⟩
  have hwindow := cursorFor_isOk_iff.1 (isOk_iff.1 hcursor)
  obtain ⟨_, ⟨⟨bundle, hbundle⟩, _⟩ | ⟨_, hunsafe⟩⟩ :=
    applyObservation_admitted prims descriptor hnew (isOk_iff.1 hadmission)
  · obtain ⟨⟨store, persisted⟩, hcommitted⟩ := commitIngestion_none s.store bundle
    have hingest := ingest_applied prims descriptor none (toOption_eq_some.1 ho) hbundle
    rw [hcommitted] at hingest
    exact ⟨_, _, hingest⟩
  · exact absurd ⟨hrebuilds, hwindow⟩ hunsafe

end Pauses

namespace Sample

/-- The end of the guardian's pause. -/
def resumeLog : RawLog := Indexer.Sample.rawLog 11 4 ⟨5, .newRiskPauseChanged false 20, 1010⟩

/-- The guardian's pause and its end, in the order of the chain. -/
def inOrder : List Feed := [.log Indexer.Sample.pauseLog, .log resumeLog]

/-- The end of the guardian's pause is delivered, final, before the pause itself is. -/
def late : List Feed := [.log resumeLog, .log Indexer.Sample.pauseLog]

/-- A new indexer takes two logs of the guardian. -/
theorem accepts_pauses (first second : RawLog)
    (hfirst : (ingest Indexer.Sample.prims Indexer.Sample.descriptor
      (.new Indexer.Sample.prims Indexer.Sample.descriptor 0) first none).1.isOk = true)
    (hsecond : pauseTaken Indexer.Sample.prims Indexer.Sample.descriptor
      (ingest Indexer.Sample.prims Indexer.Sample.descriptor
        (.new Indexer.Sample.prims Indexer.Sample.descriptor 0) first none).2.indexer
      second = true) :
    ∃ s : System (List ℕ), Accepts Indexer.Sample.prims Indexer.Sample.descriptor
      (.new Indexer.Sample.prims Indexer.Sample.descriptor 0) [.log first, .log second] s := by
  obtain ⟨r, hr⟩ := isOk_iff.1 hfirst
  obtain ⟨s, hs⟩ := takes_of_pauseTaken _ _ hsecond
  exact ⟨s, _, ⟨r, Prod.ext hr rfl⟩, s, hs, rfl⟩

end Sample

/-- The pause and its end become final in order, and their effects can be imported in order. -/
theorem effects_in_source_order_pauses :
    ∃ s : System (List ℕ), Accepts Indexer.Sample.prims Indexer.Sample.descriptor
        (.new Indexer.Sample.prims Indexer.Sample.descriptor 0) Sample.inOrder s ∧
      s.store.effects.length = 2 ∧ ExposedInOrder s := by
  obtain ⟨s, hs⟩ := Sample.accepts_pauses Indexer.Sample.pauseLog Sample.resumeLog
    (by decide +kernel) (by decide +kernel)
  have htwo : s.store.effects.length = 2 := by
    have harrivals : (arrivals (observed Indexer.Sample.prims Indexer.Sample.descriptor
        Sample.inOrder)).length = 2 := by decide +kernel
    rw [(hs.exposes Indexer.Sample.collisionFree).effects.length_eq]
    exact harrivals
  have hsafe : s.store.effects.length ≤ maxSafeInteger := by
    rw [htwo]
    decide
  have harrives : ArrivesInOrder Indexer.Sample.prims Indexer.Sample.descriptor
      Sample.inOrder := by
    rw [ArrivesInOrder]
    decide +kernel
  exact ⟨s, hs, htwo, (effects_in_source_order_iff Indexer.Sample.collisionFree hs hsafe).2
    harrives⟩

/-- Both logs are taken, and the pause has the larger count although it is earlier on the chain. -/
theorem late_pause_out_of_order :
    ∃ s : System (List ℕ), Accepts Indexer.Sample.prims Indexer.Sample.descriptor
        (.new Indexer.Sample.prims Indexer.Sample.descriptor 0) Sample.late s ∧
      ¬ CountsInOrder s ∧ ¬ ExposedInOrder s := by
  obtain ⟨s, hs⟩ := Sample.accepts_pauses Sample.resumeLog Indexer.Sample.pauseLog
    (by decide +kernel) (by decide +kernel)
  have hlate : ¬ ArrivesInOrder Indexer.Sample.prims Indexer.Sample.descriptor Sample.late := by
    rw [ArrivesInOrder]
    decide +kernel
  have hcounts : ¬ CountsInOrder s := fun hcounts ↦
    hlate ((countsInOrder_iff Indexer.Sample.collisionFree hs).1 hcounts)
  exact ⟨s, hs, hcounts, fun hexposed ↦ hcounts hexposed.counts⟩

end Credit
end IpoOne
