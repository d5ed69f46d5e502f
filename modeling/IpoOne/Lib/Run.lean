import Mathlib

/-!
# Runs of a deterministic system

A system takes a step for every input it is given.  `run step s inputs` is the state after a whole
list of inputs, `Along` says that a property holds in every state such a run passes through, the
first and the last included, and `Steps` that every step of it is taken under a condition on the
state before the step and the input.

`run_induct` is the invariant rule, and `along_iff_steps` the rule for a property that is no
invariant: if a condition decides at each step whether the property survives it, then it holds all
along a run exactly when every step of the run meets the condition.
-/

set_option autoImplicit false

namespace Run

variable {σ ι : Type*} (step : σ → ι → σ)

/-- The state after a list of inputs. -/
def run : σ → List ι → σ
  | s, [] => s
  | s, i :: rest => run (step s i) rest

/-- Some list of inputs leads from `s` to `t`. -/
def Reachable (s t : σ) : Prop := ∃ inputs, run step s inputs = t

/-- `P` holds in every state the run passes through. -/
def Along (P : σ → Prop) : σ → List ι → Prop
  | s, [] => P s
  | s, i :: rest => P s ∧ Along P (step s i) rest

/-- Every step of the run is taken under the condition `C`. -/
def Steps (C : σ → ι → Prop) : σ → List ι → Prop
  | _, [] => True
  | s, i :: rest => C s i ∧ Steps C (step s i) rest

instance decidableSteps (C : σ → ι → Prop) [∀ s i, Decidable (C s i)] :
    (s : σ) → (inputs : List ι) → Decidable (Steps step C s inputs)
  | _, [] => isTrue trivial
  | s, i :: rest =>
    have := decidableSteps C (step s i) rest
    inferInstanceAs (Decidable (_ ∧ _))

/-- What a quantity that each step adds comes to. -/
def total {M : Type*} [AddCommMonoid M] (added : σ → ι → M) : σ → List ι → M
  | _, [] => 0
  | s, i :: rest => added s i + total added (step s i) rest

variable {step}

theorem total_append {M : Type*} [AddCommMonoid M] (added : σ → ι → M) (s : σ) (xs ys : List ι) :
    total step added s (xs ++ ys) = total step added s xs + total step added (run step s xs)
      ys := by
  induction xs generalizing s with
  | nil => exact (zero_add _).symm
  | cons x xs ih =>
    rw [List.cons_append, total, ih, total, add_assoc]
    rfl

theorem run_append (s : σ) (xs ys : List ι) :
    run step s (xs ++ ys) = run step (run step s xs) ys := by
  induction xs generalizing s with
  | nil => rfl
  | cons x xs ih => exact ih (step s x)

theorem steps_append {C : σ → ι → Prop} (s : σ) (xs ys : List ι) :
    Steps step C s (xs ++ ys) ↔ Steps step C s xs ∧ Steps step C (run step s xs) ys := by
  induction xs generalizing s with
  | nil => exact ⟨fun h ↦ ⟨trivial, h⟩, fun h ↦ h.2⟩
  | cons x xs ih =>
    rw [List.cons_append, Steps, ih, Steps, and_assoc]
    rfl

theorem Steps.and {C D : σ → ι → Prop} {s : σ} {inputs : List ι} (hC : Steps step C s inputs)
    (hD : Steps step D s inputs) : Steps step (fun t i ↦ C t i ∧ D t i) s inputs := by
  induction inputs generalizing s with
  | nil => exact trivial
  | cons i rest ih => exact ⟨⟨hC.1, hD.1⟩, ih hC.2 hD.2⟩

/-- A condition on the steps of a run, as one on what comes before each of them. -/
theorem steps_iff_forall {C : σ → ι → Prop} (s : σ) (inputs : List ι) :
    Steps step C s inputs ↔
      ∀ past i future, inputs = past ++ i :: future → C (run step s past) i := by
  constructor
  · rintro h past i future rfl
    exact ((steps_append s past (i :: future)).1 h).2.1
  · induction inputs generalizing s with
    | nil => exact fun _ ↦ trivial
    | cons i rest ih =>
      intro h
      refine ⟨h [] i rest rfl, ih (step s i) fun past j future hrest ↦ ?_⟩
      exact h (i :: past) j future (by rw [hrest]; rfl)

/-- **The invariant rule for a property of the history.** -/
theorem history_induct {P : List ι → Prop} {C : σ → ι → Prop} {s : σ} (hnil : P [])
    (hstep : ∀ past i, P past → C (run step s past) i → P (past ++ [i])) :
    ∀ inputs, Steps step C s inputs → P inputs := by
  intro inputs
  induction inputs using List.reverseRecOn with
  | nil => exact fun _ ↦ hnil
  | append_singleton past i ih =>
    intro h
    rw [steps_append] at h
    exact hstep past i (ih h.1) h.2.1

theorem reachable_refl (s : σ) : Reachable step s s := ⟨[], rfl⟩

theorem reachable_step {s t : σ} (h : Reachable step s t) (i : ι) :
    Reachable step s (step t i) := by
  obtain ⟨inputs, rfl⟩ := h
  exact ⟨inputs ++ [i], run_append s inputs [i]⟩

/-- **The invariant rule.** -/
theorem run_induct {P : σ → Prop} (hstep : ∀ t i, P t → P (step t i)) {s : σ} (hs : P s) :
    ∀ inputs, P (run step s inputs) := by
  intro inputs
  induction inputs generalizing s with
  | nil => exact hs
  | cons i rest ih => exact ih (hstep s i hs)

theorem reachable_induct {P : σ → Prop} (hstep : ∀ t i, P t → P (step t i)) {s t : σ}
    (hs : P s) (h : Reachable step s t) : P t := by
  obtain ⟨inputs, rfl⟩ := h
  exact run_induct hstep hs inputs

/-- **The invariant rule under a condition.**  What a step keeps where `C` holds is kept all along a
run whose steps all meet `C`. -/
theorem along_of_steps {P : σ → Prop} {C : σ → ι → Prop}
    (hstep : ∀ t i, P t → C t i → P (step t i)) :
    ∀ (inputs : List ι) {s : σ}, P s → Steps step C s inputs → Along step P s inputs := by
  intro inputs
  induction inputs with
  | nil => exact fun hP _ ↦ hP
  | cons i rest ih => exact fun hP hsteps ↦ ⟨hP, ih (hstep _ i hP hsteps.1) hsteps.2⟩

theorem along_of_invariant {P : σ → Prop} (hstep : ∀ t i, P t → P (step t i)) :
    ∀ (inputs : List ι) {s : σ}, P s → Along step P s inputs := by
  intro inputs
  induction inputs with
  | nil => exact fun hP ↦ hP
  | cons i rest ih => exact fun hP ↦ ⟨hP, ih (hstep _ i hP)⟩

/-- A condition that an invariant gives holds at every step. -/
theorem steps_of_invariant {I : σ → Prop} {C : σ → ι → Prop} (hstep : ∀ t i, I t → I (step t i))
    (hC : ∀ t i, I t → C t i) : ∀ (inputs : List ι) {s : σ}, I s → Steps step C s inputs := by
  intro inputs
  induction inputs with
  | nil => exact fun _ ↦ trivial
  | cons i rest ih => exact fun hI ↦ ⟨hC _ i hI, ih (hstep _ i hI)⟩

/-- What every step taken under a condition from a state of an invariant meets. -/
theorem steps_of_steps {I : σ → Prop} {C D : σ → ι → Prop}
    (hI : ∀ t i, I t → C t i → I (step t i)) (hD : ∀ t i, I t → C t i → D t i) :
    ∀ (inputs : List ι) {s : σ}, I s → Steps step C s inputs → Steps step D s inputs := by
  intro inputs
  induction inputs with
  | nil => exact fun _ _ ↦ trivial
  | cons i rest ih => exact fun hs h ↦ ⟨hD _ i hs h.1, ih (hI _ i hs h.1) h.2⟩

theorem Along.mono {P Q : σ → Prop} (hPQ : ∀ t, P t → Q t) :
    ∀ {inputs : List ι} {s : σ}, Along step P s inputs → Along step Q s inputs := by
  intro inputs
  induction inputs with
  | nil => exact fun h ↦ hPQ _ h
  | cons i rest ih => exact fun h ↦ ⟨hPQ _ h.1, ih h.2⟩

/-- Two conditions on the steps of a run come to the same where they do for each step. -/
theorem steps_iff_steps {I : σ → Prop} {T C D : σ → ι → Prop}
    (hI : ∀ t i, I t → T t i → C t i → I (step t i))
    (hCD : ∀ t i, I t → T t i → (C t i ↔ D t i)) :
    ∀ (inputs : List ι) {s : σ}, I s → Steps step T s inputs →
      (Steps step C s inputs ↔ Steps step D s inputs) := by
  intro inputs
  induction inputs with
  | nil => exact fun _ _ ↦ Iff.rfl
  | cons i rest ih =>
    rintro s hs ⟨ht, hrest⟩
    refine (and_congr_right fun hc ↦ ih (hI s i hs ht hc) hrest).trans ?_
    exact and_congr_left fun _ ↦ hCD s i hs ht

/-- **The rule for a property that is no invariant.**  `I` is one; where it holds, `C` decides
whether a step keeps `P`. -/
theorem along_iff_steps {I P : σ → Prop} {C : σ → ι → Prop}
    (hI : ∀ t i, I t → I (step t i)) (hC : ∀ t i, I t → P t → (P (step t i) ↔ C t i)) :
    ∀ (inputs : List ι) {s : σ}, I s → P s → (Along step P s inputs ↔ Steps step C s inputs) := by
  intro inputs
  induction inputs with
  | nil => intro s _ hP; exact ⟨fun _ ↦ trivial, fun _ ↦ hP⟩
  | cons i rest ih =>
    intro s hIs hPs
    have hhead : ∀ {t}, Along step P t rest → P t := by
      intro t h
      cases rest with
      | nil => exact h
      | cons j rest => exact h.1
    constructor
    · rintro ⟨-, hrest⟩
      have hP' := hhead hrest
      exact ⟨(hC s i hIs hPs).1 hP', (ih (hI s i hIs) hP').1 hrest⟩
    · rintro ⟨hc, hrest⟩
      have hP' := (hC s i hIs hPs).2 hc
      exact ⟨hPs, (ih (hI s i hIs) hP').2 hrest⟩

end Run
