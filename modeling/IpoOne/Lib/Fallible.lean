import Mathlib

/-!
# Computations that may fail

The two lemmas that invert a successful `do` block in `Except`: tagged `simp`, they turn
`f x = .ok y` into the values that were computed on the way.  `failIf` is the guard clause, and
`mapM_eq_ok` the same inversion for a computation over a list.

`ErrorsIn P x` says of a computation that it can only fail with an error in `P`; it has a rule for
each way of putting computations together.
-/

set_option autoImplicit false

namespace Fallible

variable {ε α β : Type*}

/-- Stop with `e` if `c`. -/
def failIf (c : Prop) [Decidable c] (e : ε) : Except ε Unit :=
  if c then .error e else .ok ()

@[simp] theorem bind_eq_ok {α β : Type _} {x : Except ε α} {f : α → Except ε β} {b : β} :
    (x >>= f) = .ok b ↔ ∃ a, x = .ok a ∧ f a = .ok b := by
  rcases x with e | a <;> simp [bind, Except.bind]

theorem bind_of_ok {α β : Type _} {x : Except ε α} {a : α} (h : x = .ok a) {f : α → Except ε β} :
    (x >>= f) = f a := by
  rw [h]
  rfl

theorem bind_of_error {α β : Type _} {x : Except ε α} {e : ε} (h : x = .error e)
    {f : α → Except ε β} : (x >>= f) = .error e := by
  rw [h]
  rfl

@[simp] theorem pure_eq_ok {a b : α} : (pure a : Except ε α) = .ok b ↔ a = b := by
  simp [pure, Except.pure]

@[simp] theorem failIf_eq_ok {c : Prop} [Decidable c] {e : ε} {u : Unit} :
    failIf c e = .ok u ↔ ¬ c := by
  unfold failIf
  split <;> simp_all

/-- A list of computations succeeds exactly if each of them does. -/
theorem mapM_eq_ok {α β : Type _} {f : α → Except ε β} {xs : List α} {ys : List β} :
    xs.mapM f = .ok ys ↔ List.Forall₂ (fun x y ↦ f x = .ok y) xs ys := by
  induction xs generalizing ys with
  | nil =>
    rw [List.mapM_nil, pure_eq_ok, List.forall₂_nil_left_iff, eq_comm]
  | cons x xs ih =>
    simp only [List.mapM_cons, bind_eq_ok, pure_eq_ok, ih, List.forall₂_cons_left_iff]
    constructor
    · rintro ⟨y, hy, ys, hys, rfl⟩
      exact ⟨y, ys, hy, hys, rfl⟩
    · rintro ⟨y, ys, hy, hys, rfl⟩
      exact ⟨y, hy, ys, hys, rfl⟩

/-- A computation succeeds if each of its two parts does. -/
theorem exists_bind_eq_ok {α β : Type _} {x : Except ε α} {f : α → Except ε β}
    (hx : ∃ a, x = .ok a) (hf : ∀ a, x = .ok a → ∃ b, f a = .ok b) : ∃ b, (x >>= f) = .ok b := by
  obtain ⟨a, rfl⟩ := hx
  exact hf a rfl

theorem exists_mapM_eq_ok {α β : Type _} {f : α → Except ε β} {xs : List α}
    (h : ∀ x ∈ xs, ∃ y, f x = .ok y) : ∃ ys, xs.mapM f = .ok ys := by
  induction xs with
  | nil => exact ⟨[], rfl⟩
  | cons x xs ih =>
    obtain ⟨hx, hxs⟩ := List.forall_mem_cons.1 h
    obtain ⟨y, hy⟩ := hx
    obtain ⟨ys, hys⟩ := ih hxs
    exact ⟨y :: ys, by rw [List.mapM_cons, bind_of_ok hy, bind_of_ok hys]; rfl⟩

theorem exists_of_mem_mapM {α β : Type _} {f : α → Except ε β} {xs : List α} {ys : List β}
    (h : xs.mapM f = .ok ys) {y : β} (hy : y ∈ ys) : ∃ x ∈ xs, f x = .ok y := by
  rw [mapM_eq_ok] at h
  induction h with
  | nil => cases hy
  | @cons x y' xs ys hx _ ih =>
    rcases List.mem_cons.1 hy with rfl | hy
    · exact ⟨x, List.mem_cons_self .., hx⟩
    · obtain ⟨x', hx', hf⟩ := ih hy
      exact ⟨x', List.mem_cons_of_mem _ hx', hf⟩

theorem isOk_iff {x : Except ε α} : x.isOk = true ↔ ∃ a, x = .ok a := by
  cases x <;> simp [Except.isOk, Except.toBool]

theorem toOption_eq_some {x : Except ε α} {a : α} : x.toOption = some a ↔ x = .ok a := by
  cases x <;> simp [Except.toOption]

/-- A computation that succeeds, by the value that it comes to. -/
theorem eq_ok_getD {x : Except ε α} {default : α} (h : x.isOk = true) :
    x = .ok (x.toOption.getD default) := by
  obtain ⟨a, rfl⟩ := isOk_iff.1 h
  rfl

/-! ## The errors of a computation -/

/-- `x` can only fail with an error that satisfies `P`. -/
def ErrorsIn (P : ε → Prop) (x : Except ε α) : Prop := ∀ e, x = .error e → P e

section ErrorsIn

variable {P : ε → Prop}

theorem errorsIn_pure (a : α) : ErrorsIn P (pure a : Except ε α) := fun _ h ↦ nomatch h

theorem errorsIn_error {e : ε} (h : P e) : ErrorsIn P (.error e : Except ε α) := by
  intro e' he
  rwa [← Except.error.inj he]

theorem errorsIn_ok (a : α) : ErrorsIn P (.ok a : Except ε α) := fun _ h ↦ nomatch h

theorem errorsIn_map {x : Except ε α} (hx : ErrorsIn P x) (f : α → β) : ErrorsIn P (x.map f) := by
  rcases x with e | a
  · exact errorsIn_error (hx e rfl)
  · exact errorsIn_ok _

theorem errorsIn_failIf {c : Prop} [Decidable c] {e : ε} (h : P e) : ErrorsIn P (failIf c e) := by
  intro e' he
  rw [failIf] at he
  split at he
  · rwa [← Except.error.inj he]
  · cases he

theorem errorsIn_bind {α β : Type _} {x : Except ε α} {f : α → Except ε β} (hx : ErrorsIn P x)
    (hf : ∀ a, x = .ok a → ErrorsIn P (f a)) : ErrorsIn P (x >>= f) := by
  intro e he
  rcases x with e' | a
  · exact hx e (congrArg Except.error (Except.error.inj he))
  · exact hf a rfl e he

theorem errorsIn_mapM {α β : Type _} {f : α → Except ε β} {xs : List α}
    (h : ∀ x ∈ xs, ErrorsIn P (f x)) : ErrorsIn P (xs.mapM f) := by
  induction xs with
  | nil => exact errorsIn_pure _
  | cons x xs ih =>
    obtain ⟨hx, hxs⟩ := List.forall_mem_cons.1 h
    rw [List.mapM_cons]
    exact errorsIn_bind hx fun _ _ ↦ errorsIn_bind (ih hxs) fun _ _ ↦ errorsIn_pure _

theorem errorsIn_forM {α : Type _} {f : α → Except ε PUnit} {xs : List α}
    (h : ∀ x ∈ xs, ErrorsIn P (f x)) : ErrorsIn P (xs.forM f) := by
  induction xs with
  | nil => exact errorsIn_pure _
  | cons x xs ih =>
    obtain ⟨hx, hxs⟩ := List.forall_mem_cons.1 h
    exact errorsIn_bind hx fun _ _ ↦ ih hxs

end ErrorsIn

end Fallible
