import IpoOne.Lib.Fallible

/-!
# Programs that throw and keep what they have written

An object whose methods change fields and throw is a program over the state of its fields: it
returns a value or an error, and in both cases the state it leaves.  Nothing is undone when it
throws, which is what makes it different from a fallible function of the state.

`Reads` says of a program that it writes nothing, and `Keeps view` that it writes nothing that
`view` sees.  There is one rule for each way of putting programs together.
-/

set_option autoImplicit false

/-- A program that returns an `α` or throws an `ε`, and leaves a state. -/
def Throwing (ε σ α : Type*) : Type _ := σ → Except ε α × σ

namespace Throwing

variable {ε σ τ α β : Type*}

/-- Go on with what was returned, in the state that was left. -/
def andThen (x : Throwing ε σ α) (f : α → Throwing ε σ β) : Throwing ε σ β := fun s ↦
  match x s with
  | (.ok a, s') => f a s'
  | (.error e, s') => (.error e, s')

instance : Monad (Throwing ε σ) where
  pure a s := (.ok a, s)
  bind := andThen

/-- The state as it is. -/
def get : Throwing ε σ σ := fun s ↦ (.ok s, s)

/-- Write. -/
def modify (f : σ → σ) : Throwing ε σ Unit := fun s ↦ (.ok (), f s)

/-- A computation that only reads what it is given. -/
def lift (x : Except ε α) : Throwing ε σ α := fun s ↦ (x, s)

/-- A program over a part of the state. -/
def zoom (view : σ → τ) (put : σ → τ → σ) (x : Throwing ε τ α) : Throwing ε σ α := fun s ↦
  ((x (view s)).1, put s (x (view s)).2)

/-- The outcome of a program that is caught when it throws. -/
def attempt (x : Throwing ε σ α) : Throwing ε σ (Except ε α) := fun s ↦ (.ok (x s).1, (x s).2)

@[simp] theorem pure_apply {α : Type _} (a : α) (s : σ) :
    (pure a : Throwing ε σ α) s = (.ok a, s) := rfl

@[simp] theorem get_apply (s : σ) : (get : Throwing ε σ σ) s = (.ok s, s) := rfl

@[simp] theorem modify_apply (f : σ → σ) (s : σ) :
    (modify f : Throwing ε σ Unit) s = (.ok (), f s) := rfl

@[simp] theorem lift_apply (x : Except ε α) (s : σ) : (lift x : Throwing ε σ α) s = (x, s) := rfl

@[simp] theorem zoom_apply (view : σ → τ) (put : σ → τ → σ) (x : Throwing ε τ α) (s : σ) :
    zoom view put x s = ((x (view s)).1, put s (x (view s)).2) := rfl

@[simp] theorem attempt_apply (x : Throwing ε σ α) (s : σ) :
    attempt x s = (.ok (x s).1, (x s).2) := rfl

theorem ite_apply (c : Prop) [Decidable c] (x y : Throwing ε σ α) (s : σ) :
    (if c then x else y) s = if c then x s else y s := by
  split <;> rfl

theorem bind_apply {α β : Type _} (x : Throwing ε σ α) (f : α → Throwing ε σ β) (s : σ) :
    (x >>= f) s = match x s with
      | (.ok a, s') => f a s'
      | (.error e, s') => (.error e, s') := rfl

@[simp] theorem bind_apply_ok {α β : Type _} {x : Throwing ε σ α} {f : α → Throwing ε σ β}
    {s s' : σ} {a : α} (h : x s = (.ok a, s')) : (x >>= f) s = f a s' := by
  rw [bind_apply, h]

@[simp] theorem bind_apply_error {α β : Type _} {x : Throwing ε σ α} {f : α → Throwing ε σ β}
    {s s' : σ} {e : ε} (h : x s = (.error e, s')) : (x >>= f) s = (.error e, s') := by
  rw [bind_apply, h]

theorem fst_bind_eq_ok {α β : Type _} {x : Throwing ε σ α} {f : α → Throwing ε σ β} {s : σ}
    {b : β} :
    ((x >>= f) s).1 = .ok b ↔ ∃ a s', x s = (.ok a, s') ∧ (f a s').1 = .ok b := by
  rw [bind_apply]
  rcases x s with ⟨_ | a, s'⟩ <;> simp

theorem fst_lift_bind_eq_ok {α β : Type _} {x : Except ε α} {f : α → Throwing ε σ β} {s : σ}
    {b : β} :
    ((lift x >>= f) s).1 = .ok b ↔ ∃ a, x = .ok a ∧ (f a s).1 = .ok b := by
  rw [bind_apply, lift_apply]
  rcases x with e | a <;> simp

/-- A program that returned, step by step. -/
theorem bind_eq_return {α β : Type _} {x : Throwing ε σ α} {f : α → Throwing ε σ β} {s t : σ}
    {b : β} :
    (x >>= f) s = (.ok b, t) ↔ ∃ a s', x s = (.ok a, s') ∧ f a s' = (.ok b, t) := by
  rw [bind_apply]
  rcases x s with ⟨_ | a, s'⟩ <;> simp

theorem lift_bind_eq_return {α β : Type _} {x : Except ε α} {f : α → Throwing ε σ β} {s t : σ}
    {b : β} : (lift x >>= f) s = (.ok b, t) ↔ ∃ a, x = .ok a ∧ f a s = (.ok b, t) := by
  rw [bind_apply, lift_apply]
  rcases x with e | a <;> simp

theorem get_bind_eq_return {β : Type _} {f : σ → Throwing ε σ β} {s t : σ} {b : β} :
    (get >>= f) s = (.ok b, t) ↔ f s s = (.ok b, t) := Iff.rfl

theorem fst_get_bind {β : Type _} {f : σ → Throwing ε σ β} {s : σ} :
    ((get >>= f) s).1 = (f s s).1 := rfl

/-! ## Programs that do not write -/

/-- A program that leaves the state as it is, however it ends. -/
def Reads (x : Throwing ε σ α) : Prop := ∀ s, (x s).2 = s

theorem reads_pure {α : Type _} (a : α) : Reads (pure a : Throwing ε σ α) := fun _ ↦ rfl

theorem reads_get : Reads (get : Throwing ε σ σ) := fun _ ↦ rfl

theorem reads_lift (x : Except ε α) : Reads (lift x : Throwing ε σ α) := fun _ ↦ rfl

/-- What does not write does not matter for the state that is left. -/
theorem left_bind {α β : Type _} {x : Throwing ε σ α} {f : α → Throwing ε σ β}
    (hf : ∀ a, Reads (f a)) (s : σ) : ((x >>= f) s).2 = (x s).2 := by
  rw [bind_apply]
  rcases x s with ⟨_ | a, s'⟩
  · rfl
  · exact hf a s'

theorem reads_bind {α β : Type _} {x : Throwing ε σ α} {f : α → Throwing ε σ β} (hx : Reads x)
    (hf : ∀ a, Reads (f a)) : Reads (x >>= f) := fun s ↦ (left_bind hf s).trans (hx s)

/-- A check leaves the state as it is, and then the program goes on. -/
theorem left_lift_bind {α β : Type _} (P : σ → Prop) {x : Except ε α}
    {f : α → Throwing ε σ β} {s : σ}
    (hs : P s) (hf : ∀ a, x = .ok a → P (f a s).2) : P ((lift x >>= f) s).2 := by
  rw [bind_apply, lift_apply]
  rcases x with e | a
  · exact hs
  · exact hf a rfl

/-- A program that writes, and then the program that goes on if it has returned. -/
theorem left_bind_cases {α β : Type _} (P : σ → Prop) {x : Throwing ε σ α} {f : α → Throwing ε σ β}
    {s : σ} (herror : ∀ e s', x s = (.error e, s') → P s')
    (hok : ∀ a s', x s = (.ok a, s') → P (f a s').2) : P ((x >>= f) s).2 := by
  rw [bind_apply]
  rcases hxs : x s with ⟨e | a, s'⟩
  · exact herror e s' hxs
  · exact hok a s' hxs

theorem left_get_bind {β : Type _} (P : σ → Prop) {f : σ → Throwing ε σ β} {s : σ}
    (hf : P (f s s).2) : P ((get >>= f) s).2 := hf

/-! ## Programs that keep a part of the state -/

/-- A program that leaves what `view` sees as it is, however it ends. -/
def Keeps {ν : Type*} (view : σ → ν) (x : Throwing ε σ α) : Prop := ∀ s, view (x s).2 = view s

section Keeps

variable {ν : Type*} {view : σ → ν}

theorem keeps_lift (x : Except ε α) : Keeps view (lift x : Throwing ε σ α) := fun _ ↦ rfl

theorem keeps_pure {α : Type _} (a : α) : Keeps view (pure a : Throwing ε σ α) := fun _ ↦ rfl

theorem keeps_get : Keeps view (get : Throwing ε σ σ) := fun _ ↦ rfl

theorem keeps_modify {f : σ → σ} (h : ∀ s, view (f s) = view s) :
    Keeps view (modify f : Throwing ε σ Unit) := h

theorem keeps_bind {α β : Type _} {x : Throwing ε σ α} {f : α → Throwing ε σ β}
    (hx : Keeps view x) (hf : ∀ a, Keeps view (f a)) : Keeps view (x >>= f) := by
  intro s
  have hleft := hx s
  rw [bind_apply]
  rcases hxs : x s with ⟨_ | a, s'⟩
  · rw [hxs] at hleft
    exact hleft
  · rw [hxs] at hleft
    exact (hf a s').trans hleft

theorem keeps_attempt {x : Throwing ε σ α} (hx : Keeps view x) : Keeps view (attempt x) := hx

end Keeps

end Throwing
