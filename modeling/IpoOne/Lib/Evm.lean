import IpoOne.Lib.Fallible
import IpoOne.Lib.Rounding
import Mathlib

/-!
# Transactions that may revert

A contract call either returns or reverts, and a revert undoes everything the call did, so a call
is a function into `Tx ε α = Except (Revert ε) α` with the state passed along explicitly.  Integers
are the contract's `uint256`: natural numbers below `2 ^ 256`, with the compiler's checks on
addition, subtraction and multiplication and the library's full-precision `mulDiv` and its
rounded-up variant.  A failed check is a `Panic`, kept apart by its cause so that "this subtraction
never underflows" is something a theorem can say.

Two kinds of lemmas make up the interface.  The `…_eq_ok` lemmas invert a successful call: tagged
`simp`, they turn `f w = .ok w'` into the guards that were passed and the values that were
computed.  `Avoids p x` says that `x` does not panic with `p`, and `Avoids.bind` composes it;
`OnlyOverflows x` says that nothing else can go wrong with `x` than an overflow.

`Token` is a standard ERC-20 seen from one spender: exact transfers, no callbacks.
-/

set_option autoImplicit false

namespace Evm

open Fallible

/-- Why the compiler's or the library's arithmetic gave up. -/
inductive Panic where
  | underflow
  | overflow
  | divisionByZero
  deriving DecidableEq, Repr

/-- A revert: a panic, an error the contract declares, or a refusal of a called token. -/
inductive Revert (ε : Type) where
  | panic (p : Panic)
  | custom (e : ε)
  | tokenRefused
  | callFailed
  deriving DecidableEq, Repr

/-- A call that returns an `α` or reverts. -/
abbrev Tx (ε α : Type) : Type := Except (Revert ε) α

/-- One more than the largest `uint256`. -/
def wordModulus : ℕ := 2 ^ 256

variable {ε α β : Type}

/-- `if (c) revert e();` -/
def revertIf (c : Prop) [Decidable c] (e : ε) : Tx ε Unit := failIf c (.custom e)

/-- Checked `a + b`. -/
def add (a b : ℕ) : Tx ε ℕ :=
  if a + b < wordModulus then .ok (a + b) else .error (.panic .overflow)

/-- Checked `a - b`. -/
def sub (a b : ℕ) : Tx ε ℕ :=
  if b ≤ a then .ok (a - b) else .error (.panic .underflow)

/-- Checked `a * b`. -/
def mul (a b : ℕ) : Tx ε ℕ :=
  if a * b < wordModulus then .ok (a * b) else .error (.panic .overflow)

/-- `Math.mulDiv(x, y, denominator)`: the full-precision product, divided and rounded down. -/
def mulDiv (x y denominator : ℕ) : Tx ε ℕ :=
  if denominator = 0 then .error (.panic .divisionByZero)
  else if x * y / denominator < wordModulus then .ok (x * y / denominator)
  else .error (.panic .overflow)

/-- `Math.mulDiv(x, y, denominator, Math.Rounding.Ceil)`. -/
def mulDivUp (x y denominator : ℕ) : Tx ε ℕ := do
  let floor ← mulDiv x y denominator
  add floor (if x * y % denominator = 0 then 0 else 1)

/-! ## Inverting a successful call -/

@[simp] theorem revertIf_eq_ok {c : Prop} [Decidable c] {e : ε} {u : Unit} :
    revertIf c e = .ok u ↔ ¬ c :=
  failIf_eq_ok

@[simp] theorem add_eq_ok {a b c : ℕ} :
    (add a b : Tx ε ℕ) = .ok c ↔ a + b < wordModulus ∧ c = a + b := by
  unfold add
  split <;> simp_all [eq_comm]

@[simp] theorem sub_eq_ok {a b c : ℕ} : (sub a b : Tx ε ℕ) = .ok c ↔ b ≤ a ∧ c = a - b := by
  unfold sub
  split <;> simp_all [eq_comm]

@[simp] theorem mul_eq_ok {a b c : ℕ} :
    (mul a b : Tx ε ℕ) = .ok c ↔ a * b < wordModulus ∧ c = a * b := by
  unfold mul
  split <;> simp_all [eq_comm]

@[simp] theorem mulDiv_eq_ok {x y d c : ℕ} : (mulDiv x y d : Tx ε ℕ) = .ok c ↔
    0 < d ∧ x * y / d < wordModulus ∧ c = x * y / d := by
  unfold mulDiv
  split
  · simp_all
  · split <;> simp_all [eq_comm, Nat.pos_iff_ne_zero]

@[simp] theorem mulDivUp_eq_ok {x y d c : ℕ} : (mulDivUp x y d : Tx ε ℕ) = .ok c ↔
    0 < d ∧ Rounding.quoteUp x y d < wordModulus ∧ c = Rounding.quoteUp x y d := by
  unfold mulDivUp
  rw [bind_eq_ok]
  constructor
  · rintro ⟨q, hq, hc⟩
    obtain ⟨hd, -, rfl⟩ := mulDiv_eq_ok.1 hq
    rw [add_eq_ok, ← Rounding.quoteUp_eq x y hd] at hc
    exact ⟨hd, hc⟩
  · rintro ⟨hd, hlt, rfl⟩
    have heq := Rounding.quoteUp_eq x y hd
    refine ⟨x * y / d, mulDiv_eq_ok.2 ⟨hd, by omega, rfl⟩, ?_⟩
    rw [add_eq_ok, ← heq]
    exact ⟨hlt, rfl⟩

/-! ## Calls that do not panic for a given cause -/

/-- The call does not panic with `p`. -/
def Avoids (p : Panic) (x : Tx ε α) : Prop := x ≠ .error (.panic p)

theorem Avoids.bind {p : Panic} {x : Tx ε α} {f : α → Tx ε β} (hx : Avoids p x)
    (hf : ∀ a, x = .ok a → Avoids p (f a)) : Avoids p (x >>= f) := by
  cases x with
  | error e =>
    intro h
    have he : (Except.error e : Tx ε β) = .error (.panic p) := h
    cases he
    exact hx rfl
  | ok a => exact hf a rfl

theorem avoids_ok (p : Panic) (a : α) : Avoids p (.ok a : Tx ε α) := by
  simp [Avoids]

theorem avoids_revertIf (p : Panic) (c : Prop) [Decidable c] (e : ε) :
    Avoids p (revertIf c e) := by
  unfold Avoids revertIf failIf
  split <;> simp

theorem avoids_add (a b : ℕ) : Avoids .underflow (add a b : Tx ε ℕ) := by
  unfold Avoids add
  split <;> simp

theorem avoids_mul (a b : ℕ) : Avoids .underflow (mul a b : Tx ε ℕ) := by
  unfold Avoids mul
  split <;> simp

theorem avoids_sub {a b : ℕ} (h : b ≤ a) : Avoids .underflow (sub a b : Tx ε ℕ) := by
  simp [Avoids, sub, h]

theorem avoids_mulDiv (x y d : ℕ) : Avoids .underflow (mulDiv x y d : Tx ε ℕ) := by
  unfold Avoids mulDiv
  split
  · simp
  · split <;> simp

theorem avoids_mulDivUp (x y d : ℕ) : Avoids .underflow (mulDivUp x y d : Tx ε ℕ) :=
  (avoids_mulDiv x y d).bind fun _ _ ↦ avoids_add _ _

/-! ## Calls that only overflow -/

/-- The call fails, if it does, by an overflow. -/
def OnlyOverflows (x : Tx ε α) : Prop := ErrorsIn (· = .panic .overflow) x

theorem OnlyOverflows.bind {x : Tx ε α} {f : α → Tx ε β} (hx : OnlyOverflows x)
    (hf : ∀ a, x = .ok a → OnlyOverflows (f a)) : OnlyOverflows (x >>= f) :=
  errorsIn_bind hx hf

theorem onlyOverflows_ok (a : α) : OnlyOverflows (.ok a : Tx ε α) := errorsIn_ok a

theorem onlyOverflows_add (a b : ℕ) : OnlyOverflows (add a b : Tx ε ℕ) := by
  unfold add
  split
  · exact errorsIn_ok _
  · exact errorsIn_error rfl

theorem onlyOverflows_mul (a b : ℕ) : OnlyOverflows (mul a b : Tx ε ℕ) := by
  unfold mul
  split
  · exact errorsIn_ok _
  · exact errorsIn_error rfl

theorem onlyOverflows_sub {a b : ℕ} (h : b ≤ a) : OnlyOverflows (sub a b : Tx ε ℕ) := by
  rw [sub, if_pos h]
  exact errorsIn_ok _

theorem onlyOverflows_mulDiv {d : ℕ} (hd : 0 < d) (x y : ℕ) :
    OnlyOverflows (mulDiv x y d : Tx ε ℕ) := by
  rw [mulDiv, if_neg hd.ne']
  split
  · exact errorsIn_ok _
  · exact errorsIn_error rfl

theorem onlyOverflows_mulDivUp {d : ℕ} (hd : 0 < d) (x y : ℕ) :
    OnlyOverflows (mulDivUp x y d : Tx ε ℕ) :=
  (onlyOverflows_mulDiv hd x y).bind fun _ _ ↦ onlyOverflows_add _ _

/-! ## Exact-transfer tokens -/

/-- An ERC-20 token as one spender sees it: everybody's balance, and what everybody allows the
spender to take. -/
structure Token (A : Type) where
  /-- Balances. -/
  balanceOf : A → ℕ
  /-- Allowances towards the spender. -/
  allowance : A → ℕ

variable {A : Type} [DecidableEq A]

/-- Move `amount` from one balance to another. -/
def Token.move (t : Token A) (source target : A) (amount : ℕ) : A → ℕ :=
  let debited := Function.update t.balanceOf source (t.balanceOf source - amount)
  Function.update debited target (debited target + amount)

/-- `safeTransferFrom(source, target, amount)`, called by the spender. -/
def Token.transferFrom (t : Token A) (source target : A) (amount : ℕ) : Tx ε (Token A) :=
  if amount ≤ t.balanceOf source ∧ amount ≤ t.allowance source then
    .ok { balanceOf := t.move source target amount
          allowance := Function.update t.allowance source (t.allowance source - amount) }
  else .error .tokenRefused

/-- `safeTransfer(target, amount)`, called by the spender, whose balance is `spender`'s. -/
def Token.transfer (t : Token A) (spender target : A) (amount : ℕ) : Tx ε (Token A) :=
  if amount ≤ t.balanceOf spender then
    .ok { t with balanceOf := t.move spender target amount }
  else .error .tokenRefused

end Evm
