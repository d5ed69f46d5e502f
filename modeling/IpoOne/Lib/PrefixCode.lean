import Mathlib

/-!
# Codes that can be told apart

A `PrefixCode` writes values as lists of symbols such that a value can be read off the front of a
list, whatever follows it.  Such codes compose: the code of a pair is one code after the other, and
that of a list is its length followed by its elements.  So a structure is coded by coding its fields
one after the other (`Coded.of`), and every code is injective.

The symbols of `Coded` are natural numbers.
-/

set_option autoImplicit false

/-- A code whose words can be told apart even when something follows them. -/
structure PrefixCode (σ α : Type*) where
  encode : α → List σ
  cancel : ∀ {a b : α} {s t : List σ}, encode a ++ s = encode b ++ t → a = b ∧ s = t

namespace PrefixCode

variable {σ α β : Type*}

theorem injective (c : PrefixCode σ α) : Function.Injective c.encode := by
  intro a b h
  have happend : c.encode a ++ [] = c.encode b ++ [] := by rw [h]
  exact (c.cancel happend).1

/-- A symbol for itself. -/
def symbol : PrefixCode σ σ where
  encode a := [a]
  cancel h := List.cons.inj h

/-- Code a value by the code of what determines it. -/
def comap (c : PrefixCode σ β) (f : α → β) (hf : Function.Injective f) : PrefixCode σ α where
  encode a := c.encode (f a)
  cancel h := ⟨hf (c.cancel h).1, (c.cancel h).2⟩

/-- Two codes one after the other. -/
def prod (c : PrefixCode σ α) (d : PrefixCode σ β) : PrefixCode σ (α × β) where
  encode p := c.encode p.1 ++ d.encode p.2
  cancel := by
    rintro ⟨a, b⟩ ⟨a', b'⟩ s t h
    rw [List.append_assoc, List.append_assoc] at h
    obtain ⟨rfl, hrest⟩ := c.cancel h
    obtain ⟨rfl, hst⟩ := d.cancel hrest
    exact ⟨rfl, hst⟩

/-- As many values as were announced can be read off the front. -/
theorem cancel_flatMap (c : PrefixCode σ α) {xs ys : List α} (hlen : xs.length = ys.length)
    {s t : List σ} (h : xs.flatMap c.encode ++ s = ys.flatMap c.encode ++ t) :
    xs = ys ∧ s = t := by
  induction xs generalizing ys with
  | nil =>
    rw [List.length_nil, eq_comm, List.length_eq_zero_iff] at hlen
    subst hlen
    exact ⟨rfl, h⟩
  | cons x xs ih =>
    obtain _ | ⟨y, ys⟩ := ys
    · cases hlen
    · rw [List.flatMap_cons, List.flatMap_cons, List.append_assoc, List.append_assoc] at h
      obtain ⟨rfl, hrest⟩ := c.cancel h
      obtain ⟨rfl, hst⟩ := ih (Nat.succ.inj hlen) hrest
      exact ⟨rfl, hst⟩

/-- A list as its length and its elements. -/
def list (n : PrefixCode σ ℕ) (c : PrefixCode σ α) : PrefixCode σ (List α) where
  encode xs := n.encode xs.length ++ xs.flatMap c.encode
  cancel := by
    intro xs ys s t h
    rw [List.append_assoc, List.append_assoc] at h
    obtain ⟨hlen, hrest⟩ := n.cancel h
    exact c.cancel_flatMap hlen hrest

end PrefixCode

/-- A type with a code over the natural numbers. -/
class Coded (α : Type*) where
  code : PrefixCode ℕ α

namespace Coded

variable {α β : Type*}

/-- A type whose values are determined by something coded. -/
@[reducible] def of [Coded β] (f : α → β) (hf : Function.Injective f) : Coded α := ⟨code.comap f hf⟩

instance : Coded ℕ := ⟨.symbol⟩

instance {n : ℕ} : Coded (Fin n) := .of Fin.val Fin.val_injective

instance : Coded Bool := .of Bool.toNat fun a b h ↦ by
  cases a <;> cases b <;> first | rfl | cases h

instance [Coded α] [Coded β] : Coded (α × β) := ⟨code.prod code⟩

instance [Coded α] : Coded (List α) := ⟨code.list code⟩

instance [Coded α] : Coded (Option α) :=
  .of Option.toList fun a b h ↦ by
    cases a <;> cases b <;> simp_all

instance : Coded String := .of (fun text ↦ text.toList.map Char.toNat) fun a b h ↦ by
  have hinjective : Function.Injective Char.toNat := fun c d hcd ↦ Char.toNat_inj.1 hcd
  exact String.toList_inj.1 (List.map_injective_iff.2 hinjective h)

instance : Coded ℤ := .of (fun n : ℤ ↦ (n.natAbs, decide (n < 0))) fun a b h ↦ by
  obtain ⟨habs, hneg⟩ := Prod.mk.inj h
  rw [decide_eq_decide] at hneg
  omega

/-- The word of a value. -/
def encode [Coded α] (a : α) : List ℕ := code.encode a

theorem encode_injective [Coded α] : Function.Injective (encode : α → List ℕ) := code.injective

end Coded
