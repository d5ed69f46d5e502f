import Mathlib

/-!
# Logs whose entries replace earlier ones

A log is only appended to.  An entry that replaces an earlier one is recorded with the change it
makes, the difference of the two values; an entry that replaces nothing is recorded with its value.
In a log that is `Valid` an entry is replaced at most once, and by an entry with the same key.

`sum_change_eq_sum_latest` is the point: over any set of keys, what the changes come to is what the
entries that nothing replaces come to.
-/

set_option autoImplicit false

namespace Amendments

/-- An entry of a log. -/
structure Entry (ι κ : Type*) where
  id : ι
  replaces : Option ι
  key : κ
  value : ℤ

variable {ι κ : Type*} [DecidableEq ι]

/-- What an entry adds to the entries before it. -/
inductive Appends (log : List (Entry ι κ)) (e : Entry ι κ) : Prop where
  | new (hnone : e.replaces = none)
  | replaced {old : Entry ι κ} (hmem : old ∈ log) (hsome : e.replaces = some old.id)
      (hfree : ∀ x ∈ log, x.replaces ≠ some old.id) (hkey : e.key = old.key)

/-- A log in which no identifier is used twice and no entry is replaced twice. -/
inductive Valid : List (Entry ι κ) → Prop where
  | nil : Valid []
  | append {log : List (Entry ι κ)} {e : Entry ι κ} (hlog : Valid log)
      (hunused : ∀ x ∈ log, x.id ≠ e.id) (happends : Appends log e) : Valid (log ++ [e])

/-- Nothing in the log replaces the entry. -/
def IsLatest (log : List (Entry ι κ)) (e : Entry ι κ) : Prop :=
  ∀ x ∈ log, x.replaces ≠ some e.id

instance (log : List (Entry ι κ)) : DecidablePred (IsLatest log) := fun e ↦
  inferInstanceAs (Decidable (∀ x ∈ log, x.replaces ≠ some e.id))

/-- The value of the entry with an identifier. -/
def valueOf (log : List (Entry ι κ)) (id : ι) : ℤ :=
  ((log.find? (·.id = id)).map (·.value)).getD 0

/-- What the entry adds to the sum of the values. -/
def change (log : List (Entry ι κ)) (e : Entry ι κ) : ℤ :=
  match e.replaces with
  | none => e.value
  | some id => e.value - valueOf log id

section Valid

variable {log : List (Entry ι κ)} {e : Entry ι κ}

omit [DecidableEq ι] in
theorem Valid.nodup (h : Valid log) : (log.map (·.id)).Nodup := by
  induction h with
  | nil => exact List.nodup_nil
  | @append log e _ hunused _ ih =>
    rw [List.map_append, List.nodup_append]
    refine ⟨ih, List.nodup_singleton _, ?_⟩
    intro a ha b hb
    obtain ⟨x, hx, rfl⟩ := List.mem_map.1 ha
    rw [List.mem_singleton.1 hb]
    exact hunused x hx

omit [DecidableEq ι] in
/-- What is replaced is in the log. -/
theorem Valid.replaced_mem (h : Valid log) (he : e ∈ log) {id : ι} (hid : e.replaces = some id) :
    ∃ old ∈ log, old.id = id := by
  induction h with
  | nil => cases he
  | @append log e' _ _ happends ih =>
    rcases List.mem_append.1 he with he | he
    · obtain ⟨old, hold, hold'⟩ := ih he
      exact ⟨old, List.mem_append_left _ hold, hold'⟩
    · obtain rfl := List.mem_singleton.1 he
      cases happends with
      | new hnone => rw [hnone] at hid; cases hid
      | @replaced old hmem hsome =>
        rw [hsome] at hid
        exact ⟨old, List.mem_append_left _ hmem, Option.some.inj hid⟩

/-- The first entry with a value of `f` is the only one. -/
theorem find?_of_nodup_map {α β : Type*} [DecidableEq β] {f : α → β} {xs : List α} {x : α}
    (h : (xs.map f).Nodup) (hx : x ∈ xs) : xs.find? (fun y ↦ f y = f x) = some x := by
  rcases hfound : xs.find? (fun y ↦ f y = f x) with _ | y
  · have hnone := List.find?_eq_none.1 hfound x hx
    rw [decide_eq_true_eq] at hnone
    exact absurd rfl hnone
  · have hy := List.find?_some hfound
    rw [decide_eq_true_eq] at hy
    rw [List.inj_on_of_nodup_map h (List.mem_of_find?_eq_some hfound) hx hy]

theorem valueOf_eq (h : Valid log) (he : e ∈ log) : valueOf log e.id = e.value := by
  rw [valueOf, find?_of_nodup_map (f := Entry.id) h.nodup he]
  rfl

theorem valueOf_append {old : Entry ι κ} (h : Valid log) (hold : old ∈ log) (e : Entry ι κ) :
    valueOf (log ++ [e]) old.id = valueOf log old.id := by
  rw [valueOf, valueOf, List.find?_append, find?_of_nodup_map (f := Entry.id) h.nodup hold]
  rfl

/-- The change of an entry is what it was when it was appended. -/
theorem change_append (h : Valid log) {x : Entry ι κ} (hx : x ∈ log) (e : Entry ι κ) :
    change (log ++ [e]) x = change log x := by
  rw [change, change]
  rcases hreplaces : x.replaces with _ | id
  · rfl
  · obtain ⟨old, hold, rfl⟩ := h.replaced_mem hx hreplaces
    exact congrArg (x.value - ·) (valueOf_append h hold e)

end Valid

/-! ## Sums -/

/-- What `f` comes to over the entries of the log whose key is in `p`. -/
def sumOver (p : κ → Prop) [DecidablePred p] (f : Entry ι κ → ℤ) (log : List (Entry ι κ)) : ℤ :=
  (log.map fun e ↦ if p e.key then f e else 0).sum

section Sum

variable {log : List (Entry ι κ)} {p : κ → Prop} [DecidablePred p]

omit [DecidableEq ι] in
theorem sumOver_append (f : Entry ι κ → ℤ) (xs ys : List (Entry ι κ)) :
    sumOver p f (xs ++ ys) = sumOver p f xs + sumOver p f ys := by
  rw [sumOver, List.map_append, List.sum_append, sumOver, sumOver]

omit [DecidableEq ι] in
theorem sumOver_congr {f g : Entry ι κ → ℤ} (h : ∀ e ∈ log, f e = g e) :
    sumOver p f log = sumOver p g log := by
  rw [sumOver, sumOver, List.map_congr_left fun e he ↦ by rw [h e he]]

omit [DecidableEq ι] in
theorem sumOver_sub (f g : Entry ι κ → ℤ) :
    sumOver p (fun e ↦ f e - g e) log = sumOver p f log - sumOver p g log := by
  induction log with
  | nil => rfl
  | cons e rest ih =>
    simp only [sumOver, List.map_cons, List.sum_cons] at ih ⊢
    rw [ih]
    split <;> abel

omit [DecidableEq ι] in
theorem sumOver_singleton (f : Entry ι κ → ℤ) (e : Entry ι κ) :
    sumOver p f [e] = if p e.key then f e else 0 := by
  rw [sumOver, List.map_singleton, List.sum_singleton]

/-- The value of an entry that nothing replaces, and nothing of one that is replaced. -/
def latestValue (log : List (Entry ι κ)) (e : Entry ι κ) : ℤ :=
  if IsLatest log e then e.value else 0

/-- A new entry that replaces nothing leaves the others as they are. -/
theorem latestValue_append_of_none {e x : Entry ι κ} (hnone : e.replaces = none) :
    latestValue (log ++ [e]) x = latestValue log x := by
  have hiff : IsLatest (log ++ [e]) x ↔ IsLatest log x := by
    simp only [IsLatest, List.forall_mem_append, List.forall_mem_singleton, hnone]
    exact and_iff_left nofun
  rw [latestValue, latestValue, if_congr hiff rfl rfl]

/-- What an entry takes out of the sum when it is replaced. -/
theorem sumOver_latestValue_replaced {e old : Entry ι κ} (h : Valid log) (hold : old ∈ log)
    (hsome : e.replaces = some old.id) (hfree : ∀ x ∈ log, x.replaces ≠ some old.id) :
    sumOver p (latestValue (log ++ [e])) log =
      sumOver p (latestValue log) log - if p old.key then old.value else 0 := by
  have hvalue : ∀ x ∈ log, latestValue (log ++ [e]) x =
      latestValue log x - if x.id = old.id then old.value else 0 := by
    intro x hx
    by_cases hid : x.id = old.id
    · obtain rfl := List.inj_on_of_nodup_map h.nodup hx hold hid
      have hlatest : IsLatest log x := hfree
      have hnot : ¬ IsLatest (log ++ [e]) x := fun hall ↦
        hall e (List.mem_append_right _ (List.mem_singleton_self e)) hsome
      rw [latestValue, if_neg hnot, latestValue, if_pos hlatest, if_pos rfl, sub_self]
    · have hiff : IsLatest (log ++ [e]) x ↔ IsLatest log x := by
        simp only [IsLatest, List.forall_mem_append, List.forall_mem_singleton, hsome]
        exact and_iff_left fun heq ↦ hid (Option.some.inj heq).symm
      rw [latestValue, latestValue, if_congr hiff rfl rfl, if_neg hid, sub_zero]
  have hsingle : sumOver p (fun x ↦ if x.id = old.id then old.value else 0) log =
      if p old.key then old.value else 0 := by
    clear hvalue hfree hsome
    have hnodup := h.nodup
    clear h
    induction log with
    | nil => cases hold
    | cons x rest ih =>
      rw [List.map_cons, List.nodup_cons] at hnodup
      rw [sumOver, List.map_cons, List.sum_cons]
      by_cases hid : x.id = old.id
      · -- no other entry has the identifier
        have hx : x = old := by
          rcases List.mem_cons.1 hold with rfl | hmem
          · rfl
          · exact absurd (hid ▸ List.mem_map_of_mem hmem) hnodup.1
        have hrest : (rest.map fun y ↦ if p y.key then if y.id = old.id then old.value else 0
            else 0).sum = 0 := by
          refine List.sum_eq_zero fun z hz ↦ ?_
          obtain ⟨y, hy, rfl⟩ := List.mem_map.1 hz
          have hne : y.id ≠ old.id := fun heq ↦
            hnodup.1 (hid.trans heq.symm ▸ List.mem_map_of_mem hy)
          rw [if_neg hne, ite_self]
        rw [hrest, add_zero, if_pos hid, hx]
      · have hmem : old ∈ rest := by
          rcases List.mem_cons.1 hold with rfl | hmem
          · exact absurd rfl hid
          · exact hmem
        rw [if_neg hid, ite_self, zero_add]
        exact ih hmem hnodup.2
  rw [sumOver_congr hvalue, sumOver_sub, hsingle]

/-- **What the changes come to is what the entries that nothing replaces come to.** -/
theorem sum_change_eq_sum_latest (h : Valid log) :
    sumOver p (change log) log = sumOver p (latestValue log) log := by
  induction h with
  | nil => rfl
  | @append log e hlog hunused happends ih =>
    have hold : sumOver p (change (log ++ [e])) log = sumOver p (change log) log :=
      sumOver_congr fun x hx ↦ change_append hlog hx e
    -- what is replaced was there before, so nothing replaces the new entry
    have hself : IsLatest (log ++ [e]) e := by
      intro x hx heq
      obtain ⟨old, hmem, hid⟩ := (Valid.append hlog hunused happends).replaced_mem hx heq
      rcases List.mem_append.1 hmem with hmem | hmem
      · exact hunused old hmem hid
      · obtain rfl := List.mem_singleton.1 hmem
        rcases List.mem_append.1 hx with hx | hx
        · obtain ⟨old', hmem', hid'⟩ := hlog.replaced_mem hx heq
          exact hunused old' hmem' hid'
        · rw [List.mem_singleton.1 hx] at heq
          cases happends with
          | new hnone => rw [hnone] at heq; cases heq
          | @replaced old hold hsome =>
            rw [hsome] at heq
            exact hunused old hold (Option.some.inj heq)
    rw [sumOver_append, sumOver_append, hold, ih, sumOver_singleton, sumOver_singleton, latestValue,
      if_pos hself]
    cases happends with
    | new hnone =>
      rw [sumOver_congr fun x _ ↦ latestValue_append_of_none hnone, change, hnone]
    | @replaced old hmem hsome hfree hkey =>
      rw [sumOver_latestValue_replaced hlog hmem hsome hfree, change, hsome]
      simp only [valueOf_append hlog hmem e, valueOf_eq hlog hmem, hkey]
      split <;> abel

/-- Where no value is negative, the value of an entry that nothing replaces is part of the sum. -/
theorem value_le_sumOver_latest {e : Entry ι κ} (hvalues : ∀ x ∈ log, 0 ≤ x.value) (he : e ∈ log)
    (hlatest : IsLatest log e) (hp : p e.key) : e.value ≤ sumOver p (latestValue log) log := by
  refine List.single_le_sum ?_ _ (List.mem_map.2
    ⟨e, he, by rw [if_pos hp, latestValue, if_pos hlatest]⟩)
  intro value hvalue
  obtain ⟨x, hx, rfl⟩ := List.mem_map.1 hvalue
  rw [latestValue]
  have hnonneg := hvalues x hx
  split
  · split
    · exact hnonneg
    · exact le_refl 0
  · exact le_refl 0

end Sum

/-! ## Sums over the values of a function of the key -/

/-- The sum over the keys that occur is the sum over all entries. -/
theorem sum_fiber {α β : Type*} [DecidableEq β] (g : α → β) (f : α → ℤ) (xs : List α) :
    ∑ b ∈ (xs.map g).toFinset, (xs.map fun x ↦ if g x = b then f x else 0).sum
      = (xs.map f).sum := by
  have hgeneral : ∀ (s : Finset β) (ys : List α), (∀ y ∈ ys, g y ∈ s) →
      ∑ b ∈ s, (ys.map fun x ↦ if g x = b then f x else 0).sum = (ys.map f).sum := by
    intro s ys hys
    induction ys with
    | nil => simp
    | cons y ys ih =>
      obtain ⟨hy, hys⟩ := List.forall_mem_cons.1 hys
      simp only [List.map_cons, List.sum_cons, Finset.sum_add_distrib, ih hys]
      rw [Finset.sum_ite_eq, if_pos hy]
  refine hgeneral _ xs fun x hx ↦ ?_
  rw [List.mem_toFinset]
  exact List.mem_map_of_mem hx

end Amendments
