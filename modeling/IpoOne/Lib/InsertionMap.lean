import Mathlib

/-!
# Maps in insertion order

A finite map that remembers the order in which its keys were first set, as the maps and the
string-keyed objects of JavaScript do: setting a key that is present changes its value in place, and
setting a new one appends it.  The entries never hold a key twice, which is a field of the
structure, so that `values` lists every key's value exactly once.

Two maps with equal lookups may still differ in their order; `values_perm` says that this is all
they may differ in, so that sorting makes them equal (`map_sortedBy_eq`).
-/

set_option autoImplicit false

/-- A map that lists its entries in the order in which their keys were first set. -/
structure InsertionMap (K V : Type*) where
  /-- The entries, oldest key first. -/
  entries : List (K × V)
  /-- No key is there twice. -/
  nodup : (entries.map Prod.fst).Nodup

namespace InsertionMap

variable {K V W : Type*}

@[ext] theorem ext {m m' : InsertionMap K V} (h : m.entries = m'.entries) : m = m' := by
  cases m
  cases m'
  cases h
  rfl

instance [DecidableEq K] [DecidableEq V] : DecidableEq (InsertionMap K V) := fun m m' ↦
  decidable_of_iff (m.entries = m'.entries) ⟨ext, fun h ↦ h ▸ rfl⟩

/-- The map without entries. -/
def empty : InsertionMap K V := ⟨[], List.nodup_nil⟩

/-- The keys, oldest first. -/
def keys (m : InsertionMap K V) : List K := m.entries.map Prod.fst

/-- The values, in the order of their keys. -/
def values (m : InsertionMap K V) : List V := m.entries.map Prod.snd

variable [DecidableEq K]

/-- Set a key in a list of entries: in place if it is there, at the end if it is not. -/
def setIn (k : K) (v : V) : List (K × V) → List (K × V)
  | [] => [(k, v)]
  | e :: rest => if e.1 = k then (k, v) :: rest else e :: setIn k v rest

/-- The value of a key in a list of entries. -/
def getIn (k : K) : List (K × V) → Option V
  | [] => none
  | e :: rest => if e.1 = k then some e.2 else getIn k rest

theorem mem_keys_setIn (k k' : K) (v : V) (es : List (K × V)) :
    k' ∈ (setIn k v es).map Prod.fst ↔ k' = k ∨ k' ∈ es.map Prod.fst := by
  induction es with
  | nil => simp [setIn]
  | cons e rest ih =>
    by_cases h : e.1 = k
    · rw [setIn, if_pos h]
      simp [h]
    · rw [setIn, if_neg h, List.map_cons, List.mem_cons, ih, List.map_cons, List.mem_cons]
      tauto

theorem nodup_setIn (k : K) (v : V) {es : List (K × V)} (h : (es.map Prod.fst).Nodup) :
    ((setIn k v es).map Prod.fst).Nodup := by
  induction es with
  | nil => simp [setIn]
  | cons e rest ih =>
    rw [List.map_cons, List.nodup_cons] at h
    by_cases he : e.1 = k
    · rw [setIn, if_pos he, List.map_cons, List.nodup_cons]
      exact ⟨he ▸ h.1, h.2⟩
    · rw [setIn, if_neg he, List.map_cons, List.nodup_cons, mem_keys_setIn]
      refine ⟨?_, ih h.2⟩
      rintro (hk | hk)
      · exact he hk
      · exact h.1 hk

theorem getIn_setIn (k k' : K) (v : V) (es : List (K × V)) :
    getIn k' (setIn k v es) = if k' = k then some v else getIn k' es := by
  induction es with
  | nil => simp [setIn, getIn, eq_comm]
  | cons e rest ih =>
    by_cases h : e.1 = k
    · by_cases h' : k' = k
      · simp [setIn, getIn, h, h']
      · simp [setIn, getIn, h, h', Ne.symm h']
    · by_cases h' : e.1 = k'
      · have hne : k' ≠ k := fun hk ↦ h (h'.trans hk)
        simp [setIn, getIn, h', hne]
      · rw [setIn, if_neg h, getIn, if_neg h', ih, getIn, if_neg h']

/-- `map.set(key, value)` -/
def set (m : InsertionMap K V) (k : K) (v : V) : InsertionMap K V :=
  ⟨setIn k v m.entries, nodup_setIn k v m.nodup⟩

/-- `map.get(key)` -/
def get (m : InsertionMap K V) (k : K) : Option V := getIn k m.entries

@[simp] theorem get_empty (k : K) : (empty : InsertionMap K V).get k = none := rfl

theorem get_set (m : InsertionMap K V) (k k' : K) (v : V) :
    (m.set k v).get k' = if k' = k then some v else m.get k' :=
  getIn_setIn k k' v m.entries

@[simp] theorem get_set_self (m : InsertionMap K V) (k : K) (v : V) :
    (m.set k v).get k = some v := by
  rw [get_set, if_pos rfl]

theorem get_set_of_ne (m : InsertionMap K V) {k k' : K} (v : V) (hne : k' ≠ k) :
    (m.set k v).get k' = m.get k' := by
  rw [get_set, if_neg hne]

theorem setIn_of_getIn_eq_none {k : K} (v : V) {es : List (K × V)} (h : getIn k es = none) :
    setIn k v es = es ++ [(k, v)] := by
  induction es with
  | nil => rfl
  | cons e rest ih =>
    rw [getIn] at h
    split at h
    · cases h
    · rename_i hne
      rw [setIn, if_neg hne, ih h, List.cons_append]

/-- A new key is set at the end. -/
theorem values_set_of_get_eq_none {m : InsertionMap K V} {k : K} (v : V) (h : m.get k = none) :
    (m.set k v).values = m.values ++ [v] := by
  have hentries : (m.set k v).entries = m.entries ++ [(k, v)] := setIn_of_getIn_eq_none v h
  rw [values, hentries, List.map_append]
  rfl

/-- What `f` does not see in the old value of a key nor in the new one, it does not see at all. -/
theorem filterMap_values_set {m : InsertionMap K V} {k : K} {v : V} {f : V → Option W}
    (hold : ∀ w, m.get k = some w → f w = none) (hv : f v = none) :
    (m.set k v).values.filterMap f = m.values.filterMap f := by
  obtain ⟨es, hes⟩ := m
  simp only [get, values, set] at hold ⊢
  clear hes
  induction es with
  | nil => simp [setIn, hv]
  | cons e rest ih =>
    rw [getIn] at hold
    rw [setIn]
    by_cases he : e.1 = k
    · rw [if_pos he] at hold
      rw [if_pos he, List.map_cons, List.map_cons, List.filterMap_cons, List.filterMap_cons, hv,
        hold e.2 rfl]
    · rw [if_neg he] at hold
      rw [if_neg he, List.map_cons, List.map_cons, List.filterMap_cons, List.filterMap_cons,
        ih hold]

/-- Where `f` sees the same in the old value of a key and in the new one, it sees no change. -/
theorem filterMap_values_set_same {m : InsertionMap K V} {k : K} {old v : V} {f : V → Option W}
    (hold : m.get k = some old) (hv : f v = f old) :
    (m.set k v).values.filterMap f = m.values.filterMap f := by
  obtain ⟨es, hes⟩ := m
  simp only [get, values, set] at hold ⊢
  clear hes
  induction es with
  | nil => cases hold
  | cons e rest ih =>
    rw [getIn] at hold
    rw [setIn]
    by_cases he : e.1 = k
    · rw [if_pos he] at hold
      rw [if_pos he, List.map_cons, List.map_cons, List.filterMap_cons, List.filterMap_cons, hv,
        ← Option.some.inj hold]
    · rw [if_neg he] at hold
      rw [if_neg he, List.map_cons, List.map_cons, List.filterMap_cons, List.filterMap_cons,
        ih hold]

/-- The entries are the graph of the lookup. -/
theorem mem_entries_iff (m : InsertionMap K V) (k : K) (v : V) :
    (k, v) ∈ m.entries ↔ m.get k = some v := by
  obtain ⟨es, hes⟩ := m
  rw [get]
  induction es with
  | nil => simp [getIn]
  | cons e rest ih =>
    rw [List.map_cons, List.nodup_cons] at hes
    by_cases h : e.1 = k
    · rw [getIn, if_pos h, Option.some.injEq, List.mem_cons]
      constructor
      · rintro (rfl | hmem)
        · rfl
        · exact absurd (List.mem_map_of_mem hmem) (h ▸ hes.1)
      · rintro rfl
        exact .inl (by rw [← h])
    · rw [getIn, if_neg h, List.mem_cons, ← ih hes.2]
      constructor
      · rintro (rfl | hmem)
        · exact absurd rfl h
        · exact hmem
      · exact .inr

theorem mem_values_iff (m : InsertionMap K V) (v : V) :
    v ∈ m.values ↔ ∃ k, m.get k = some v := by
  rw [values, List.mem_map]
  constructor
  · rintro ⟨⟨k, v'⟩, hmem, rfl⟩
    exact ⟨k, (m.mem_entries_iff k v').1 hmem⟩
  · rintro ⟨k, hk⟩
    exact ⟨(k, v), (m.mem_entries_iff k v).2 hk, rfl⟩

/-- **Maps whose lookups agree up to `f` list the same values up to `f`, in some order.** -/
theorem values_perm {m m' : InsertionMap K V} {f : V → W}
    (h : ∀ k, (m.get k).map f = (m'.get k).map f) :
    (m.values.map f).Perm (m'.values.map f) := by
  have hmem : ∀ (n : InsertionMap K V) (k : K) (x : W),
      (k, x) ∈ n.entries.map (fun e ↦ (e.1, f e.2)) ↔ (n.get k).map f = some x := by
    intro n k x
    rw [List.mem_map, Option.map_eq_some_iff]
    constructor
    · rintro ⟨⟨k', v⟩, he, hx⟩
      obtain ⟨rfl, rfl⟩ := Prod.mk.inj hx
      exact ⟨v, (n.mem_entries_iff k' v).1 he, rfl⟩
    · rintro ⟨v, hv, rfl⟩
      exact ⟨(k, v), (n.mem_entries_iff k v).2 hv, rfl⟩
  have hnodup : ∀ n : InsertionMap K V, (n.entries.map (fun e ↦ (e.1, f e.2))).Nodup := by
    intro n
    refine List.Nodup.of_map Prod.fst ?_
    rw [List.map_map]
    exact n.nodup
  have hperm : (m.entries.map (fun e ↦ (e.1, f e.2))).Perm
      (m'.entries.map (fun e ↦ (e.1, f e.2))) := by
    rw [List.perm_ext_iff_of_nodup (hnodup m) (hnodup m')]
    rintro ⟨k, x⟩
    rw [hmem, hmem, h k]
  have hsnd := hperm.map Prod.snd
  rw [List.map_map, List.map_map] at hsnd
  rw [values, values, List.map_map, List.map_map]
  exact hsnd

/-- A sum over the values, when a key is set. -/
theorem sum_map_values_set {M : Type*} [AddCommMonoid M] (m : InsertionMap K V) (k : K) (v : V)
    (f : V → M) :
    ((m.set k v).values.map f).sum + ((m.get k).map f).getD 0 = (m.values.map f).sum + f v := by
  obtain ⟨es, hes⟩ := m
  simp only [values, set, get, List.map_map]
  clear hes
  induction es with
  | nil => simp [setIn, getIn]
  | cons e rest ih =>
    by_cases h : e.1 = k
    · simp only [setIn, getIn, if_pos h, List.map_cons, List.sum_cons, Function.comp_apply,
        Option.map_some, Option.getD_some]
      abel
    · simp only [setIn, getIn, if_neg h, List.map_cons, List.sum_cons, Function.comp_apply]
      rw [add_assoc, ih, add_assoc]

/-! ## Taking entries out -/

omit [DecidableEq K] in
/-- The entries that `p` keeps, in their order. -/
def filter (m : InsertionMap K V) (p : K → V → Bool) : InsertionMap K V :=
  ⟨m.entries.filter fun e ↦ p e.1 e.2, m.nodup.sublist (List.filter_sublist.map Prod.fst)⟩

/-- `map.delete(key)` -/
def erase (m : InsertionMap K V) (k : K) : InsertionMap K V := m.filter fun k' _ ↦ k' ≠ k

omit [DecidableEq K] in
/-- `map.size` -/
def size (m : InsertionMap K V) : ℕ := m.entries.length

theorem get_filter (m : InsertionMap K V) (p : K → V → Bool) (k : K) :
    (m.filter p).get k = (m.get k).filter (p k) := by
  obtain ⟨es, hes⟩ := m
  show getIn k (es.filter fun e ↦ p e.1 e.2) = (getIn k es).filter (p k)
  induction es with
  | nil => rfl
  | cons e rest ih =>
    rw [List.map_cons, List.nodup_cons] at hes
    by_cases hk : e.1 = k
    · -- the key is not in the rest, so that nothing is found there either
      have hrest : getIn k rest = none := by
        by_contra hsome
        obtain ⟨v, hv⟩ := Option.ne_none_iff_exists'.1 hsome
        have hmem := ((⟨rest, hes.2⟩ : InsertionMap K V).mem_entries_iff k v).2 hv
        exact hes.1 (hk ▸ List.mem_map_of_mem hmem)
      rw [hrest] at ih
      rw [List.filter_cons, getIn, if_pos hk, Option.filter_some, ← hk]
      split
      · rw [getIn, if_pos rfl]
      · rw [hk, ih hes.2]
        rfl
    · rw [List.filter_cons, getIn, if_neg hk, ← ih hes.2]
      split
      · rw [getIn, if_neg hk]
      · rfl

theorem get_erase (m : InsertionMap K V) (k k' : K) :
    (m.erase k).get k' = if k' = k then none else m.get k' := by
  rw [erase, get_filter]
  by_cases h : k' = k
  · rw [if_pos h]
    simp [h]
  · rw [if_neg h]
    cases m.get k' <;> simp [h]

/-- A sum over the values, when a key is taken out. -/
theorem sum_map_values_erase {M : Type*} [AddCommMonoid M] (m : InsertionMap K V) (k : K)
    (f : V → M) : ((m.erase k).values.map f).sum + ((m.get k).map f).getD 0
      = (m.values.map f).sum := by
  obtain ⟨es, hes⟩ := m
  simp only [values, erase, filter, get, List.map_map]
  induction es with
  | nil => simp [getIn]
  | cons e rest ih =>
    rw [List.map_cons, List.nodup_cons] at hes
    by_cases h : e.1 = k
    · have hrest : rest.filter (fun e ↦ decide (e.1 ≠ k)) = rest := by
        rw [List.filter_eq_self]
        intro e' he'
        rw [decide_eq_true_eq]
        rintro heq
        exact hes.1 (h.trans heq.symm ▸ List.mem_map_of_mem he')
      rw [List.filter_cons, if_neg (by simp [h]), hrest, getIn, if_pos h]
      simp [add_comm]
    · rw [List.filter_cons, if_pos (by simp [h]), getIn, if_neg h]
      simp only [List.map_cons, List.sum_cons, Function.comp_apply]
      rw [add_assoc, ih hes.2]

/-! ## Sorted values -/

section Sorted

variable {P : Type*} [LinearOrder P]

omit [DecidableEq K] in
/-- The values in the order of their positions. -/
def sortedBy (m : InsertionMap K V) (pos : V → P) : List V :=
  m.values.mergeSort fun a b ↦ pos a ≤ pos b

omit [DecidableEq K] in
theorem sortedBy_perm (m : InsertionMap K V) (pos : V → P) :
    (m.sortedBy pos).Perm m.values :=
  List.mergeSort_perm ..

omit [DecidableEq K] in
theorem pairwise_sortedBy (m : InsertionMap K V) (pos : V → P) :
    (m.sortedBy pos).Pairwise fun a b ↦ pos a ≤ pos b := by
  have hsorted := @List.pairwise_mergeSort V (fun a b ↦ decide (pos a ≤ pos b))
    (fun a b c hab hbc ↦ by
      rw [decide_eq_true_eq] at hab hbc ⊢
      exact le_trans hab hbc)
    (fun a b ↦ by
      rw [Bool.or_eq_true, decide_eq_true_eq, decide_eq_true_eq]
      exact le_total ..) m.values
  exact hsorted.imp fun h ↦ of_decide_eq_true h

/-- **Sorting forgets the order of insertion.**  Maps whose lookups agree up to `f` list the same
values up to `f` once they are sorted by a position that `f` determines and that tells the values
apart. -/
theorem map_sortedBy_eq {m m' : InsertionMap K V} {f : V → W} {pos : V → P} (pos' : W → P)
    (hpos : ∀ v, pos v = pos' (f v)) (h : ∀ k, (m.get k).map f = (m'.get k).map f)
    (hinj : ∀ a ∈ m.values, ∀ b ∈ m.values, pos a = pos b → f a = f b) :
    (m.sortedBy pos).map f = (m'.sortedBy pos).map f := by
  have hmap : ∀ n : InsertionMap K V,
      ((n.sortedBy pos).map f).Pairwise fun a b ↦ pos' a ≤ pos' b := by
    intro n
    rw [List.pairwise_map]
    refine (n.pairwise_sortedBy pos).imp fun {a b} hab ↦ ?_
    rw [← hpos, ← hpos]
    exact hab
  have hperm : ((m.sortedBy pos).map f).Perm ((m'.sortedBy pos).map f) :=
    ((m.sortedBy_perm pos).map f).trans
      ((values_perm h).trans ((m'.sortedBy_perm pos).map f).symm)
  refine hperm.eq_of_pairwise ?_ (hmap m) (hmap m')
  intro a b ha hb hab hba
  -- both are values of `m`, up to `f`
  rw [← hperm.mem_iff] at hb
  obtain ⟨va, hva, rfl⟩ := List.mem_map.1 ha
  obtain ⟨vb, hvb, rfl⟩ := List.mem_map.1 hb
  rw [(m.sortedBy_perm pos).mem_iff] at hva hvb
  refine hinj va hva vb hvb ?_
  rw [hpos, hpos]
  exact le_antisymm hab hba

end Sorted

end InsertionMap
