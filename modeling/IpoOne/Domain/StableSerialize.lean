import IpoOne.Lib.JsonText
import Mathlib

/-!
# Canonical serialization

`stableSerialize` and `hashId` of the domain package.  Every identifier and every evidence hash is a
digest of a value's canonical text; `stableSerialize_faithful` says that two JSON values have the
same text exactly if they are the same up to the order of their keys and to the keys whose value is
`undefined` (`Same`), and what that means for the digests.
-/

set_option autoImplicit false

namespace IpoOne

open JsonText NumberText

/-- A value of JavaScript that is data. -/
inductive JsValue where
  | undefined
  | null
  | bool (value : Bool)
  | number (value : Number)
  /-- `NaN` or an infinity -/
  | notFinite
  | bigint (value : ℤ)
  | string (value : Text)
  | array (items : List JsValue)
  /-- An object, with its own properties. -/
  | object (properties : List (Text × JsValue))

namespace StableSerialize

/-- A text that the source spells out. -/
def ascii (text : String) : Text := text.toList.map Char.toNat

/-- The value is `undefined`. -/
def isUndefined : JsValue → Bool
  | .undefined => true
  | _ => false

/-- The properties whose value is not `undefined`. -/
def defined (properties : List (Text × JsValue)) : List (Text × JsValue) :=
  properties.filter fun property ↦ !isUndefined property.2

/-- The order of `Array.prototype.sort` on keys. -/
def ByKey {α : Type} (a b : Text × α) : Prop := a.1 ≤ b.1

instance {α : Type} : DecidableRel (ByKey : Text × α → Text × α → Prop) :=
  fun a b ↦ inferInstanceAs (Decidable (a.1 ≤ b.1))

mutual

/-- The text of a value: keys sorted, and properties without a value left out. -/
def stableSerialize : JsValue → Text
  | .undefined => ascii "null"
  | .null => ascii "null"
  | .bool value => ascii (if value then "true" else "false")
  | .number value => value.toString
  | .notFinite => ascii "null"
  | .bigint value => (if value < 0 then [45] else []) ++ decimal value.natAbs
  | .string value => quote value
  | .array items => 91 :: (join 44 (serializeItems items) ++ [93])
  | .object properties =>
    123 :: (join 44 (((serializeProperties properties).insertionSort ByKey).map
      fun (key, value) ↦ quote key ++ 58 :: value) ++ [125])

/-- The texts of an array's items. -/
def serializeItems : List JsValue → List Text
  | [] => []
  | item :: items => stableSerialize item :: serializeItems items

/-- The keys that are kept, each with the text of its value. -/
def serializeProperties : List (Text × JsValue) → List (Text × Text)
  | [] => []
  | (key, value) :: properties =>
    if isUndefined value then serializeProperties properties
    else (key, stableSerialize value) :: serializeProperties properties

end

/-- What `hashId` hashes: the domain, the namespace and the text, each behind a zero. -/
def hashIdText (space : Text) (payload : JsValue) : Text :=
  ascii "IPO_ONE_DEMO_V1" ++ 0 :: (space ++ 0 :: stableSerialize payload)

/-- `hashId`, given the digest of a text -/
def hashId {H : Type} (sha3 : Text → H) (space : Text) (payload : JsValue) : H :=
  sha3 (hashIdText space payload)

/-! ## What is the same -/

/-- The value of a key, if it has one. -/
def property (properties : List (Text × JsValue)) (key : Text) : Option JsValue :=
  ((defined properties).find? fun property ↦ property.1 = key).map (·.2)

/-- Equal up to the order of the keys, and to the keys whose value is `undefined`. -/
inductive Same : JsValue → JsValue → Prop
  | null : Same .null .null
  | bool (value : Bool) : Same (.bool value) (.bool value)
  | number (value : Number) : Same (.number value) (.number value)
  | string (value : Text) : Same (.string value) (.string value)
  | array {xs ys : List JsValue} (items : List.Forall₂ Same xs ys) : Same (.array xs) (.array ys)
  | object {ps qs : List (Text × JsValue)}
      (properties : ∀ key, Option.Rel Same (property ps key) (property qs key)) :
      Same (.object ps) (.object qs)

/-- A JSON value.  Its objects may have keys whose value is `undefined`. -/
inductive IsJson : JsValue → Prop
  | null : IsJson .null
  | bool (value : Bool) : IsJson (.bool value)
  | number (value : Number) : IsJson (.number value)
  | string (value : Text) : IsJson (.string value)
  | array {items : List JsValue} (h : ∀ item ∈ items, IsJson item) : IsJson (.array items)
  | object {properties : List (Text × JsValue)} (keys : (properties.map Prod.fst).Nodup)
      (h : ∀ property ∈ defined properties, IsJson property.2) : IsJson (.object properties)

theorem isJson_object_nil : IsJson (.object []) := .object List.nodup_nil (List.forall_mem_nil _)

/-- A JSON value that is stored as it came. -/
structure Json where
  value : JsValue
  isJson : IsJson value

example : stableSerialize (.object [(ascii "b", .number (.nonzero true 15 0 (by decide))),
    (ascii "c", .undefined), (ascii "a", .array [.null, .string (ascii "\"x\n")])])
      = ascii "\x7b\"a\":[null,\"\\\"x\\n\"],\"b\":-0.15\x7d" := by
  decide +kernel

instance {α : Type} : Std.Total (ByKey : Text × α → Text × α → Prop) :=
  ⟨fun a b ↦ le_total a.1 b.1⟩

instance {α : Type} : IsTrans (Text × α) ByKey := ⟨fun _ _ _ hab hbc ↦ le_trans hab hbc⟩

/-! ## Values by their texts -/

theorem serializeItems_eq (items : List JsValue) :
    serializeItems items = items.map stableSerialize := by
  induction items with
  | nil => rfl
  | cons item items ih => rw [serializeItems, ih, List.map_cons]

/-- A key with the text of its value. -/
def keyAndText (property : Text × JsValue) : Text × Text := (property.1, stableSerialize property.2)

theorem serializeProperties_eq (properties : List (Text × JsValue)) :
    serializeProperties properties = (defined properties).map keyAndText := by
  induction properties with
  | nil => rfl
  | cons property properties ih =>
    obtain ⟨key, value⟩ := property
    rw [serializeProperties, ih, defined, defined, List.filter_cons]
    cases isUndefined value <;> rfl

/-- The properties that are written, in the order in which they are. -/
def written (properties : List (Text × JsValue)) : List (Text × JsValue) :=
  (defined properties).insertionSort ByKey

/-- The text of one property. -/
def writeProperty (property : Text × JsValue) : Text :=
  quote property.1 ++ 58 :: stableSerialize property.2

theorem stableSerialize_object (properties : List (Text × JsValue)) :
    stableSerialize (.object properties)
      = 123 :: (join 44 ((written properties).map writeProperty) ++ [125]) := by
  have hsort : ((defined properties).map keyAndText).insertionSort ByKey
      = (written properties).map keyAndText :=
    (List.map_insertionSort ByKey ByKey keyAndText _ fun _ _ _ _ ↦ Iff.rfl).symm
  rw [stableSerialize, serializeProperties_eq, hsort, List.map_map]
  rfl

theorem stableSerialize_array (items : List JsValue) :
    stableSerialize (.array items) = 91 :: (join 44 (items.map stableSerialize) ++ [93]) := by
  rw [stableSerialize, serializeItems_eq]

section Properties

variable {properties : List (Text × JsValue)}

theorem nodup_defined (h : (properties.map Prod.fst).Nodup) :
    ((defined properties).map Prod.fst).Nodup :=
  h.sublist (List.filter_sublist.map Prod.fst)

theorem mem_written {property : Text × JsValue} :
    property ∈ written properties ↔ property ∈ defined properties :=
  List.mem_insertionSort ..

/-- The value of a key is the one that is written with it. -/
theorem property_eq_some (h : (properties.map Prod.fst).Nodup) {key : Text} {value : JsValue} :
    property properties key = some value ↔ (key, value) ∈ defined properties := by
  have hnodup := nodup_defined h
  rw [property]
  generalize defined properties = entries at hnodup ⊢
  induction entries with
  | nil => simp
  | cons entry entries ih =>
    rw [List.map_cons, List.nodup_cons] at hnodup
    by_cases hkey : entry.1 = key
    · rw [List.find?_cons_of_pos (by exact decide_eq_true hkey), Option.map_some, Option.some.injEq,
        List.mem_cons]
      constructor
      · rintro rfl
        exact .inl (by rw [← hkey])
      · rintro (heq | hmem)
        · rw [← heq]
        · exact absurd (List.mem_map_of_mem hmem) (hkey ▸ hnodup.1)
    · rw [List.find?_cons_of_neg (by rwa [decide_eq_true_eq]), List.mem_cons]
      refine Iff.trans (ih hnodup.2) ?_
      constructor
      · exact .inr
      · rintro (heq | hmem)
        · exact absurd (congrArg Prod.fst heq).symm hkey
        · exact hmem

end Properties

/-- What may follow a value in a text. -/
def Ends (text : Text) : Prop := ∀ unit ∈ text.head?, unit = 44 ∨ unit = 93 ∨ unit = 125

/-- A unit that stands for the texts that start with it. -/
def leading (unit : ℕ) : ℕ := if 48 ≤ unit ∧ unit ≤ 57 then 45 else unit

/-- What the texts of a kind of value start with. -/
def lead : JsValue → ℕ
  | .bool true => 116
  | .bool false => 102
  | .number _ => 45
  | .string _ => 34
  | .array _ => 91
  | .object _ => 123
  | _ => 110

theorem head_number (n : Number) : ∃ unit rest, n.toString = unit :: rest ∧ leading unit = 45 := by
  cases n with
  | zero => exact ⟨48, [], rfl, rfl⟩
  | nonzero negative digits point h =>
    cases negative with
    | true => exact ⟨45, _, rfl, rfl⟩
    | false =>
      obtain ⟨unit, rest, htext, hunit⟩ := exists_unsigned digits point
      exact ⟨unit, rest, htext, if_pos hunit⟩

theorem exists_stableSerialize {v : JsValue} (h : IsJson v) :
    ∃ unit rest, stableSerialize v = unit :: rest ∧ leading unit = lead v := by
  cases h with
  | null => exact ⟨_, _, rfl, rfl⟩
  | bool value => cases value <;> exact ⟨_, _, rfl, rfl⟩
  | number value => exact head_number value
  | string value => exact ⟨_, _, rfl, rfl⟩
  | array h => exact ⟨_, _, rfl, rfl⟩
  | object keys h => exact ⟨_, _, rfl, rfl⟩

/-- Values that are written alike are of one kind. -/
theorem lead_eq {v w : JsValue} (hv : IsJson v) (hw : IsJson w) {s t : Text}
    (h : stableSerialize v ++ s = stableSerialize w ++ t) : lead v = lead w := by
  obtain ⟨unit, rest, htext, hlead⟩ := exists_stableSerialize hv
  obtain ⟨unit', rest', htext', hlead'⟩ := exists_stableSerialize hw
  rw [htext, htext'] at h
  rw [← hlead, ← hlead', (List.cons.inj h).1]

/-- No value starts with what ends one. -/
theorem stableSerialize_ne {v : JsValue} (hv : IsJson v) {unit : ℕ} (hunit : unit = 93 ∨ unit = 125)
    (s t : Text) : stableSerialize v ++ s ≠ unit :: t := by
  intro heq
  obtain ⟨first, rest, htext, hlead⟩ := exists_stableSerialize hv
  rw [htext] at heq
  rw [(List.cons.inj heq).1] at hlead
  rcases hunit with rfl | rfl <;> cases hv with
  | bool value => cases value <;> cases hlead
  | _ => cases hlead

instance (unit : ℕ) : Decidable (IsNumberUnit unit) := by
  rw [IsNumberUnit, IsDigit]
  exact inferInstance

theorem number_inj {a b : Number} {s t : Text} (hs : Ends s) (ht : Ends t)
    (h : a.toString ++ s = b.toString ++ t) : a = b ∧ s = t := by
  have hnumber : ∀ n : Number, ∀ unit ∈ n.toString, decide (IsNumberUnit unit) = true :=
    fun n unit hunit ↦ decide_eq_true (Number.isNumberUnit hunit)
  have hends : ∀ {text : Text}, Ends text →
      ∀ unit ∈ text.head?, decide (IsNumberUnit unit) = false := by
    intro text htext unit hunit
    refine decide_eq_false fun hnumber ↦ ?_
    have hend := htext unit hunit
    simp only [IsNumberUnit, IsDigit] at hnumber
    omega
  obtain ⟨htake, hdrop⟩ := span_append a.toString s (hnumber a) (hends hs)
  obtain ⟨htake', hdrop'⟩ := span_append b.toString t (hnumber b) (hends ht)
  rw [h] at htake hdrop
  exact ⟨Number.toString_injective (htake.symm.trans htake'), hdrop.symm.trans hdrop'⟩

theorem sizeOf_lt_of_mem_defined {properties : List (Text × JsValue)} {property : Text × JsValue}
    (h : property ∈ defined properties) :
    sizeOf property.2 < sizeOf (JsValue.object properties) := by
  have hlist := List.sizeOf_lt_of_mem (List.mem_filter.1 h).1
  have hpair : sizeOf property = 1 + sizeOf property.1 + sizeOf property.2 := rfl
  rw [JsValue.object.sizeOf_spec]
  omega

theorem exists_of_forall₂ {α : Type} {R : α → α → Prop} {xs ys : List α}
    (h : List.Forall₂ R xs ys) : (∀ x ∈ xs, ∃ y ∈ ys, R x y) ∧ ∀ y ∈ ys, ∃ x ∈ xs, R x y := by
  induction h with
  | nil => exact ⟨nofun, nofun⟩
  | cons hxy _ ih =>
    refine ⟨List.forall_mem_cons.2 ⟨⟨_, List.mem_cons_self .., hxy⟩, fun x hx ↦ ?_⟩,
      List.forall_mem_cons.2 ⟨⟨_, List.mem_cons_self .., hxy⟩, fun y hy ↦ ?_⟩⟩
    · obtain ⟨y, hy, hR⟩ := ih.1 x hx
      exact ⟨y, List.mem_cons_of_mem _ hy, hR⟩
    · obtain ⟨x, hx, hR⟩ := ih.2 y hy
      exact ⟨x, List.mem_cons_of_mem _ hx, hR⟩

/-- The properties of two objects that are written alike. -/
theorem rel_of_forall₂ {ps qs : List (Text × JsValue)} (hps : (ps.map Prod.fst).Nodup)
    (hqs : (qs.map Prod.fst).Nodup)
    (h : List.Forall₂ (fun p q : Text × JsValue ↦ p.1 = q.1 ∧ Same p.2 q.2) (written ps)
      (written qs)) (key : Text) : Option.Rel Same (property ps key) (property qs key) := by
  obtain ⟨hleft, hright⟩ := exists_of_forall₂ h
  cases hp : property ps key with
  | some v =>
    rw [property_eq_some hps] at hp
    obtain ⟨⟨_, w⟩, hmem, rfl, hsame⟩ := hleft (key, v) (mem_written.2 hp)
    rw [(property_eq_some hqs).2 (mem_written.1 hmem)]
    exact .some hsame
  | none =>
    cases hq : property qs key with
    | none => exact .none
    | some w =>
      rw [property_eq_some hqs] at hq
      obtain ⟨⟨_, v⟩, hmem, rfl, _⟩ := hright (key, w) (mem_written.2 hq)
      rw [(property_eq_some hps).2 (mem_written.1 hmem)] at hp
      cases hp

/-- **The text of a value can be read off the front of a text.** -/
theorem same_of_append : ∀ (n : ℕ) {v w : JsValue}, sizeOf v < n → IsJson v → IsJson w →
    ∀ s t, Ends s → Ends t → stableSerialize v ++ s = stableSerialize w ++ t →
      Same v w ∧ s = t := by
  intro n
  induction n with
  | zero => exact fun h ↦ absurd h (Nat.not_lt_zero _)
  | succ n ih =>
    intro v w hsize hv hw s t hs ht h
    have hlead := lead_eq hv hw h
    have hends : ∀ unit text, unit = 44 ∨ unit = 93 ∨ unit = 125 → Ends (unit :: text) := by
      rintro unit text hunit _ ⟨⟩
      exact hunit
    cases hv with
    | null =>
      cases hw with
      | null => exact ⟨.null, List.append_cancel_left h⟩
      | bool value => cases value <;> cases hlead
      | _ => cases hlead
    | bool value =>
      cases hw with
      | bool value' =>
        have hvalue : value = value' := by
          cases value <;> cases value' <;> first | rfl | cases hlead
        subst hvalue
        exact ⟨.bool value, List.append_cancel_left h⟩
      | _ => cases value <;> cases hlead
    | number value =>
      cases hw with
      | number value' =>
        obtain ⟨rfl, hst⟩ := number_inj hs ht h
        exact ⟨.number value, hst⟩
      | bool value' => cases value' <;> cases hlead
      | _ => cases hlead
    | string value =>
      cases hw with
      | string value' =>
        obtain ⟨rfl, hst⟩ := quote_inj h
        exact ⟨.string value, hst⟩
      | bool value' => cases value' <;> cases hlead
      | _ => cases hlead
    | @array items hitems =>
      cases hw with
      | @array items' hitems' =>
        rw [stableSerialize_array, stableSerialize_array, List.cons_append, List.cons_append,
          List.append_assoc, List.append_assoc, List.cons.injEq] at h
        have hapart : ToldApart stableSerialize Ends Same items items' := by
          intro x hx y hy s t hs ht hxy
          have hlt := List.sizeOf_lt_of_mem hx
          rw [JsValue.array.sizeOf_spec] at hsize
          exact ih (by omega) (hitems x hx) (hitems' y hy) s t hs ht hxy
        obtain ⟨hall, hst⟩ := join_inj (fun t ↦ hends _ t (.inl rfl))
          (fun t ↦ hends _ t (.inr (.inl rfl))) (by decide) hapart
          (fun x hx s t ↦ stableSerialize_ne (hitems x hx) (.inl rfl) s t)
          (fun y hy s t ↦ stableSerialize_ne (hitems' y hy) (.inl rfl) s t) h.2
        exact ⟨.array hall, hst⟩
      | bool value' => cases value' <;> cases hlead
      | _ => cases hlead
    | @object properties hkeys hproperties =>
      cases hw with
      | @object properties' hkeys' hproperties' =>
        rw [stableSerialize_object, stableSerialize_object, List.cons_append, List.cons_append,
          List.append_assoc, List.append_assoc, List.cons.injEq] at h
        have hapart : ToldApart writeProperty Ends (fun p q ↦ p.1 = q.1 ∧ Same p.2 q.2)
            (written properties) (written properties') := by
          intro p hp q hq s t hs ht hpq
          rw [mem_written] at hp hq
          rw [writeProperty, writeProperty, List.append_assoc, List.append_assoc] at hpq
          obtain ⟨hkey, hrest⟩ := quote_inj hpq
          have hlt := sizeOf_lt_of_mem_defined hp
          obtain ⟨hsame, hst⟩ := ih (by omega) (hproperties p hp) (hproperties' q hq) s t hs ht
            (List.cons.inj hrest).2
          exact ⟨⟨hkey, hsame⟩, hst⟩
        obtain ⟨hall, hst⟩ := join_inj (fun t ↦ hends _ t (.inl rfl))
          (fun t ↦ hends _ t (.inr (.inr rfl))) (by decide) hapart
          (fun p _ s t heq ↦ absurd (List.cons.inj heq).1 (by decide))
          (fun q _ s t heq ↦ absurd (List.cons.inj heq).1 (by decide)) h.2
        exact ⟨.object (rel_of_forall₂ hkeys hkeys' hall), hst⟩
      | bool value' => cases value' <;> cases hlead
      | _ => cases hlead

theorem rel_symm {α : Type} {R : α → α → Prop} (hR : ∀ a b, R a b → R b a) {a b : Option α}
    (h : Option.Rel R a b) : Option.Rel R b a := by
  cases h with
  | none => exact .none
  | some hab => exact .some (hR _ _ hab)

theorem rel_imp {α : Type} {R S : α → α → Prop} {a b : Option α} (h : Option.Rel R a b)
    (himp : ∀ x y, a = some x → b = some y → R x y → S x y) : Option.Rel S a b := by
  cases h with
  | none => exact .none
  | some hab => exact .some (himp _ _ rfl rfl hab)

/-- The properties of two objects that are the same are written alike. -/
theorem written_eq {ps qs : List (Text × JsValue)} (hps : (ps.map Prod.fst).Nodup)
    (hqs : (qs.map Prod.fst).Nodup)
    (h : ∀ key, Option.Rel (fun v w ↦ stableSerialize v = stableSerialize w) (property ps key)
      (property qs key)) :
    (written ps).map keyAndText = (written qs).map keyAndText := by
  have hmem : ∀ {ps qs : List (Text × JsValue)}, (ps.map Prod.fst).Nodup →
      (qs.map Prod.fst).Nodup →
      (∀ key, Option.Rel (fun v w ↦ stableSerialize v = stableSerialize w) (property ps key)
        (property qs key)) →
      ∀ entry ∈ (defined ps).map keyAndText, entry ∈ (defined qs).map keyAndText := by
    intro ps qs hps hqs h entry hentry
    obtain ⟨⟨key, v⟩, hv, rfl⟩ := List.mem_map.1 hentry
    have hrel := h key
    rw [(property_eq_some hps).2 hv] at hrel
    cases hq : property qs key with
    | none =>
      rw [hq] at hrel
      cases hrel
    | some w =>
      rw [hq] at hrel
      cases hrel with
      | some htext =>
        refine List.mem_map.2 ⟨(key, w), (property_eq_some hqs).1 hq, ?_⟩
        rw [keyAndText, keyAndText, htext]
  have hkeys : ∀ {ps : List (Text × JsValue)}, (ps.map Prod.fst).Nodup →
      (((defined ps).map keyAndText).map Prod.fst).Nodup := by
    intro ps hps
    rw [List.map_map]
    exact nodup_defined hps
  have hsymm : ∀ key, Option.Rel (fun v w ↦ stableSerialize v = stableSerialize w)
      (property qs key) (property ps key) :=
    fun key ↦ rel_symm (fun _ _ htext ↦ htext.symm) (h key)
  have hperm : ((defined ps).map keyAndText).Perm ((defined qs).map keyAndText) := by
    refine (List.perm_ext_iff_of_nodup (hkeys hps).of_map (hkeys hqs).of_map).2 fun entry ↦ ?_
    exact ⟨hmem hps hqs h entry, hmem hqs hps hsymm entry⟩
  have hsort : ∀ ps : List (Text × JsValue),
      (written ps).map keyAndText = ((defined ps).map keyAndText).insertionSort ByKey :=
    fun ps ↦ List.map_insertionSort ByKey ByKey keyAndText _ fun _ _ _ _ ↦ Iff.rfl
  rw [hsort, hsort]
  refine List.Perm.eq_of_pairwise ?_ (List.pairwise_insertionSort ByKey _)
    (List.pairwise_insertionSort ByKey _) ?_
  · intro a b ha hb hab hba
    rw [List.mem_insertionSort] at ha hb
    exact List.inj_on_of_nodup_map (hkeys hps) ha (hperm.mem_iff.2 hb) (le_antisymm hab hba)
  · exact (List.perm_insertionSort ByKey _).trans
      (hperm.trans (List.perm_insertionSort ByKey _).symm)

/-- **Values that are the same have one text.** -/
theorem stableSerialize_eq_of_same : ∀ (n : ℕ) {v w : JsValue}, sizeOf v < n → IsJson v → IsJson w →
    Same v w → stableSerialize v = stableSerialize w := by
  intro n
  induction n with
  | zero => exact fun h ↦ absurd h (Nat.not_lt_zero _)
  | succ n ih =>
    intro v w hsize hv hw h
    cases h with
    | null | bool | number | string => rfl
    | @array xs ys items =>
      cases hv with
      | array hxs =>
        cases hw with
        | array hys =>
          have htexts : xs.map stableSerialize = ys.map stableSerialize := by
            rw [JsValue.array.sizeOf_spec] at hsize
            induction items with
            | nil => rfl
            | @cons x y xs ys hxy _ ihitems =>
              rw [List.forall_mem_cons] at hxs hys
              rw [List.cons.sizeOf_spec] at hsize
              rw [List.map_cons, List.map_cons, ih (by omega) hxs.1 hys.1 hxy,
                ihitems (by omega) hxs.2 hys.2]
          rw [stableSerialize_array, stableSerialize_array, htexts]
    | @object ps qs properties =>
      cases hv with
      | object hkeys hps =>
        cases hw with
        | object hkeys' hqs =>
          have hwritten : (written ps).map keyAndText = (written qs).map keyAndText := by
            refine written_eq hkeys hkeys' fun key ↦
              rel_imp (properties key) fun v w hp hq hsame ↦ ?_
            have hv := (property_eq_some hkeys).1 hp
            have hlt : sizeOf v < sizeOf (JsValue.object ps) := sizeOf_lt_of_mem_defined hv
            exact ih (by omega) (hps _ hv) (hqs _ ((property_eq_some hkeys').1 hq)) hsame
          have htexts : ∀ ps : List (Text × JsValue), (written ps).map writeProperty
              = ((written ps).map keyAndText).map fun entry ↦ quote entry.1 ++ 58 :: entry.2 := by
            intro ps
            rw [List.map_map]
            rfl
          rw [stableSerialize_object, stableSerialize_object, htexts, htexts, hwritten]

/-! ## Digests -/

theorem isDigit_ascii {unit : ℕ} (h : IsDigit unit) : 0 < unit ∧ unit < 128 := by
  rw [IsDigit] at h
  omega

theorem plain_number (n : Number) : Plain n.toString := by
  refine plain_of_ascii fun unit hunit ↦ ?_
  have hnumber := Number.isNumberUnit hunit
  simp only [IsNumberUnit, IsDigit] at hnumber
  omega

/-- **The text of a value is well formed**, whatever strings it holds. -/
theorem plain_stableSerialize : ∀ (n : ℕ) {v : JsValue}, sizeOf v < n →
    Plain (stableSerialize v) := by
  intro n
  induction n with
  | zero => exact fun h ↦ absurd h (Nat.not_lt_zero _)
  | succ n ih =>
    intro v hsize
    have hunit : ∀ unit, 0 < unit → unit < 128 → Plain [unit] := fun _ ↦ plain_ascii
    cases v with
    | undefined | null | notFinite => exact plain_of_ascii (by decide)
    | bool value => cases value <;> exact plain_of_ascii (by decide)
    | number value => exact plain_number value
    | bigint value =>
      refine Plain.append ?_ (plain_of_ascii fun unit h ↦ isDigit_ascii (isDigit_of_mem_decimal h))
      split
      · exact hunit 45 (by omega) (by omega)
      · exact plain_nil
    | string value => exact plain_quote value
    | array items =>
      rw [stableSerialize_array]
      refine (hunit 91 (by omega) (by omega)).append
        (.append (plain_join (hunit 44 (by omega) (by omega)) fun part hpart ↦ ?_)
          (hunit 93 (by omega) (by omega)))
      obtain ⟨item, hitem, rfl⟩ := List.mem_map.1 hpart
      have hlt := List.sizeOf_lt_of_mem hitem
      rw [JsValue.array.sizeOf_spec] at hsize
      exact ih (by omega)
    | object properties =>
      rw [stableSerialize_object]
      refine (hunit 123 (by omega) (by omega)).append
        (.append (plain_join (hunit 44 (by omega) (by omega)) fun part hpart ↦ ?_)
          (hunit 125 (by omega) (by omega)))
      obtain ⟨property, hproperty, rfl⟩ := List.mem_map.1 hpart
      have hlt := sizeOf_lt_of_mem_defined (mem_written.1 hproperty)
      exact (plain_quote property.1).append
        ((hunit 58 (by omega) (by omega)).append (ih (by omega)))

/-- The last zero of a text. -/
theorem append_zero_inj {a b s t : Text} (hs : 0 ∉ s) (ht : 0 ∉ t)
    (h : a ++ 0 :: s = b ++ 0 :: t) : a = b ∧ s = t := by
  have hnonzero : ∀ {text : Text}, 0 ∉ text → ∀ unit ∈ text.reverse, decide (unit ≠ 0) = true := by
    intro text htext unit hunit
    refine decide_eq_true fun heq ↦ htext ?_
    rw [← heq]
    exact List.mem_reverse.1 hunit
  have hstop : ∀ text : Text, ∀ unit ∈ (0 :: text).head?, decide (unit ≠ 0) = false := by
    rintro text _ ⟨⟩
    rfl
  have hreverse := congrArg List.reverse h
  rw [List.reverse_append, List.reverse_append, List.reverse_cons, List.reverse_cons,
    List.append_assoc, List.append_assoc, List.singleton_append, List.singleton_append] at hreverse
  obtain ⟨htake, hdrop⟩ := span_append s.reverse (0 :: a.reverse) (hnonzero hs) (hstop _)
  obtain ⟨htake', hdrop'⟩ := span_append t.reverse (0 :: b.reverse) (hnonzero ht) (hstop _)
  rw [hreverse] at htake hdrop
  exact ⟨List.reverse_injective (List.cons.inj (hdrop.symm.trans hdrop')).2,
    List.reverse_injective (htake.symm.trans htake')⟩

/-- `sha3` tells apart the texts that it is given, which are well formed. -/
def CollisionFree {H : Type} (sha3 : Text → H) : Prop :=
  ∀ a b, wellFormed a = true → wellFormed b = true → sha3 a = sha3 b → a = b

theorem hashIdText_wellFormed {space : Text} (hspace : wellFormed space = true)
    (payload : JsValue) :
    wellFormed (hashIdText space payload) = true := by
  have hzero : wellFormed [0] = true := rfl
  have hdomain : wellFormed (ascii "IPO_ONE_DEMO_V1") = true := by
    decide +kernel
  have htext := (plain_stableSerialize (sizeOf payload + 1) (Nat.lt_succ_self _)).1
  exact wellFormed_append hdomain
    (wellFormed_append hzero (wellFormed_append hspace (wellFormed_append hzero htext)))

theorem hashIdText_inj {space space' : Text} {v w : JsValue}
    (h : hashIdText space v = hashIdText space' w) :
    space = space' ∧ stableSerialize v = stableSerialize w := by
  have hv := (plain_stableSerialize (sizeOf v + 1) (Nat.lt_succ_self _)).2
  have hw := (plain_stableSerialize (sizeOf w + 1) (Nat.lt_succ_self _)).2
  have htail := List.append_cancel_left h
  exact append_zero_inj hv hw (List.cons.inj htail).2

/-- **Values with one text are the same.** -/
theorem same_of_stableSerialize_eq {v w : JsValue} (hv : IsJson v) (hw : IsJson w)
    (h : stableSerialize v = stableSerialize w) : Same v w := by
  have happend : stableSerialize v ++ [] = stableSerialize w ++ [] := by
    rw [h]
  exact (same_of_append (sizeOf v + 1) (Nat.lt_succ_self _) hv hw [] [] nofun nofun happend).1

/-- **Canonical serialization is faithful.**  JSON values have the same text exactly if they are the
same up to the order of their keys and to the keys whose value is `undefined`; and where the digest
has no collisions, values of any namespaces have the same identifier exactly if the namespaces are
equal and the values the same. -/
theorem stableSerialize_faithful {v w : JsValue} (hv : IsJson v) (hw : IsJson w) :
    (stableSerialize v = stableSerialize w ↔ Same v w) ∧
      ∀ {H : Type} (sha3 : Text → H), CollisionFree sha3 → ∀ space space' : Text,
        wellFormed space = true → wellFormed space' = true →
          (hashId sha3 space v = hashId sha3 space' w ↔ space = space' ∧ Same v w) := by
  have hiff : stableSerialize v = stableSerialize w ↔ Same v w := by
    constructor
    · exact same_of_stableSerialize_eq hv hw
    · exact stableSerialize_eq_of_same (sizeOf v + 1) (Nat.lt_succ_self _) hv hw
  refine ⟨hiff, fun sha3 hsha3 space space' hspace hspace' ↦ ?_⟩
  constructor
  · intro h
    obtain ⟨heq, htext⟩ := hashIdText_inj
      (hsha3 _ _ (hashIdText_wellFormed hspace v) (hashIdText_wellFormed hspace' w) h)
    exact ⟨heq, hiff.1 htext⟩
  · rintro ⟨rfl, hsame⟩
    rw [hashId, hashId, hashIdText, hashIdText, hiff.2 hsame]

/-- An order's terms as one caller sends them, with a key that it leaves undefined. -/
def sampleTerms : JsValue :=
  .object [(ascii "b", .array [.null, .bool true]), (ascii "a", .string (ascii "x")),
    (ascii "note", .undefined)]

/-- The same terms from another caller. -/
def sampleTerms' : JsValue :=
  .object [(ascii "a", .string (ascii "x")), (ascii "b", .array [.null, .bool true])]

theorem isJson_sampleTerms : IsJson sampleTerms := by
  refine .object (by decide +kernel) ?_
  simp only [defined, isUndefined, List.filter_cons, Bool.not_false, Bool.not_true, if_true,
    Bool.false_eq_true, if_false, List.filter_nil, List.forall_mem_cons]
  refine ⟨.array ?_, .string _, nofun⟩
  simp only [List.forall_mem_cons]
  exact ⟨.null, .bool true, nofun⟩

theorem isJson_sampleTerms' : IsJson sampleTerms' := by
  refine .object (by decide +kernel) ?_
  simp only [defined, isUndefined, List.filter_cons, Bool.not_false, if_true, List.filter_nil,
    List.forall_mem_cons]
  refine ⟨.string _, .array ?_, nofun⟩
  simp only [List.forall_mem_cons]
  exact ⟨.null, .bool true, nofun⟩

/-- The two callers' terms have one identifier. -/
theorem stableSerialize_faithful_terms :
    hashId id (ascii "terms") sampleTerms = hashId id (ascii "terms") sampleTerms' := by
  have hfaithful := stableSerialize_faithful isJson_sampleTerms isJson_sampleTerms'
  have hsame := hfaithful.1.1 (by decide +kernel)
  have hspace : wellFormed (ascii "terms") = true := by
    decide +kernel
  exact (hfaithful.2 id (fun _ _ _ _ h ↦ h) _ _ hspace hspace).2 ⟨rfl, hsame⟩

end StableSerialize
end IpoOne
