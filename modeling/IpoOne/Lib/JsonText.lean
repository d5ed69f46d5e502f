import IpoOne.Lib.NumberText

/-!
# The texts of JSON

`QuoteJSONString` of ECMAScript and `Array.prototype.join`, on texts of UTF-16 code units.  A string
is written unit by unit, except that a pair of surrogates is written as it is; a surrogate without
its partner is escaped.  `quote_inj` and `join_inj` say that what was written can be read off the
front of a text: a quoted string whatever follows, and the joined parts where each part can be, in
front of the separator and of the closing bracket.
-/

set_option autoImplicit false

namespace JsonText

open NumberText (Text)

/-! ## Strings -/

/-- A high (leading) surrogate. -/
def isHigh (unit : ℕ) : Bool := 0xd800 ≤ unit && unit ≤ 0xdbff

/-- A low (trailing) surrogate. -/
def isLow (unit : ℕ) : Bool := 0xdc00 ≤ unit && unit ≤ 0xdfff

/-- A digit of a `\u` escape. -/
def hexDigit (digit : ℕ) : ℕ := if digit < 10 then 48 + digit else 87 + digit

/-- `UnicodeEscape` -/
def unicodeEscape (unit : ℕ) : Text :=
  [92, 117, hexDigit (unit / 4096), hexDigit (unit / 256 % 16), hexDigit (unit / 16 % 16),
    hexDigit (unit % 16)]

/-- A code unit that is not half of a pair. -/
def quoteUnit (unit : ℕ) : Text :=
  if unit = 8 then [92, 98]
  else if unit = 9 then [92, 116]
  else if unit = 10 then [92, 110]
  else if unit = 12 then [92, 102]
  else if unit = 13 then [92, 114]
  else if unit = 34 then [92, 34]
  else if unit = 92 then [92, 92]
  else if unit < 32 ∨ isHigh unit ∨ isLow unit then unicodeEscape unit
  else [unit]

/-- A string's units inside the quotes: a surrogate pair is written as it stands, every other unit
on its own. -/
def quoteUnits : Text → Text
  | [] => []
  | [unit] => quoteUnit unit
  | high :: low :: rest =>
    if isHigh high && isLow low then high :: low :: quoteUnits rest
    else quoteUnit high ++ quoteUnits (low :: rest)

/-- `QuoteJSONString` -/
def quote (text : Text) : Text := 34 :: (quoteUnits text ++ [34])

/-- A code unit, or a pair of surrogates. -/
inductive Segment where
  | single (unit : ℕ)
  | pair (high low : ℕ)

/-- The units of one segment. -/
def Segment.units : Segment → Text
  | .single unit => [unit]
  | .pair high low => [high, low]

/-- How one segment is written: a pair as it stands, a single unit by `quoteUnit`. -/
def Segment.quote : Segment → Text
  | .single unit => quoteUnit unit
  | .pair high low => [high, low]

/-- A pair is a high surrogate and a low one. -/
def Segment.Valid : Segment → Prop
  | .single _ => True
  | .pair high low => isHigh high = true ∧ isLow low = true

/-- A string cut into surrogate pairs and single units. -/
def segments : Text → List Segment
  | [] => []
  | [unit] => [.single unit]
  | high :: low :: rest =>
    if isHigh high && isLow low then .pair high low :: segments rest
    else .single high :: segments (low :: rest)

theorem flatMap_units (text : Text) : (segments text).flatMap Segment.units = text := by
  fun_induction segments text with
  | case1 => rfl
  | case2 unit => rfl
  | case3 high low rest hpair ih => rw [List.flatMap_cons, ih]; rfl
  | case4 high low rest hpair ih => rw [List.flatMap_cons, ih]; rfl

theorem quoteUnits_eq (text : Text) : quoteUnits text = (segments text).flatMap Segment.quote := by
  fun_induction segments text with
  | case1 => rfl
  | case2 unit => rw [quoteUnits, List.flatMap_singleton]; rfl
  | case3 high low rest hpair ih => rw [quoteUnits, if_pos hpair, List.flatMap_cons, ih]; rfl
  | case4 high low rest hpair ih => rw [quoteUnits, if_neg hpair, List.flatMap_cons, ih]; rfl

theorem valid_of_mem_segments {text : Text} {segment : Segment} (h : segment ∈ segments text) :
    segment.Valid := by
  fun_induction segments text with
  | case1 => cases h
  | case2 unit =>
    rw [List.mem_singleton.1 h]
    exact trivial
  | case3 high low rest hpair ih =>
    rcases List.mem_cons.1 h with rfl | h
    · exact Bool.and_eq_true_iff.1 hpair
    · exact ih h
  | case4 high low rest hpair ih =>
    rcases List.mem_cons.1 h with rfl | h
    · exact trivial
    · exact ih h

/-- The value of a digit of a `\u` escape. -/
def hexValue (unit : ℕ) : ℕ := if unit < 58 then unit - 48 else unit - 87

theorem hexValue_hexDigit {digit : ℕ} (h : digit < 16) : hexValue (hexDigit digit) = digit := by
  rw [hexValue, hexDigit]
  split_ifs <;> omega

/-- The unit that an escape of one letter stands for. -/
def unescape (letter : ℕ) : ℕ :=
  if letter = 98 then 8 else if letter = 116 then 9 else if letter = 110 then 10
  else if letter = 102 then 12 else if letter = 114 then 13 else letter

/-- Read one segment off the front. -/
def readSegment : Text → Option (Segment × Text)
  | [] => none
  | unit :: rest =>
    if unit = 92 then
      match rest with
      | [] => none
      | letter :: rest =>
        if letter = 117 then
          match rest with
          | a :: b :: c :: d :: rest =>
            some (.single (4096 * hexValue a + 256 * hexValue b + 16 * hexValue c + hexValue d),
              rest)
          | _ => none
        else some (.single (unescape letter), rest)
    else if isHigh unit then
      match rest with
      | [] => none
      | low :: rest => some (.pair unit low, rest)
    else some (.single unit, rest)

theorem readSegment_quote {segment : Segment} (h : segment.Valid) (rest : Text) :
    readSegment (segment.quote ++ rest) = some (segment, rest) := by
  cases segment with
  | pair high low =>
    have hne : high ≠ 92 := by
      rintro rfl
      exact absurd h.1 (by decide)
    simp only [Segment.quote, List.cons_append, List.nil_append, readSegment, if_neg hne, h.1,
      if_true]
  | single unit =>
    simp only [Segment.quote, quoteUnit]
    split_ifs with h8 h9 h10 h12 h13 h34 h92 hescape
    · rw [h8]; rfl
    · rw [h9]; rfl
    · rw [h10]; rfl
    · rw [h12]; rfl
    · rw [h13]; rfl
    · rw [h34]; rfl
    · rw [h92]; rfl
    · have hlt : unit < 65536 := by
        simp only [isHigh, isLow, Bool.and_eq_true, decide_eq_true_eq] at hescape
        omega
      simp only [unicodeEscape, List.cons_append, List.nil_append, readSegment, if_true]
      rw [hexValue_hexDigit (by omega), hexValue_hexDigit (by omega), hexValue_hexDigit (by omega),
        hexValue_hexDigit (by omega)]
      congr 3
      omega
    · rw [not_or, not_or, Bool.not_eq_true] at hescape
      simp only [List.cons_append, List.nil_append, readSegment, if_neg h92, hescape.2.1,
        Bool.false_eq_true, if_false]

/-- The closing quote starts no segment. -/
theorem quote_ne {segment : Segment} (h : segment.Valid) {rest rest' : Text} :
    segment.quote ++ rest ≠ 34 :: rest' := by
  intro heq
  have hread := readSegment_quote h rest
  have hquote : readSegment (34 :: rest') = some (.single 34, rest') := rfl
  rw [heq, hquote, Option.some.injEq, Prod.mk.injEq] at hread
  obtain ⟨rfl, rfl⟩ := hread
  cases heq

theorem flatMap_quote_inj : ∀ {a b : List Segment}, (∀ segment ∈ a, segment.Valid) →
    (∀ segment ∈ b, segment.Valid) → ∀ {s t : Text},
    a.flatMap Segment.quote ++ 34 :: s = b.flatMap Segment.quote ++ 34 :: t → a = b ∧ s = t := by
  intro a
  induction a with
  | nil =>
    intro b _ hb s t h
    cases b with
    | nil => exact ⟨rfl, (List.cons.inj h).2⟩
    | cons segment b =>
      rw [List.flatMap_cons, List.append_assoc] at h
      exact absurd h.symm (quote_ne (hb segment (List.mem_cons_self ..)))
  | cons segment a ih =>
    intro b ha hb s t h
    have hsegment := ha segment (List.mem_cons_self ..)
    cases b with
    | nil =>
      rw [List.flatMap_cons, List.append_assoc] at h
      exact absurd h (quote_ne hsegment)
    | cons segment' b =>
      rw [List.flatMap_cons, List.flatMap_cons, List.append_assoc, List.append_assoc] at h
      have hread := readSegment_quote hsegment (a.flatMap Segment.quote ++ 34 :: s)
      rw [h, readSegment_quote (hb segment' (List.mem_cons_self ..)), Option.some.injEq,
        Prod.mk.injEq] at hread
      obtain ⟨rfl, hrest⟩ := hread
      obtain ⟨rfl, hst⟩ := ih (fun other hother ↦ ha other (List.mem_cons_of_mem _ hother))
        (fun other hother ↦ hb other (List.mem_cons_of_mem _ hother)) hrest.symm
      exact ⟨rfl, hst⟩

/-- **A quoted string can be read off the front of a text.** -/
theorem quote_inj {a b s t : Text} (h : quote a ++ s = quote b ++ t) : a = b ∧ s = t := by
  rw [quote, quote, List.cons_append, List.cons_append, List.cons.injEq, List.append_assoc,
    List.append_assoc, quoteUnits_eq, quoteUnits_eq] at h
  obtain ⟨hsegments, hst⟩ := flatMap_quote_inj (fun _ ↦ valid_of_mem_segments)
    (fun _ ↦ valid_of_mem_segments) h.2
  exact ⟨by rw [← flatMap_units a, hsegments, flatMap_units], hst⟩

/-! ## Joined texts -/

/-- `parts.join(separator)` -/
def join (separator : ℕ) : List Text → Text
  | [] => []
  | part :: parts => part ++ parts.flatMap (separator :: ·)

section Join

variable {α : Type*} {write : α → Text} {R : α → α → Prop} {Ends : Text → Prop}
  {separator close : ℕ}

/-- What is written of `xs` can be told from what is written of `ys`, in front of an end. -/
def ToldApart (write : α → Text) (Ends : Text → Prop) (R : α → α → Prop) (xs ys : List α) : Prop :=
  ∀ x ∈ xs, ∀ y ∈ ys, ∀ s t, Ends s → Ends t → write x ++ s = write y ++ t → R x y ∧ s = t

theorem ToldApart.tail {x y : α} {xs ys : List α}
    (h : ToldApart write Ends R (x :: xs) (y :: ys)) : ToldApart write Ends R xs ys :=
  fun a ha b hb ↦ h a (List.mem_cons_of_mem _ ha) b (List.mem_cons_of_mem _ hb)

variable (hseparator : ∀ t, Ends (separator :: t)) (hclose : ∀ t, Ends (close :: t))

include hseparator hclose

theorem ends_tail (xs : List α) (s : Text) :
    Ends ((xs.map write).flatMap (separator :: ·) ++ close :: s) := by
  cases xs with
  | nil => exact hclose s
  | cons x xs => exact hseparator _

variable (hne : separator ≠ close)

include hne

theorem tail_inj : ∀ {xs ys : List α}, ToldApart write Ends R xs ys → ∀ {s t : Text},
    (xs.map write).flatMap (separator :: ·) ++ close :: s
        = (ys.map write).flatMap (separator :: ·) ++ close :: t →
      List.Forall₂ R xs ys ∧ s = t := by
  have hends : ∀ (xs : List α) s, Ends ((xs.map write).flatMap (separator :: ·) ++ close :: s) :=
    ends_tail hseparator hclose
  intro xs
  induction xs with
  | nil =>
    intro ys _ s t h
    cases ys with
    | nil => exact ⟨.nil, (List.cons.inj h).2⟩
    | cons y ys => exact absurd (List.cons.inj h).1.symm hne
  | cons x xs ih =>
    intro ys hapart s t h
    cases ys with
    | nil => exact absurd (List.cons.inj h).1 hne
    | cons y ys =>
      simp only [List.map_cons, List.flatMap_cons, List.cons_append, List.append_assoc,
        List.cons.injEq, true_and] at h
      obtain ⟨hxy, hrest⟩ := hapart x (List.mem_cons_self ..) y (List.mem_cons_self ..) _ _
        (hends xs s) (hends ys t) h
      obtain ⟨hall, hst⟩ := ih hapart.tail hrest
      exact ⟨.cons hxy hall, hst⟩

/-- **Joined parts can be read off the front of a text**, up to the closing bracket. -/
theorem join_inj {xs ys : List α} (hapart : ToldApart write Ends R xs ys)
    (hxs : ∀ x ∈ xs, ∀ s t, write x ++ s ≠ close :: t)
    (hys : ∀ y ∈ ys, ∀ s t, write y ++ s ≠ close :: t) {s t : Text}
    (h : join separator (xs.map write) ++ close :: s = join separator (ys.map write)
      ++ close :: t) :
    List.Forall₂ R xs ys ∧ s = t := by
  have hends : ∀ (xs : List α) s, Ends ((xs.map write).flatMap (separator :: ·) ++ close :: s) :=
    ends_tail hseparator hclose
  cases xs with
  | nil =>
    cases ys with
    | nil => exact ⟨.nil, (List.cons.inj h).2⟩
    | cons y ys =>
      rw [List.map_cons, join, List.append_assoc] at h
      exact absurd h.symm (hys y (List.mem_cons_self ..) _ _)
  | cons x xs =>
    cases ys with
    | nil =>
      rw [List.map_cons, join, List.append_assoc] at h
      exact absurd h (hxs x (List.mem_cons_self ..) _ _)
    | cons y ys =>
      rw [List.map_cons, List.map_cons, join, join, List.append_assoc, List.append_assoc] at h
      obtain ⟨hxy, hrest⟩ := hapart x (List.mem_cons_self ..) y (List.mem_cons_self ..) _ _
        (hends xs s) (hends ys t) h
      obtain ⟨hall, hst⟩ := tail_inj hseparator hclose hne hapart.tail hrest
      exact ⟨.cons hxy hall, hst⟩

end Join

/-! ## Well-formed texts -/

/-- Every surrogate has its partner. -/
def wellFormed : Text → Bool
  | [] => true
  | [unit] => !isHigh unit && !isLow unit
  | high :: low :: rest =>
    if isHigh high && isLow low then wellFormed rest
    else !isHigh high && !isLow high && wellFormed (low :: rest)

/-- A well-formed text without the unit zero. -/
def Plain (text : Text) : Prop := wellFormed text = true ∧ 0 ∉ text

theorem wellFormed_append {a b : Text} (ha : wellFormed a = true) (hb : wellFormed b = true) :
    wellFormed (a ++ b) = true := by
  fun_induction wellFormed a with
  | case1 => exact hb
  | case2 unit =>
    rw [Bool.and_eq_true, Bool.not_eq_true', Bool.not_eq_true'] at ha
    cases b with
    | nil =>
      rw [List.append_nil, wellFormed, ha.1, ha.2]
      rfl
    | cons low rest =>
      rw [List.singleton_append, wellFormed, ha.1, ha.2]
      exact hb
  | case3 high low rest hpair ih =>
    rw [List.cons_append, List.cons_append, wellFormed, if_pos hpair]
    exact ih ha
  | case4 high low rest hpair ih =>
    rw [Bool.and_eq_true] at ha
    rw [List.cons_append, List.cons_append, wellFormed, if_neg hpair, Bool.and_eq_true]
    exact ⟨ha.1, ih ha.2⟩

theorem Plain.append {a b : Text} (ha : Plain a) (hb : Plain b) : Plain (a ++ b) := by
  refine ⟨wellFormed_append ha.1 hb.1, fun hmem ↦ ?_⟩
  exact (List.mem_append.1 hmem).elim ha.2 hb.2

theorem plain_nil : Plain [] := ⟨rfl, List.not_mem_nil⟩

/-- A unit that is no surrogate, and not zero. -/
theorem plain_singleton {unit : ℕ} (hpos : 0 < unit) (hhigh : isHigh unit = false)
    (hlow : isLow unit = false) : Plain [unit] := by
  refine ⟨by rw [wellFormed, hhigh, hlow]; rfl, ?_⟩
  rw [List.mem_singleton]
  omega

theorem plain_ascii {unit : ℕ} (hpos : 0 < unit) (hlt : unit < 128) : Plain [unit] := by
  refine plain_singleton hpos ?_ ?_
  · rw [isHigh, Bool.and_eq_false_iff]
    exact .inl (decide_eq_false (by omega))
  · rw [isLow, Bool.and_eq_false_iff]
    exact .inl (decide_eq_false (by omega))

theorem Plain.flatten {parts : List Text} (h : ∀ part ∈ parts, Plain part) :
    Plain parts.flatten := by
  induction parts with
  | nil => exact plain_nil
  | cons part parts ih =>
    rw [List.flatten_cons]
    exact (h part (List.mem_cons_self ..)).append
      (ih fun other hother ↦ h other (List.mem_cons_of_mem _ hother))

theorem plain_of_ascii {text : Text} (h : ∀ unit ∈ text, 0 < unit ∧ unit < 128) : Plain text := by
  have hflatten : (text.map fun unit ↦ [unit]).flatten = text := by
    rw [← List.flatMap_def, List.flatMap_singleton']
  rw [← hflatten]
  refine Plain.flatten fun part hpart ↦ ?_
  obtain ⟨unit, hunit, rfl⟩ := List.mem_map.1 hpart
  exact plain_ascii (h unit hunit).1 (h unit hunit).2

theorem hexDigit_ascii {digit : ℕ} (h : digit < 16) : 0 < hexDigit digit ∧
    hexDigit digit < 128 := by
  rw [hexDigit]
  split_ifs <;> omega

theorem plain_quoteSegment {segment : Segment} (h : segment.Valid) : Plain segment.quote := by
  cases segment with
  | pair high low =>
    obtain ⟨hhigh, hlow⟩ := h
    have hhigh' := hhigh
    have hlow' := hlow
    simp only [isHigh, isLow, Bool.and_eq_true, decide_eq_true_eq] at hhigh' hlow'
    refine ⟨by rw [Segment.quote, wellFormed, hhigh, hlow]; rfl, ?_⟩
    simp only [Segment.quote, List.mem_cons, List.not_mem_nil, or_false]
    omega
  | single unit =>
    simp only [Segment.quote, quoteUnit]
    split_ifs with h8 h9 h10 h12 h13 h34 h92 hescape
    · exact plain_of_ascii (by decide)
    · exact plain_of_ascii (by decide)
    · exact plain_of_ascii (by decide)
    · exact plain_of_ascii (by decide)
    · exact plain_of_ascii (by decide)
    · exact plain_of_ascii (by decide)
    · exact plain_of_ascii (by decide)
    · have hlt : unit < 65536 := by
        simp only [isHigh, isLow, Bool.and_eq_true, decide_eq_true_eq] at hescape
        omega
      refine plain_of_ascii ?_
      simp only [unicodeEscape, List.forall_mem_cons]
      exact ⟨by omega, by omega, hexDigit_ascii (by omega), hexDigit_ascii (by omega),
        hexDigit_ascii (by omega), hexDigit_ascii (by omega), nofun⟩
    · rw [not_or, not_or, Bool.not_eq_true, Bool.not_eq_true] at hescape
      exact plain_singleton (by omega) hescape.2.1 hescape.2.2

/-- **A quoted string is well formed**, whatever was quoted. -/
theorem plain_quote (text : Text) : Plain (quote text) := by
  have hunits : Plain (quoteUnits text) := by
    rw [quoteUnits_eq, List.flatMap_def]
    refine Plain.flatten fun part hpart ↦ ?_
    obtain ⟨segment, hsegment, rfl⟩ := List.mem_map.1 hpart
    exact plain_quoteSegment (valid_of_mem_segments hsegment)
  have hquote : Plain [34] := plain_ascii (by omega) (by omega)
  exact hquote.append (hunits.append hquote)

theorem plain_join {separator : ℕ} (hseparator : Plain [separator]) {parts : List Text}
    (h : ∀ part ∈ parts, Plain part) : Plain (join separator parts) := by
  cases parts with
  | nil => exact plain_nil
  | cons part parts =>
    refine (h part (List.mem_cons_self ..)).append ?_
    rw [List.flatMap_def]
    refine Plain.flatten fun other hother ↦ ?_
    obtain ⟨inner, hinner, rfl⟩ := List.mem_map.1 hother
    exact hseparator.append (h inner (List.mem_cons_of_mem _ hinner))

end JsonText
