import Mathlib

/-!
# The text of a number

`Number::toString` of ECMAScript in base ten.  It writes a number that is not zero by three things:
its sign, the shortest digits `s` that determine it, which do not end in a zero, and the place `n`
of the point, so that the number is `0.s * 10 ^ n`.  `Number` has these, and so more values than
there are floating-point numbers; `toString_injective` says that the text determines all of them.

A text is a list of code units.
-/

set_option autoImplicit false

namespace NumberText

/-- A text as its UTF-16 code units. -/
abbrev Text : Type := List ℕ

/-- A finite number.  Both zeros have the same text, and are equal. -/
inductive Number where
  | zero
  | nonzero (negative : Bool) (digits : ℕ) (point : ℤ) (h : digits % 10 ≠ 0)
  deriving DecidableEq

/-- The digits of a natural number. -/
def decimal (n : ℕ) : Text := if n = 0 then [48] else (Nat.digits 10 n).reverse.map (48 + ·)

/-- The exponent of a number whose first digit stands for `10 ^ n`. -/
def exponentText (n : ℤ) : Text := 101 :: (if 0 ≤ n then 43 else 45) :: decimal n.natAbs

/-- The text of a number that is positive. -/
def unsigned (digits : ℕ) (n : ℤ) : Text :=
  let s := decimal digits
  let k := s.length
  if -5 ≤ n ∧ n ≤ 21 then
    if k ≤ n then s ++ List.replicate (n - k).toNat 48
    else if 0 < n then s.take n.toNat ++ 46 :: s.drop n.toNat
    else 48 :: 46 :: (List.replicate (-n).toNat 48 ++ s)
  else
    if k = 1 then s ++ exponentText (n - 1)
    else s.take 1 ++ 46 :: (s.drop 1 ++ exponentText (n - 1))

/-- How `JSON.stringify` writes a number: a sign, then the digits of the absolute value. -/
def Number.toString : Number → Text
  | .zero => [48]
  | .nonzero negative digits point _ => (if negative then [45] else []) ++ unsigned digits point

/-! ## Digits -/

/-- The unit is one of the digits `0` to `9`. -/
def IsDigit (unit : ℕ) : Prop := 48 ≤ unit ∧ unit ≤ 57

/-- The number that some digits stand for. -/
def valueOf (text : Text) : ℕ := Nat.ofDigits 10 (text.reverse.map (· - 48))

theorem isDigit_of_mem_decimal {n unit : ℕ} (h : unit ∈ decimal n) : IsDigit unit := by
  rw [decimal] at h
  split_ifs at h
  · rw [List.mem_singleton.1 h]
    exact ⟨le_rfl, by omega⟩
  · obtain ⟨digit, hdigit, rfl⟩ := List.mem_map.1 h
    have hlt := Nat.digits_lt_base (by omega) (List.mem_reverse.1 hdigit)
    exact ⟨by omega, by omega⟩

theorem decimal_ne_nil (n : ℕ) : decimal n ≠ [] := by
  rw [decimal]
  split_ifs with h
  · exact List.cons_ne_nil _ _
  · rw [Ne, List.map_eq_nil_iff, List.reverse_eq_nil_iff]
    exact Nat.digits_ne_nil_iff_ne_zero.2 h

theorem valueOf_decimal (n : ℕ) : valueOf (decimal n) = n := by
  rw [decimal]
  split_ifs with h
  · rw [h]
    rfl
  · have hunits : ((Nat.digits 10 n).map (48 + ·)).map (· - 48) = Nat.digits 10 n := by
      rw [List.map_map]
      refine (List.map_congr_left fun digit _ ↦ ?_).trans (List.map_id _)
      exact Nat.add_sub_cancel_left ..
    rw [valueOf, ← List.map_reverse, List.reverse_reverse, hunits, Nat.ofDigits_digits]

theorem valueOf_append_zeros (text : Text) (k : ℕ) :
    valueOf (text ++ List.replicate k 48) = valueOf text * 10 ^ k := by
  have hzeros : (List.replicate k 48).reverse.map (· - 48) = List.replicate k 0 := by
    rw [List.reverse_replicate, List.map_replicate]
  rw [valueOf, List.reverse_append, List.map_append, hzeros, Nat.ofDigits_append,
    Nat.ofDigits_replicate_zero, List.length_replicate, Nat.zero_add, Nat.mul_comm]
  rfl

theorem valueOf_zeros_append (text : Text) (k : ℕ) :
    valueOf (List.replicate k 48 ++ text) = valueOf text := by
  have hzeros : (List.replicate k 48).reverse.map (· - 48) = List.replicate k 0 := by
    rw [List.reverse_replicate, List.map_replicate]
  rw [valueOf, List.reverse_append, List.map_append, hzeros, Nat.ofDigits_append_replicate_zero]
  rfl

/-! ## Reading a number -/

/-- What stands before the exponent. -/
def mantissa (text : Text) : Text := text.takeWhile (· ≠ 101)

/-- The exponent behind the `e` of a number's text, `0` where there is none. -/
def exponent (text : Text) : ℤ :=
  match text.dropWhile (· ≠ 101) with
  | _ :: sign :: digits => if sign = 43 then valueOf digits else -valueOf digits
  | _ => 0

/-- The digits behind the point. -/
def fraction (text : Text) : Text := ((mantissa text).dropWhile (· ≠ 46)).drop 1

/-- All the digits, as one number. -/
def significand (text : Text) : ℕ :=
  valueOf ((mantissa text).takeWhile (· ≠ 46) ++ fraction text)

/-- The power of ten that the significand is multiplied by. -/
def scale (text : Text) : ℤ := exponent text - (fraction text).length

/-- A text splits where the condition first fails. -/
theorem span_append {p : ℕ → Bool} (front back : Text) (hfront : ∀ unit ∈ front, p unit = true)
    (hback : ∀ unit ∈ back.head?, p unit = false) :
    (front ++ back).takeWhile p = front ∧ (front ++ back).dropWhile p = back := by
  rw [List.takeWhile_append_of_pos hfront, List.dropWhile_append_of_pos hfront]
  cases back with
  | nil => exact ⟨List.append_nil _, rfl⟩
  | cons unit back =>
    have hstop := hback unit rfl
    rw [List.takeWhile_cons_of_neg (by rw [hstop]; exact Bool.false_ne_true),
      List.dropWhile_cons_of_neg (by rw [hstop]; exact Bool.false_ne_true)]
    exact ⟨List.append_nil _, rfl⟩

/-- Digits have no point and no exponent. -/
theorem digit_ne {unit : ℕ} (h : IsDigit unit) :
    decide (unit ≠ 46) = true ∧ decide (unit ≠ 101) = true := by
  rw [IsDigit] at h
  exact ⟨decide_eq_true (by omega), decide_eq_true (by omega)⟩

/-- Nothing, or an exponent. -/
def IsExponent (tail : Text) : Prop := ∀ unit ∈ tail.head?, unit = 101

section Read

variable (front whole rest tail : Text) (htail : IsExponent tail)

include htail

/-- What stands before the exponent, and the exponent. -/
theorem read_exponent (hfront : ∀ unit ∈ front, decide (unit ≠ 101) = true) :
    mantissa (front ++ tail) = front ∧ exponent (front ++ tail) = exponent tail := by
  have hback : ∀ unit ∈ tail.head?, decide (unit ≠ 101) = false := by
    intro unit hunit
    exact decide_eq_false (not_not.2 (htail unit hunit))
  obtain ⟨htake, hdrop⟩ := span_append front tail hfront hback
  obtain ⟨_, hdrop'⟩ := span_append [] tail nofun hback
  rw [List.nil_append] at hdrop'
  rw [mantissa, exponent, exponent, htake, hdrop, hdrop']
  exact ⟨rfl, rfl⟩

/-- A number without a point. -/
theorem read_whole (hwhole : ∀ unit ∈ whole, IsDigit unit) :
    significand (whole ++ tail) = valueOf whole ∧ scale (whole ++ tail) = exponent tail := by
  obtain ⟨hmantissa, hexponent⟩ := read_exponent whole tail htail
    fun unit h ↦ (digit_ne (hwhole unit h)).2
  obtain ⟨htake, hdrop⟩ := span_append whole [] (fun unit h ↦ (digit_ne (hwhole unit h)).1) nofun
  rw [List.append_nil] at htake hdrop
  rw [significand, scale, fraction, hmantissa, hexponent, htake, hdrop]
  refine ⟨by rw [List.drop_nil, List.append_nil], ?_⟩
  rw [List.drop_nil, List.length_nil, Nat.cast_zero, sub_zero]

/-- A number with a point. -/
theorem read_point (hwhole : ∀ unit ∈ whole, IsDigit unit) (hrest : ∀ unit ∈ rest, IsDigit unit) :
    significand (whole ++ 46 :: (rest ++ tail)) = valueOf (whole ++ rest) ∧
      scale (whole ++ 46 :: (rest ++ tail)) = exponent tail - rest.length := by
  have hfront : ∀ unit ∈ whole ++ 46 :: rest, decide (unit ≠ 101) = true := by
    intro unit hunit
    rcases List.mem_append.1 hunit with hunit | hunit
    · exact (digit_ne (hwhole unit hunit)).2
    rcases List.mem_cons.1 hunit with rfl | hunit
    · rfl
    · exact (digit_ne (hrest unit hunit)).2
  have hsplit : whole ++ 46 :: (rest ++ tail) = (whole ++ 46 :: rest) ++ tail := by
    rw [List.append_assoc, List.cons_append]
  obtain ⟨hmantissa, hexponent⟩ := read_exponent (whole ++ 46 :: rest) tail htail hfront
  obtain ⟨htake, hdrop⟩ := span_append whole (46 :: rest)
    (fun unit h ↦ (digit_ne (hwhole unit h)).1) (by rintro _ ⟨⟩; rfl)
  rw [hsplit, significand, scale, fraction, hmantissa, hexponent, htake, hdrop]
  exact ⟨rfl, rfl⟩

end Read

theorem exponent_nil : exponent [] = 0 := rfl

theorem isExponent_exponentText (n : ℤ) : IsExponent (exponentText n) := by
  rintro _ ⟨⟩
  rfl

theorem exponent_exponentText (n : ℤ) : exponent (exponentText n) = n := by
  have hdrop : (exponentText n).dropWhile (· ≠ 101) = exponentText n := rfl
  rw [exponent, hdrop, exponentText]
  dsimp only
  rw [valueOf_decimal]
  split_ifs <;> omega

/-- The digits of a number, and where its last one stands. -/
def place (digits : ℕ) (n : ℤ) : ℤ := n - (decimal digits).length

/-- **What the text of a number says.**  Its digits and the place of the last one, or the number
itself where it is whole and has not too many digits. -/
theorem read_unsigned (digits : ℕ) (n : ℤ) :
    (significand (unsigned digits n) = digits ∧ scale (unsigned digits n) = place digits n) ∨
      (0 ≤ place digits n ∧ significand (unsigned digits n) = digits * 10 ^ (place digits n).toNat ∧
        scale (unsigned digits n) = 0) := by
  have hs : ∀ unit ∈ decimal digits, IsDigit unit := fun _ ↦ isDigit_of_mem_decimal
  have hzeros : ∀ k, ∀ unit ∈ List.replicate k 48, IsDigit unit := by
    intro k unit hunit
    rw [List.eq_of_mem_replicate hunit]
    exact ⟨le_rfl, by omega⟩
  have hnil : IsExponent [] := nofun
  rw [unsigned, place]
  split_ifs with hrange hwhole hpoint hone
  · -- a whole number
    have hdigits : ∀ unit ∈ decimal digits ++ List.replicate (n - (decimal digits).length).toNat 48,
        IsDigit unit := by
      intro unit hunit
      rcases List.mem_append.1 hunit with hunit | hunit
      · exact hs unit hunit
      · exact hzeros _ unit hunit
    obtain ⟨hsignificand, hscale⟩ := read_whole _ [] hnil hdigits
    rw [List.append_nil] at hsignificand hscale
    refine .inr ⟨by omega, ?_, hscale⟩
    rw [hsignificand, valueOf_append_zeros, valueOf_decimal]
  · -- the point is between the digits
    obtain ⟨hsignificand, hscale⟩ := read_point ((decimal digits).take n.toNat)
      ((decimal digits).drop n.toNat) [] hnil (fun unit h ↦ hs unit (List.mem_of_mem_take h))
      (fun unit h ↦ hs unit (List.mem_of_mem_drop h))
    rw [List.append_nil] at hsignificand hscale
    refine .inl ⟨?_, ?_⟩
    · rw [hsignificand, List.take_append_drop, valueOf_decimal]
    · rw [hscale, List.length_drop, exponent_nil]
      omega
  · -- the point is before the digits
    have hrest : ∀ unit ∈ List.replicate (-n).toNat 48 ++ decimal digits, IsDigit unit := by
      intro unit hunit
      rcases List.mem_append.1 hunit with hunit | hunit
      · exact hzeros _ unit hunit
      · exact hs unit hunit
    obtain ⟨hsignificand, hscale⟩ := read_point [48]
      (List.replicate (-n).toNat 48 ++ decimal digits) [] hnil (hzeros 1) hrest
    rw [List.append_nil] at hsignificand hscale
    refine .inl ⟨?_, ?_⟩
    · have hvalue : valueOf ([48] ++ (List.replicate (-n).toNat 48 ++ decimal digits))
          = digits := by
        have hone : [48] = List.replicate 1 48 := rfl
        rw [hone, valueOf_zeros_append, valueOf_zeros_append, valueOf_decimal]
      exact hsignificand.trans hvalue
    · refine hscale.trans ?_
      rw [List.length_append, List.length_replicate, exponent_nil]
      omega
  · -- one digit and an exponent
    obtain ⟨hsignificand, hscale⟩ := read_whole (decimal digits) (exponentText (n - 1))
      (isExponent_exponentText _) hs
    refine .inl ⟨hsignificand.trans (valueOf_decimal digits), ?_⟩
    rw [hscale, exponent_exponentText, hone]
    rfl
  · -- more digits and an exponent
    obtain ⟨hsignificand, hscale⟩ := read_point ((decimal digits).take 1) ((decimal digits).drop 1)
      (exponentText (n - 1)) (isExponent_exponentText _)
      (fun unit h ↦ hs unit (List.mem_of_mem_take h))
        (fun unit h ↦ hs unit (List.mem_of_mem_drop h))
    have hpos := List.length_pos_iff.2 (decimal_ne_nil digits)
    refine .inl ⟨?_, ?_⟩
    · rw [hsignificand, List.take_append_drop, valueOf_decimal]
    · rw [hscale, exponent_exponentText, List.length_drop]
      omega

/-! ## Numbers can be told apart -/

theorem eq_zero_of_mul_pow {digits digits' k : ℕ} (h : digits % 10 ≠ 0)
    (heq : digits = digits' * 10 ^ k) : k = 0 := by
  cases k with
  | zero => rfl
  | succ k =>
    rw [pow_succ, ← mul_assoc] at heq
    omega

/-- Digits that do not end in a zero, and the zeros behind them. -/
theorem mul_pow_inj {digits digits' : ℕ} (h : digits % 10 ≠ 0) (h' : digits' % 10 ≠ 0) :
    ∀ {k l : ℕ}, digits * 10 ^ k = digits' * 10 ^ l → digits = digits' ∧ k = l := by
  intro k
  induction k with
  | zero =>
    intro l heq
    rw [pow_zero, mul_one] at heq
    obtain rfl := eq_zero_of_mul_pow h heq
    exact ⟨by rw [heq, pow_zero, mul_one], rfl⟩
  | succ k ih =>
    intro l heq
    cases l with
    | zero =>
      rw [pow_zero, mul_one] at heq
      cases eq_zero_of_mul_pow h' heq.symm
    | succ l =>
      rw [pow_succ, pow_succ, ← mul_assoc, ← mul_assoc] at heq
      obtain ⟨hdigits, hkl⟩ := ih (l := l) (by omega)
      exact ⟨hdigits, by rw [hkl]⟩

/-- **The text of a positive number determines it.** -/
theorem unsigned_inj {digits digits' : ℕ} {n n' : ℤ} (h : digits % 10 ≠ 0) (h' : digits' % 10 ≠ 0)
    (heq : unsigned digits n = unsigned digits' n') : digits = digits' ∧ n = n' := by
  have hplaces : digits = digits' ∧ place digits n = place digits' n' := by
    have hread := read_unsigned digits n
    have hread' := read_unsigned digits' n'
    rw [heq] at hread
    rcases hread with ⟨hd, hp⟩ | ⟨hpos, hd, hp⟩ <;>
      rcases hread' with ⟨hd', hp'⟩ | ⟨hpos', hd', hp'⟩
    · exact ⟨hd.symm.trans hd', hp.symm.trans hp'⟩
    · have hzero := eq_zero_of_mul_pow h (hd.symm.trans hd')
      rw [hzero, pow_zero, mul_one] at hd'
      exact ⟨hd.symm.trans hd', by omega⟩
    · have hzero := eq_zero_of_mul_pow h' (hd'.symm.trans hd)
      rw [hzero, pow_zero, mul_one] at hd
      exact ⟨hd.symm.trans hd', by omega⟩
    · obtain ⟨hdigits, hzeros⟩ := mul_pow_inj h h' (hd.symm.trans hd')
      exact ⟨hdigits, by omega⟩
  obtain ⟨rfl, hplace⟩ := hplaces
  rw [place, place] at hplace
  exact ⟨rfl, by omega⟩

/-- The units that the texts of numbers are made of. -/
def IsNumberUnit (unit : ℕ) : Prop :=
  IsDigit unit ∨ unit = 43 ∨ unit = 45 ∨ unit = 46 ∨ unit = 101

theorem isNumberUnit_exponentText {n : ℤ} {unit : ℕ} (h : unit ∈ exponentText n) :
    IsNumberUnit unit := by
  rw [exponentText, List.mem_cons, List.mem_cons] at h
  rcases h with rfl | rfl | h
  · exact .inr (.inr (.inr (.inr rfl)))
  · split_ifs
    · exact .inr (.inl rfl)
    · exact .inr (.inr (.inl rfl))
  · exact .inl (isDigit_of_mem_decimal h)

theorem isNumberUnit_unsigned {digits : ℕ} {n : ℤ} {unit : ℕ} (h : unit ∈ unsigned digits n) :
    IsNumberUnit unit := by
  have hs : unit ∈ decimal digits → IsNumberUnit unit := fun h ↦ .inl (isDigit_of_mem_decimal h)
  have hzeros : ∀ k, unit ∈ List.replicate k 48 → IsNumberUnit unit := by
    intro k hunit
    rw [List.eq_of_mem_replicate hunit]
    exact .inl ⟨le_rfl, by omega⟩
  have hpoint : unit = 46 → IsNumberUnit unit := fun h ↦ .inr (.inr (.inr (.inl h)))
  rw [unsigned] at h
  split_ifs at h
  · exact (List.mem_append.1 h).elim hs (hzeros _)
  · rcases List.mem_append.1 h with h | h
    · exact hs (List.mem_of_mem_take h)
    · exact (List.mem_cons.1 h).elim hpoint fun h ↦ hs (List.mem_of_mem_drop h)
  · rw [List.mem_cons, List.mem_cons] at h
    rcases h with rfl | h | h
    · exact .inl ⟨le_rfl, by omega⟩
    · exact hpoint h
    · exact (List.mem_append.1 h).elim (hzeros _) hs
  · exact (List.mem_append.1 h).elim hs isNumberUnit_exponentText
  · rcases List.mem_append.1 h with h | h
    · exact hs (List.mem_of_mem_take h)
    · rcases List.mem_cons.1 h with h | h
      · exact hpoint h
      · exact (List.mem_append.1 h).elim (fun h ↦ hs (List.mem_of_mem_drop h))
          isNumberUnit_exponentText

/-- The text of a positive number starts with a digit. -/
theorem exists_unsigned (digits : ℕ) (n : ℤ) :
    ∃ unit rest, unsigned digits n = unit :: rest ∧ IsDigit unit := by
  obtain ⟨unit, rest, hdecimal⟩ := List.exists_cons_of_ne_nil (decimal_ne_nil digits)
  have hunit : IsDigit unit := by
    refine isDigit_of_mem_decimal (n := digits) ?_
    rw [hdecimal]
    exact List.mem_cons_self ..
  rw [unsigned, hdecimal]
  split_ifs with hrange hwhole hpoint hone
  · exact ⟨unit, _, rfl, hunit⟩
  · obtain ⟨k, hk⟩ : ∃ k, n.toNat = k + 1 := ⟨n.toNat - 1, by omega⟩
    rw [hk]
    exact ⟨unit, _, rfl, hunit⟩
  · exact ⟨48, _, rfl, le_rfl, by omega⟩
  · exact ⟨unit, _, rfl, hunit⟩
  · exact ⟨unit, _, rfl, hunit⟩

theorem Number.isNumberUnit {n : Number} {unit : ℕ} (h : unit ∈ n.toString) :
    IsNumberUnit unit := by
  cases n with
  | zero =>
    rw [List.mem_singleton.1 h]
    exact .inl ⟨le_rfl, by omega⟩
  | nonzero negative digits point hdigits =>
    rcases List.mem_append.1 h with h | h
    · split at h
      · rw [List.mem_singleton.1 h]
        exact .inr (.inr (.inl rfl))
      · cases h
    · exact isNumberUnit_unsigned h

theorem unsigned_ne_zero {digits : ℕ} {n : ℤ} (h : digits % 10 ≠ 0) : unsigned digits n ≠ [48] := by
  intro heq
  have hzero : significand [48] = 0 := rfl
  have hpos : 0 < 10 ^ (place digits n).toNat := Nat.pow_pos (by omega)
  rcases read_unsigned digits n with ⟨hread, _⟩ | ⟨_, hread, _⟩ <;> rw [heq, hzero] at hread
  · omega
  · rcases Nat.mul_eq_zero.1 hread.symm with hdigits | hpow
    · omega
    · omega

/-- **The text of a number determines it.** -/
theorem Number.toString_injective : Function.Injective Number.toString := by
  have hminus : ∀ {digits : ℕ} {n : ℤ} {rest : Text}, unsigned digits n ≠ 45 :: rest := by
    intro digits n rest heq
    obtain ⟨unit, rest', hunsigned, hunit⟩ := exists_unsigned digits n
    rw [hunsigned, List.cons.injEq] at heq
    rw [heq.1, IsDigit] at hunit
    omega
  intro a b h
  cases a with
  | zero =>
    cases b with
    | zero => rfl
    | nonzero negative digits point hdigits =>
      cases negative with
      | true => cases (List.cons.inj h).1
      | false => exact absurd h.symm (unsigned_ne_zero hdigits)
  | nonzero negative digits point hdigits =>
    cases b with
    | zero =>
      cases negative with
      | true => cases (List.cons.inj h).1
      | false => exact absurd h (unsigned_ne_zero hdigits)
    | nonzero negative' digits' point' hdigits' =>
      have hsame : negative = negative' ∧ unsigned digits point = unsigned digits' point' := by
        cases negative <;> cases negative'
        · exact ⟨rfl, h⟩
        · exact absurd h hminus
        · exact absurd h.symm hminus
        · exact ⟨rfl, (List.cons.inj h).2⟩
      obtain ⟨rfl, hunsigned⟩ := hsame
      obtain ⟨rfl, rfl⟩ := unsigned_inj hdigits hdigits' hunsigned
      rfl

end NumberText
