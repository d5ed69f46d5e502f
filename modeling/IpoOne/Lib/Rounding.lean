import Mathlib

/-!
# A pot owned in shares, with rounding

A pot of `P` assets is owned in `T` shares.  Shares are worth `P / T` assets each, and since both
sides are integers every conversion has to be rounded one way or the other.  This file has the
arithmetic of that, on natural numbers and with every comparison cleared of denominators.

* `quoteUp s P T` is the value of `s` of the `T` shares, rounded up.  `quoteUp_le_iff` is its
  Galois connection and the only thing any later proof uses about it.
* `P' * T ≤ P * T'` says that a share is worth no more in the pot `(P', T')` than in `(P, T)`.
  `burn_price` and `mint_price` say that the two ways the pot changes, burning shares for their
  rounded-up value and minting shares rounded up, never raise the price, and
  `quoteUp_le_of_price` that a lower price never raises a quote.
* `quoteUp_add_le` is the account of the one holder whose shares changed: while the shares of all
  the others stay put and the price does not rise, the holder's quote moves by at least as much as
  the pot does.
* `burn_solvent` and `mint_solvent` keep the pot at one asset per share or more, which is the
  invariant that makes a quote of a nonzero holding nonzero.
* `quoteUp_mint_eq_iff` and `quoteUp_mint_le_iff` say when the rounding of a loan is visible in the
  quote of its holder.
-/

set_option autoImplicit false

namespace Rounding

/-- The value of `s` of `T` shares in a pot of `P` assets, rounded up. -/
def quoteUp (s P T : ℕ) : ℕ := (s * P) ⌈/⌉ T

theorem quoteUp_le_iff {s P T k : ℕ} (hT : 0 < T) : quoteUp s P T ≤ k ↔ s * P ≤ T * k :=
  ceilDiv_le_iff_le_mul hT

theorem le_mul_quoteUp {s P T : ℕ} (hT : 0 < T) : s * P ≤ T * quoteUp s P T :=
  (quoteUp_le_iff hT).1 le_rfl

@[simp] theorem quoteUp_zero (P T : ℕ) : quoteUp 0 P T = 0 := by
  simp [quoteUp]

/-- Rounding up is rounding down and adding one unless the division is exact. -/
theorem quoteUp_eq (s P : ℕ) {T : ℕ} (hT : 0 < T) :
    quoteUp s P T = s * P / T + if s * P % T = 0 then 0 else 1 := by
  have hdiv := Nat.div_add_mod (s * P) T
  have hmod := Nat.mod_lt (s * P) hT
  apply le_antisymm
  · rw [quoteUp_le_iff hT, Nat.mul_add]
    split
    · omega
    · rw [Nat.mul_one]; omega
  · by_contra hlt
    have hle : quoteUp s P T ≤ s * P / T + (if s * P % T = 0 then 0 else 1) - 1 := by omega
    have hmul := Nat.mul_le_mul_left T hle
    have hself := le_mul_quoteUp (s := s) (P := P) hT
    split at hlt
    · -- an exact division: the rounded-up value would be below the exact one
      have hpos : 0 < s * P / T := by omega
      obtain ⟨q, hq⟩ : ∃ q, s * P / T = q + 1 := ⟨s * P / T - 1, by omega⟩
      rename_i h0
      rw [if_pos h0, hq, Nat.add_zero, Nat.add_sub_cancel] at hmul
      rw [hq, Nat.mul_add, Nat.mul_one] at hdiv
      omega
    · rename_i h0
      rw [if_neg h0, Nat.add_sub_cancel] at hmul
      omega

/-- The holder of every share owns the whole pot. -/
theorem quoteUp_self (P : ℕ) {T : ℕ} (hT : 0 < T) : quoteUp T P T = P := by
  apply le_antisymm
  · exact (quoteUp_le_iff hT).2 le_rfl
  · exact Nat.le_of_mul_le_mul_left (le_mul_quoteUp hT) hT

/-- No holding is quoted above the whole pot. -/
theorem quoteUp_le_pot {s P T : ℕ} (hs : s ≤ T) (hT : 0 < T) : quoteUp s P T ≤ P :=
  (quoteUp_le_iff hT).2 (Nat.mul_le_mul_right P hs)

/-- At one asset per share or more, a holding is quoted at its number of shares or more. -/
theorem le_quoteUp {s P T : ℕ} (hTP : T ≤ P) (hT : 0 < T) : s ≤ quoteUp s P T := by
  have h := le_mul_quoteUp (s := s) (P := P) hT
  have h' : T * s ≤ T * quoteUp s P T := by nlinarith [Nat.mul_le_mul_left s hTP]
  exact Nat.le_of_mul_le_mul_left h' hT

/-- At one asset per share a holding is quoted at its number of shares. -/
theorem quoteUp_par (s : ℕ) {T : ℕ} (hT : 0 < T) : quoteUp s T T = s :=
  le_antisymm ((quoteUp_le_iff hT).2 (Nat.mul_comm s T).le) (le_quoteUp le_rfl hT)

/-- A lower price never raises a quote. -/
theorem quoteUp_le_of_price {s P T P' T' : ℕ} (hT : 0 < T) (hT' : 0 < T')
    (hprice : P' * T ≤ P * T') : quoteUp s P' T' ≤ quoteUp s P T := by
  rw [quoteUp_le_iff hT']
  have hq := le_mul_quoteUp (s := s) (P := P) hT
  have h : T * (s * P') ≤ T * (T' * quoteUp s P T) := by
    calc T * (s * P') = s * (P' * T) := by ring
      _ ≤ s * (P * T') := Nat.mul_le_mul_left s hprice
      _ = T' * (s * P) := by ring
      _ ≤ T' * (T * quoteUp s P T) := Nat.mul_le_mul_left T' hq
      _ = T * (T' * quoteUp s P T) := by ring
  exact Nat.le_of_mul_le_mul_left h hT

/-- **The account of the one holder who moved.**  `o` shares belong to the others; the holder goes
from `s` to `s'` shares and the pot from `P` to `P'`.  If the price does not rise, the holder's
quote changes by at least what the pot changes by. -/
theorem quoteUp_add_le {o s s' P P' : ℕ} (hT : 0 < o + s) (hT' : 0 < o + s')
    (hprice : P' * (o + s) ≤ P * (o + s')) :
    quoteUp s P (o + s) + P' ≤ quoteUp s' P' (o + s') + P := by
  have hq' := le_mul_quoteUp (s := s') (P := P') hT'
  -- the pot has not grown past what the others are owed plus the holder's new quote
  have hroom : P' ≤ quoteUp s' P' (o + s') + P := by
    have h : (o + s') * P' ≤ (o + s') * (quoteUp s' P' (o + s') + P) := by nlinarith
    exact Nat.le_of_mul_le_mul_left h hT'
  obtain ⟨k, hk⟩ : ∃ k, quoteUp s' P' (o + s') + P = k + P' :=
    ⟨quoteUp s' P' (o + s') + P - P', by omega⟩
  rw [hk]
  refine Nat.add_le_add_right ((quoteUp_le_iff hT).2 ?_) P'
  have h : (o + s') * (s * P) ≤ (o + s') * ((o + s) * k) := by
    have hkmul : (o + s') * (quoteUp s' P' (o + s') + P) = (o + s') * (k + P') := by rw [hk]
    nlinarith
  exact Nat.le_of_mul_le_mul_left h hT'

/-! ## Burning shares for their rounded-up value -/

theorem burn_price {b P T : ℕ} (hT : 0 < T) (hb : b ≤ T) :
    (P - quoteUp b P T) * T ≤ P * (T - b) := by
  have hq := le_mul_quoteUp (s := b) (P := P) hT
  have hle := quoteUp_le_pot (P := P) hb hT
  obtain ⟨P', hP'⟩ : ∃ P', P = P' + quoteUp b P T := ⟨P - quoteUp b P T, by omega⟩
  obtain ⟨T', hT'⟩ : ∃ T', T = T' + b := ⟨T - b, by omega⟩
  have h1 : P - quoteUp b P T = P' := by omega
  have h2 : T - b = T' := by omega
  rw [h1, h2]
  nlinarith

theorem burn_solvent {b P T : ℕ} (hT : 0 < T) (hb : b ≤ T) (hTP : T ≤ P) :
    T - b ≤ P - quoteUp b P T := by
  have h : quoteUp b P T ≤ P - (T - b) := by
    rw [quoteUp_le_iff hT]
    obtain ⟨e, he⟩ : ∃ e, P = T + e := ⟨P - T, by omega⟩
    have hsub : P - (T - b) = e + b := by omega
    rw [hsub, he]
    nlinarith [Nat.mul_le_mul_right e hb]
  omega

/-- Paying `a` for shares rounded down never costs the payer more than `a`. -/
theorem quoteUp_floor_le (a : ℕ) {P T : ℕ} (hT : 0 < T) :
    quoteUp (a * T / P) P T ≤ a := by
  rw [quoteUp_le_iff hT, Nat.mul_comm T a]
  exact Nat.div_mul_le_self (a * T) P

/-- Paying less than a holding's quote burns less than the holding. -/
theorem floor_lt_of_lt_quoteUp {a s P T : ℕ} (hP : 0 < P) (hT : 0 < T)
    (h : a < quoteUp s P T) : a * T / P < s := by
  rw [Nat.div_lt_iff_lt_mul hP]
  by_contra hle
  have : quoteUp s P T ≤ a := by
    rw [quoteUp_le_iff hT, Nat.mul_comm T a]
    omega
  omega

/-! ## Minting shares rounded up -/

theorem mint_price {a P T : ℕ} (hP : 0 < P) :
    (P + a) * T ≤ P * (T + quoteUp a T P) := by
  have h := le_mul_quoteUp (s := a) (P := T) hP
  nlinarith

theorem mint_solvent {a P T : ℕ} (hP : 0 < P) (hTP : T ≤ P) :
    T + quoteUp a T P ≤ P + a := by
  have h : quoteUp a T P ≤ a := by
    rw [quoteUp_le_iff hP, Nat.mul_comm P a]
    exact Nat.mul_le_mul_left a hTP
  omega

/-- **When a fresh holder is quoted exactly what it paid in.**  Minting rounded up and quoting
rounded up again never quotes less than `a`, and quotes `a` itself exactly when the pot divides
`a * T`, that is when no rounding took place. -/
theorem quoteUp_mint_eq_iff {a P T : ℕ} (hP : 0 < P) (hT : 0 < T) :
    quoteUp (quoteUp a T P) (P + a) (T + quoteUp a T P) = a ↔ P ∣ a * T := by
  have hm := le_mul_quoteUp (s := a) (P := T) hP
  have hT' : 0 < T + quoteUp a T P := by omega
  have hge : a ≤ quoteUp (quoteUp a T P) (P + a) (T + quoteUp a T P) := by
    have h := le_mul_quoteUp (s := quoteUp a T P) (P := P + a) hT'
    have h' : (T + quoteUp a T P) * a ≤
        (T + quoteUp a T P) * quoteUp (quoteUp a T P) (P + a) (T + quoteUp a T P) := by
      nlinarith
    exact Nat.le_of_mul_le_mul_left h' hT'
  constructor
  · intro h
    have hle := (quoteUp_le_iff hT').1 h.le
    exact ⟨quoteUp a T P, by nlinarith⟩
  · rintro ⟨m, hPm⟩
    have hq : quoteUp a T P = m := by
      apply le_antisymm
      · exact (quoteUp_le_iff hP).2 hPm.le
      · rw [hPm] at hm
        exact Nat.le_of_mul_le_mul_left hm hP
    rw [hq] at hge hT' ⊢
    refine le_antisymm ((quoteUp_le_iff hT').2 ?_) hge
    nlinarith

/-- What rounding up adds when `a` assets are turned into shares: `P` times the shares minted, less
the exact `a * T`. -/
def mintExcess (a P T : ℕ) : ℕ := P * quoteUp a T P - a * T

theorem mul_quoteUp_eq_add_mintExcess {a P T : ℕ} (hP : 0 < P) :
    P * quoteUp a T P = a * T + mintExcess a P T := by
  have h := le_mul_quoteUp (s := a) (P := T) hP
  unfold mintExcess
  omega

/-- The rounding of a loan of `a` assets to the holder of `s` shares stays within the limit: what it
adds to the debt, in the part that falls on the other holders, fits into the room between the exact
debt of the holder and the limit. -/
def MintWithin (s P T a limit : ℕ) : Prop :=
  T = 0 ∨ mintExcess a P T * (T - s) ≤
    ((limit - a) * T - s * P) * (T + quoteUp a T P)

instance (s P T a limit : ℕ) : Decidable (MintWithin s P T a limit) :=
  inferInstanceAs (Decidable (_ ∨ _))

/-- Minting for `a` assets adds at least `a` to the quote of the holder. -/
theorem le_quoteUp_mint {s P T a : ℕ} (hP : 0 < P) (hT : 0 < T) (hs : s ≤ T) :
    quoteUp s P T + a ≤ quoteUp (s + quoteUp a T P) (P + a) (T + quoteUp a T P) := by
  have hprice := mint_price (a := a) (T := T) hP
  generalize quoteUp a T P = d at hprice ⊢
  obtain ⟨o, rfl⟩ : ∃ o, T = o + s := ⟨T - s, by omega⟩
  rw [add_assoc] at hprice ⊢
  have h := quoteUp_add_le hT (by omega) hprice
  omega

/-- A loan whose shares need no rounding stays within every limit. -/
theorem mintWithin_of_dvd {s P T a : ℕ} (limit : ℕ) (h : P ∣ a * T) :
    MintWithin s P T a limit := by
  right
  have hexcess : mintExcess a P T = 0 := by
    rcases Nat.eq_zero_or_pos P with rfl | hP
    · simp [mintExcess]
    · obtain ⟨d, hd⟩ := h
      have hquote : quoteUp a T P ≤ d := (quoteUp_le_iff hP).2 hd.le
      have := Nat.mul_le_mul_left P hquote
      unfold mintExcess
      omega
  rw [hexcess, Nat.zero_mul]
  exact Nat.zero_le _

/-- **When a holder's quote stays within a limit after a loan.**  The quote before and the loan are
within it, and so is the quote afterwards exactly if the rounding is. -/
theorem quoteUp_mint_le_iff {s P T a limit : ℕ} (hP : 0 < P) (hT : 0 < T) (hs : s ≤ T)
    (hlimit : quoteUp s P T + a ≤ limit) :
    quoteUp (s + quoteUp a T P) (P + a) (T + quoteUp a T P) ≤ limit ↔
      MintWithin s P T a limit := by
  have hmint := mul_quoteUp_eq_add_mintExcess (a := a) (T := T) hP
  rw [MintWithin, or_iff_right hT.ne', quoteUp_le_iff (by omega)]
  generalize quoteUp a T P = d at hmint ⊢
  generalize mintExcess a P T = e at hmint ⊢
  -- `x` is what the limit leaves for the holder's old shares, `r` the room above their exact value
  obtain ⟨x, rfl⟩ : ∃ x, limit = a + x := ⟨limit - a, by omega⟩
  obtain ⟨o, rfl⟩ : ∃ o, T = s + o := ⟨T - s, by omega⟩
  have hexact : s * P ≤ (s + o) * x := (quoteUp_le_iff hT).1 (by omega)
  obtain ⟨r, hr⟩ : ∃ r, (s + o) * x = s * P + r := ⟨(s + o) * x - s * P, by omega⟩
  rw [Nat.add_sub_cancel_left, Nat.add_sub_cancel_left, Nat.mul_comm x, hr,
    Nat.add_sub_cancel_left]
  have hleft : (s + d) * (P + a) = (s + o + d) * a + (s * P + s * a + e) := by
    linear_combination hmint
  have hroom : (s + o) * (s * P + s * a + e) + r * (s + o + d) =
      (s + o) * ((s + o + d) * x) + e * o := by
    rw [Nat.mul_left_comm (s + o), hr]
    linear_combination s * hmint.symm
  rw [hleft, Nat.mul_add (s + o + d), Nat.add_le_add_iff_left]
  constructor
  · intro h
    have := Nat.mul_le_mul_left (s + o) h
    omega
  · intro h
    refine Nat.le_of_mul_le_mul_left ?_ hT
    omega

/-- The shares for a loan of `a` assets: as many as assets in an empty pot, and otherwise rounded
up. -/
def Mints (P T a minted : ℕ) : Prop :=
  (T = 0 ∧ P = 0 ∧ minted = a) ∨ (0 < T ∧ 0 < P ∧ minted = quoteUp a T P)

section Loan

variable {s P T a minted : ℕ}

theorem le_quoteUp_loan (hs : s ≤ T) (ha : 0 < a) (hminted : Mints P T a minted) :
    quoteUp s P T + a ≤ quoteUp (s + minted) (P + a) (T + minted) := by
  rcases hminted with ⟨rfl, rfl, rfl⟩ | ⟨hT, hP, rfl⟩
  · have hzero : s = 0 := by omega
    rw [hzero, quoteUp_zero, Nat.zero_add, quoteUp_self _ ha]
  · exact le_quoteUp_mint hP hT hs

theorem quoteUp_loan_le_iff {limit : ℕ} (hs : s ≤ T) (ha : 0 < a) (hminted : Mints P T a minted)
    (hlimit : quoteUp s P T + a ≤ limit) :
    quoteUp (s + minted) (P + a) (T + minted) ≤ limit ↔ MintWithin s P T a limit := by
  rcases hminted with ⟨rfl, rfl, rfl⟩ | ⟨hT, hP, rfl⟩
  · -- the first holder owes exactly the loan
    have hzero : s = 0 := by omega
    rw [hzero, Nat.zero_add, quoteUp_self _ ha]
    exact iff_of_true (by omega) (.inl rfl)
  · exact quoteUp_mint_le_iff hP hT hs hlimit

end Loan

end Rounding
