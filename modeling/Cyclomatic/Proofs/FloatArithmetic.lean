import Cyclomatic.Proofs.Rounding
import Cyclomatic.Number.Num
import Mathlib.Tactic.LinearCombination

/-!
Binary64 arithmetic as rounding of exact rationals. Each operation on finite values is the
rounding of the exact rational result, where a zero result may carry either sign. Comparisons
are exact, rounding to an integer is the nearest integer with ties to even, and the conversions
between integers and binary64 values fail exactly beyond the overflow bound.
-/

namespace Cyclomatic

namespace Binary64

/-- `x` is the rounding of `r`: `roundRat r`, or, when `r` is zero, a zero of either sign. -/
def Rounds (r : ℚ) (x : Binary64) : Prop :=
  x = roundRat r ∨ (r = 0 ∧ ∃ s, x = .finite s 0 minExp)

theorem roundRat_zero : roundRat 0 = .finite false 0 minExp := by
  decide

theorem overflowBound_pos : (0 : ℚ) < overflowBound := by
  rw [overflowBound]
  positivity

namespace Rounds

variable {r r₁ r₂ : ℚ} {x x₁ x₂ : Binary64}

theorem roundsToNearestEven (h : Rounds r x) (small : |r| < overflowBound) :
    RoundsToNearestEven r x := by
  rcases h with rfl | ⟨rfl, s, rfl⟩
  · exact roundRat_roundsToNearestEven small
  · refine ⟨⟨by norm_num, le_rfl, by decide, .inr rfl⟩, fun y _ => ?_, fun _ _ _ _ => rfl⟩
    cases s <;> simp [toRat]

theorem toRat_eq (h : Rounds r x) : x.toRat = (roundRat r).toRat := by
  rcases h with rfl | ⟨rfl, s, rfl⟩
  · rfl
  · rw [roundRat_zero]
    cases s <;> simp [toRat]

theorem toRat_le (h₁ : Rounds r₁ x₁) (h₂ : Rounds r₂ x₂) (le : r₁ ≤ r₂)
    (small₁ : |r₁| < overflowBound) (small₂ : |r₂| < overflowBound) : x₁.toRat ≤ x₂.toRat := by
  rw [h₁.toRat_eq, h₂.toRat_eq]
  exact toRat_roundRat_le le small₁ small₂

theorem eq_inf (h : Rounds r x) (big : overflowBound ≤ |r|) : x = .inf (decide (r < 0)) := by
  rcases h with rfl | ⟨rfl, _, _⟩
  · exact roundRat_of_overflow big
  · rw [abs_zero] at big
    exact absurd big (not_le.mpr overflowBound_pos)

theorem canonical (h : Rounds r x) (small : |r| < overflowBound) : Canonical x :=
  (h.roundsToNearestEven small).canonical

theorem canonical_or_inf (h : Rounds r x) : Canonical x ∨ x = .inf (decide (r < 0)) := by
  by_cases small : |r| < overflowBound
  · exact .inl (h.canonical small)
  · exact .inr (h.eq_inf (not_lt.mp small))

variable {y : Binary64}

theorem le_toRat (h : Rounds r x) (hy : Canonical y) (le : y.toRat ≤ r)
    (small : |r| < overflowBound) : y.toRat ≤ x.toRat := by
  have := Rounds.toRat_le (.inl rfl) h le (abs_toRat_lt_overflowBound hy) small
  rwa [toRat_roundRat_toRat hy] at this

theorem toRat_le_of_le (h : Rounds r x) (hy : Canonical y) (le : r ≤ y.toRat)
    (small : |r| < overflowBound) : x.toRat ≤ y.toRat := by
  have := Rounds.toRat_le h (.inl rfl) le small (abs_toRat_lt_overflowBound hy)
  rwa [toRat_roundRat_toRat hy] at this

/-- A rational between two values of the format rounds to a value between them. -/
theorem between (h : Rounds r x) {a b : Binary64} (ha : Canonical a) (hb : Canonical b)
    (lo : a.toRat ≤ r) (hi : r ≤ b.toRat) :
    Canonical x ∧ a.toRat ≤ x.toRat ∧ x.toRat ≤ b.toRat := by
  have small : |r| < overflowBound := abs_lt.mpr
    ⟨by linarith [(abs_lt.mp (abs_toRat_lt_overflowBound ha)).1],
      by linarith [(abs_lt.mp (abs_toRat_lt_overflowBound hb)).2]⟩
  exact ⟨h.canonical small, h.le_toRat ha lo small, h.toRat_le_of_le hb hi small⟩

end Rounds

theorem signed_natAbs (n : ℤ) : (if decide (n < 0) then -(n.natAbs : ℚ) else n.natAbs) = n := by
  by_cases negative : n < 0
  · simp [negative, abs_of_neg negative]
  · simp [negative, abs_of_nonneg (not_lt.mp negative)]

theorem roundScaled_rounds (z : Bool) (n k : ℤ) : Rounds (n * 2 ^ k) (roundScaled z n k) := by
  unfold roundScaled
  split
  · next zero => exact .inr ⟨by simp [zero], z, rfl⟩
  · next nonzero =>
    left
    have magnitude : 0 < n.natAbs := Int.natAbs_pos.mpr nonzero
    split
    · next nonneg =>
      rw [round_eq_roundRat _ (Nat.mul_pos magnitude (by rw [Nat.pow_eq]; positivity)) one_pos]
      congr 1
      rw [Nat.cast_mul, ← two_zpow_of_nonneg nonneg, Nat.cast_one, div_one, ← signed_natAbs n]
      split <;> ring
    · next negative =>
      rw [round_eq_roundRat _ magnitude (by rw [Nat.pow_eq]; positivity)]
      congr 1
      rw [two_zpow_of_neg (by omega), ← signed_natAbs n]
      split <;> ring

theorem scaled_value (s : Bool) (m : Nat) (e : Int) :
    ((scaled (.finite s m e)).1 : ℚ) * 2 ^ (scaled (.finite s m e)).2 = toRat (.finite s m e) := by
  cases s <;> simp [scaled, toRat]

theorem lift_scaled (n : ℤ) {j k : ℤ} (le : j ≤ k) :
    ((n * Int.pow 2 (k - j).toNat : ℤ) : ℚ) * 2 ^ j = n * 2 ^ k := by
  rw [Int.cast_mul, Int.pow_eq, Int.cast_pow, Int.cast_ofNat, ← zpow_natCast,
    Int.toNat_of_nonneg (by omega), mul_assoc, ← zpow_add₀ (by norm_num), sub_add_cancel]

theorem sign_of_scaled {d k : ℤ} {v : ℚ} (value : (d : ℚ) * 2 ^ k = v) :
    (d < 0 ↔ v < 0) ∧ (d = 0 ↔ v = 0) := by
  have pos : (0 : ℚ) < 2 ^ k := zpow_pos (by norm_num) k
  subst value
  constructor
  · constructor
    · intro negative
      exact mul_neg_of_neg_of_pos (by exact_mod_cast negative) pos
    · intro negative
      by_contra nonneg
      have : (0 : ℚ) ≤ d := by exact_mod_cast not_lt.mp nonneg
      exact absurd negative (not_lt.mpr (mul_nonneg this pos.le))
  · simp [pos.ne']

theorem sumScaled_value (s : Bool) (m : Nat) (e : Int) (t : Bool) (m' : Nat) (e' : Int) :
    ((sumScaled (.finite s m e) (.finite t m' e')).1 : ℚ) *
        2 ^ (sumScaled (.finite s m e) (.finite t m' e')).2 =
      toRat (.finite s m e) + toRat (.finite t m' e') := by
  -- both terms are brought to the smaller exponent
  rw [← scaled_value s m e, ← scaled_value t m' e']
  simp only [sumScaled, scaled]
  rw [Int.cast_add, add_mul, lift_scaled _ (min_le_left e e'), lift_scaled _ (min_le_right e e')]

theorem add_rounds (s : Bool) (m : Nat) (e : Int) (t : Bool) (m' : Nat) (e' : Int) :
    Rounds (toRat (.finite s m e) + toRat (.finite t m' e'))
      (add (.finite s m e) (.finite t m' e')) := by
  rw [← sumScaled_value]
  exact roundScaled_rounds (s && t) _ _

theorem sub_rounds (s : Bool) (m : Nat) (e : Int) (t : Bool) (m' : Nat) (e' : Int) :
    Rounds (toRat (.finite s m e) - toRat (.finite t m' e'))
      (sub (.finite s m e) (.finite t m' e')) := by
  have := add_rounds s m e (!t) m' e'
  rw [show toRat (.finite (!t) m' e') = -toRat (.finite t m' e') from toRat_neg (.finite t m' e'),
    ← sub_eq_add_neg] at this
  exact this

theorem mul_rounds (s : Bool) (m : Nat) (e : Int) (t : Bool) (m' : Nat) (e' : Int) :
    Rounds (toRat (.finite s m e) * toRat (.finite t m' e'))
      (mul (.finite s m e) (.finite t m' e')) := by
  have exact : toRat (.finite s m e) * toRat (.finite t m' e') =
      ((if s != t then -((m * m' : Nat) : Int) else (m * m' : Nat) : ℤ) : ℚ) * 2 ^ (e + e') := by
    rw [zpow_add₀ (by norm_num : (2 : ℚ) ≠ 0)]
    cases s <;> cases t <;> simp [toRat] <;> ring
  rw [exact]
  exact roundScaled_rounds (s != t) _ _

theorem div_rounds (s : Bool) (m : Nat) (e : Int) (t : Bool) {m' : Nat} (e' : Int)
    (nonzero : m' ≠ 0) :
    Rounds (toRat (.finite s m e) / toRat (.finite t m' e'))
      (div (.finite s m e) (.finite t m' e')) := by
  have two : (2 : ℚ) ≠ 0 := by norm_num
  have divisor : (0 : ℚ) < m' := by exact_mod_cast Nat.pos_of_ne_zero nonzero
  simp only [div, nonzero, if_false]
  rcases Nat.eq_zero_or_pos m with zero | positive
  · subst zero
    refine .inr ⟨by simp [toRat], s != t, ?_⟩
    split <;> simp [round]
  · left
    -- the quotient of the significands, scaled by the difference of the exponents
    have exact : toRat (.finite s m e) / toRat (.finite t m' e') =
        (if (s != t) then -(m : ℚ) else m) / m' * 2 ^ (e - e') := by
      rw [zpow_sub₀ two]
      cases s <;> cases t <;> simp [toRat] <;> field_simp
    rw [exact]
    split
    · next nonneg =>
      rw [round_eq_roundRat _ (Nat.mul_pos positive (by rw [Nat.pow_eq]; positivity))
        (Nat.pos_of_ne_zero nonzero)]
      congr 1
      rw [Nat.cast_mul, ← two_zpow_of_nonneg nonneg]
      split <;> ring
    · next negative =>
      rw [round_eq_roundRat _ positive (Nat.mul_pos (Nat.pos_of_ne_zero nonzero)
        (by rw [Nat.pow_eq]; positivity))]
      congr 1
      rw [Nat.cast_mul, two_zpow_of_neg (by omega)]
      split <;> field_simp

theorem ofInt_rounds (n : ℤ) : Rounds n (ofInt n) := by
  rcases eq_or_ne n 0 with zero | nonzero
  · subst zero
    exact .inr ⟨by simp, false, rfl⟩
  · left
    rw [ofInt, round_eq_roundRat _ (Int.natAbs_pos.mpr nonzero) one_pos]
    congr 1
    rw [Nat.cast_one, div_one]
    exact signed_natAbs n

/-- The order of the standard on finite values is the order of the rationals they stand for. -/
theorem lt_finite (s : Bool) (m : Nat) (e : Int) (t : Bool) (m' : Nat) (e' : Int) :
    lt (.finite s m e) (.finite t m' e') =
      decide (toRat (.finite s m e) < toRat (.finite t m' e')) := by
  -- the sign of the difference is the sign of its scaled numerator
  have value := sumScaled_value s m e (!t) m' e'
  rw [show toRat (.finite (!t) m' e') = -toRat (.finite t m' e') from
    toRat_neg (.finite t m' e'), ← sub_eq_add_neg] at value
  have sign := (sign_of_scaled value).1
  simp only [lt, compareFinite, neg]
  apply decide_eq_decide.mpr
  rw [sub_neg] at sign
  rw [← sign]
  split_ifs <;> omega

theorem Canonical.exists_finite {x : Binary64} (h : Canonical x) : ∃ s m e, x = .finite s m e := by
  cases x with
  | finite s m e => exact ⟨s, m, e, rfl⟩
  | inf _ => exact h.elim
  | nan => exact h.elim

theorem Canonical.mul_rounds {a b : Binary64} (ha : Canonical a) (hb : Canonical b) :
    Rounds (a.toRat * b.toRat) (a.mul b) := by
  obtain ⟨s, m, e, rfl⟩ := ha.exists_finite
  obtain ⟨t, m', e', rfl⟩ := hb.exists_finite
  exact Binary64.mul_rounds s m e t m' e'

theorem Canonical.sub_rounds {a b : Binary64} (ha : Canonical a) (hb : Canonical b) :
    Rounds (a.toRat - b.toRat) (a.sub b) := by
  obtain ⟨s, m, e, rfl⟩ := ha.exists_finite
  obtain ⟨t, m', e', rfl⟩ := hb.exists_finite
  exact Binary64.sub_rounds s m e t m' e'

theorem RoundsToNearestEven.of_canonical {x : Binary64} (hx : Canonical x) :
    RoundsToNearestEven x.toRat x where
  canonical := hx
  nearest _ _ := by
    rw [sub_self, abs_zero]
    exact abs_nonneg _
  even _ _ same differ := by
    rw [sub_self, abs_zero, abs_eq_zero, sub_eq_zero] at same
    exact absurd same differ

/-- Every integer below `2^53` in magnitude is a value of the format. -/
theorem exists_canonical_int (n : ℤ) (small : n.natAbs < 2 ^ 53) :
    ∃ y, Canonical y ∧ y.toRat = n := by
  rcases eq_or_ne n 0 with zero | nonzero
  · exact ⟨.finite false 0 minExp, ⟨by norm_num, le_rfl, by decide, .inr rfl⟩, by simp [zero, toRat]⟩
  -- the significand is `|n|` shifted up to 53 bits
  have magnitude : n.natAbs ≠ 0 := Int.natAbs_ne_zero.mpr nonzero
  set k := Nat.log2 n.natAbs with hk
  have low : 2 ^ k ≤ n.natAbs := Nat.log2_self_le magnitude
  have high : n.natAbs < 2 ^ (k + 1) := Nat.lt_log2_self
  have bits : k < 53 := (Nat.log2_lt magnitude).mpr small
  have shift : 2 ^ (52 - k) * 2 ^ k = 2 ^ 52 := by rw [← pow_add]; congr 1; omega
  refine ⟨.finite (decide (n < 0)) (n.natAbs * 2 ^ (52 - k)) ((k : ℤ) - 52), ⟨?_, ?_, ?_, .inl ?_⟩, ?_⟩
  · calc n.natAbs * 2 ^ (52 - k) < 2 ^ (k + 1) * 2 ^ (52 - k) :=
          Nat.mul_lt_mul_of_pos_right high (by positivity)
      _ = 2 ^ 53 := by rw [← pow_add]; congr 1; omega
  · grind
  · grind
  · calc 2 ^ 52 = 2 ^ k * 2 ^ (52 - k) := by rw [mul_comm, shift]
      _ ≤ n.natAbs * 2 ^ (52 - k) := Nat.mul_le_mul_right _ low
  · have cancel : ((2 : ℚ) ^ (52 - k)) * 2 ^ ((k : ℤ) - 52) = 1 := by
      rw [← zpow_natCast, ← zpow_add₀ (by norm_num), Nat.cast_sub (by omega : k ≤ 52)]
      simp
    simp only [toRat, Nat.cast_mul, Nat.cast_pow, Nat.cast_ofNat]
    rw [← signed_natAbs n]
    split
    · linear_combination -(n.natAbs : ℚ) * cancel
    · linear_combination (n.natAbs : ℚ) * cancel

theorem abs_int_lt_overflowBound {n : ℤ} (small : n.natAbs < 2 ^ 53) :
    |(n : ℚ)| < overflowBound := by
  obtain ⟨y, hy, value⟩ := exists_canonical_int n small
  exact value ▸ abs_toRat_lt_overflowBound hy

theorem abs_lt_overflowBound {r : ℚ} (h : |r| ≤ 2 ^ 53) : |r| < overflowBound := by
  have two : (2 : ℚ) ≤ 2 ^ (971 : ℤ) :=
    calc (2 : ℚ) = 2 ^ (1 : ℤ) := by norm_num
      _ ≤ 2 ^ (971 : ℤ) := zpow_le_zpow_right₀ (by norm_num) (by norm_num)
  have beyond : (2 : ℚ) ^ 53 < overflowBound := by
    rw [overflowBound_eq]
    calc (2 : ℚ) ^ 53 < (2 ^ 53 - 1 / 2) * 2 := by norm_num
      _ ≤ (2 ^ 53 - 1 / 2) * 2 ^ (971 : ℤ) := mul_le_mul_of_nonneg_left two (by norm_num)
  linarith

/-- Rounding keeps the order of two rationals in `[0, 2^53]`, well within the range. -/
theorem Rounds.toRat_le_of_within {r₁ r₂ : ℚ} {x₁ x₂ : Binary64} (h₁ : Rounds r₁ x₁)
    (h₂ : Rounds r₂ x₂) (le : r₁ ≤ r₂) (lo : 0 ≤ r₁) (hi : r₂ ≤ 2 ^ 53) : x₁.toRat ≤ x₂.toRat :=
  h₁.toRat_le h₂ le (abs_lt_overflowBound (abs_le.mpr ⟨by linarith, by linarith⟩))
    (abs_lt_overflowBound (abs_le.mpr ⟨by linarith, hi⟩))

/-- An integer below `2^53` in magnitude converts exactly. -/
theorem ofInt_exact {n : ℤ} (small : n.natAbs < 2 ^ 53) :
    Canonical (ofInt n) ∧ (ofInt n).toRat = n := by
  obtain ⟨y, hy, value⟩ := exists_canonical_int n small
  exact ⟨(ofInt_rounds n).canonical (abs_int_lt_overflowBound small),
    by rw [(ofInt_rounds n).toRat_eq, ← value, toRat_roundRat_toRat hy]⟩

theorem Rounds.between_ints {r : ℚ} {x : Binary64} (h : Rounds r x) (i j : ℤ)
    (hi : i.natAbs < 2 ^ 53) (hj : j.natAbs < 2 ^ 53) (lo : (i : ℚ) ≤ r) (high : r ≤ j) :
    Canonical x ∧ (i : ℚ) ≤ x.toRat ∧ x.toRat ≤ j := by
  obtain ⟨ci, vi⟩ := ofInt_exact hi
  obtain ⟨cj, vj⟩ := ofInt_exact hj
  have := h.between ci cj (by rwa [vi]) (by rwa [vj])
  rwa [vi, vj] at this

/-- `n` is an integer nearest to `t`, the even one when `t` lies halfway between two. -/
structure NearestInt (t : ℚ) (n : ℤ) : Prop where
  near : |(n : ℚ) - t| ≤ 1 / 2
  even : |(n : ℚ) - t| = 1 / 2 → n % 2 = 0

namespace NearestInt

theorem self (n : ℤ) : NearestInt n n where
  near := by norm_num
  even := by norm_num

/-- Rounding to the nearest integer, ties to even, is monotone. -/
theorem mono {t₁ t₂ : ℚ} {n₁ n₂ : ℤ} (h₁ : NearestInt t₁ n₁) (h₂ : NearestInt t₂ n₂)
    (le : t₁ ≤ t₂) : n₁ ≤ n₂ := by
  have high := (abs_le.mp h₁.near).2
  have low := (abs_le.mp h₂.near).1
  have within : (n₁ : ℚ) ≤ n₂ + 1 := by linarith
  have within : n₁ ≤ n₂ + 1 := by exact_mod_cast within
  by_contra greater
  -- `n₁ = n₂ + 1` puts both values at the midpoint, where both integers would be even
  have cast : (n₁ : ℚ) = n₂ + 1 := by exact_mod_cast (show n₁ = n₂ + 1 by omega)
  have even₁ := h₁.even (le_antisymm h₁.near (by rw [abs_of_nonneg (by linarith)]; linarith))
  have even₂ := h₂.even (le_antisymm h₂.near (by rw [abs_of_nonpos (by linarith)]; linarith))
  omega

theorem neg {t : ℚ} {n : ℤ} (h : NearestInt t n) : NearestInt (-t) (-n) where
  near := by
    rw [Int.cast_neg, neg_sub_neg, abs_sub_comm]
    exact h.near
  even := fun half => by
    rw [Int.cast_neg, neg_sub_neg, abs_sub_comm] at half
    have even := h.even half
    omega

theorem mem_Icc {t : ℚ} {n a b : ℤ} (h : NearestInt t n) (lo : (a : ℚ) ≤ t) (hi : t ≤ b) :
    a ≤ n ∧ n ≤ b :=
  ⟨(self a).mono h lo, h.mono (self b) hi⟩

end NearestInt

/-- The magnitude of a finite value rounds to the natural number nearest to it, the even one at a
tie: exactly when the exponent is not negative, by division rounding to even otherwise. -/
theorem nearest_magnitude (m : Nat) (e : Int) :
    NearestInt ((m : ℚ) * 2 ^ e)
      ((if 0 ≤ e then m * Nat.pow 2 e.toNat else divRoundEven m (Nat.pow 2 (-e).toNat) : ℕ) : ℤ) := by
  split
  · next nonneg =>
    have exact : (((m * Nat.pow 2 e.toNat : ℕ) : ℤ) : ℚ) = m * 2 ^ e := by
      rw [Int.cast_natCast, Nat.cast_mul, ← two_zpow_of_nonneg nonneg]
    rw [← exact]
    exact NearestInt.self _
  · next negative =>
    have scaled : (m : ℚ) * 2 ^ e = m / ((Nat.pow 2 (-e).toNat : ℕ) : ℚ) := by
      rw [two_zpow_of_neg (by omega), mul_one_div]
    obtain ⟨near, tie⟩ := divRoundEven_near m (Nat.pow 2 (-e).toNat) (by rw [Nat.pow_eq]; positivity)
    rw [scaled]
    refine ⟨by rwa [Int.cast_natCast], fun half => ?_⟩
    have even := tie (by rwa [Int.cast_natCast] at half)
    omega

/-- `roundHalfEven` gives the integer nearest to a finite value, the even one at a tie. -/
theorem roundHalfEven_finite (s : Bool) (m : Nat) (e : Int) :
    ∃ n, roundHalfEven (.finite s m e) = some n ∧ NearestInt (toRat (.finite s m e)) n := by
  -- the magnitude is rounded first, then the sign applied
  have magnitude := nearest_magnitude m e
  cases s
  · refine ⟨_, rfl, ?_⟩
    simpa only [toRat, Bool.false_eq_true, if_false] using magnitude
  · refine ⟨_, rfl, ?_⟩
    simpa only [toRat, if_true, neg_mul, Int.cast_neg] using magnitude.neg

end Binary64

namespace Num

open Binary64

/-- An integer converts to its rounding, unless that is beyond the range. -/
theorem toFloat_int (n : ℤ) :
    toFloat (.int n) = if |(n : ℚ)| < overflowBound then .ok (ofInt n) else .error .intTooLarge := by
  split
  · next small =>
    obtain ⟨s, m, e, eq⟩ := ((ofInt_rounds n).roundsToNearestEven small).canonical.exists_finite
    simp [toFloat, eq]
  · next big =>
    simp [toFloat, (ofInt_rounds n).eq_inf (not_lt.mp big)]

@[simp] theorem toFloat_float (x : Binary64) : toFloat (.float x) = .ok x := rfl

theorem toFloat_int_of_small {n : ℤ} (small : |(n : ℚ)| < overflowBound) :
    toFloat (.int n) = .ok (ofInt n) := by
  rw [toFloat_int, if_pos small]

theorem mul_float (x y : Binary64) : Num.mul (.float x) (.float y) = .ok (.float (x.mul y)) := rfl

theorem mul_float_int (x : Binary64) {n : ℤ} (small : |(n : ℚ)| < overflowBound) :
    Num.mul (.float x) (.int n) = .ok (.float (x.mul (ofInt n))) := by
  simp only [Num.mul, toFloat_float, toFloat_int_of_small small]
  rfl

theorem sub_int_float {n : ℤ} (small : |(n : ℚ)| < overflowBound) (y : Binary64) :
    Num.sub (.int n) (.float y) = .ok (.float ((ofInt n).sub y)) := by
  simp only [Num.sub, toFloat_float, toFloat_int_of_small small]
  rfl

theorem roundHalfEven_float {x : Binary64} {n : ℤ} (h : x.roundHalfEven = some n) :
    Num.roundHalfEven (.float x) = .ok n := by
  simp [Num.roundHalfEven, h]

/-- The quotient of two integers is the rounding of their ratio, unless that is beyond the
range. -/
theorem divInts_of_ne (a : ℤ) {b : ℤ} (nonzero : b ≠ 0) :
    ∃ x, Rounds ((a : ℚ) / b) x ∧ divInts a b =
      if |(a : ℚ) / b| < overflowBound then .ok x else .error .quotientTooLarge := by
  set x := Binary64.round (decide (a < 0) != decide (b < 0)) a.natAbs b.natAbs with hx
  -- the sign of the quotient is the exclusive or of the signs
  have rounds : Rounds ((a : ℚ) / b) x := by
    rcases eq_or_ne a 0 with zero | numerator
    · subst zero
      exact .inr ⟨by simp, decide ((0 : ℤ) < 0) != decide (b < 0), by simp [hx, Binary64.round]⟩
    · left
      rw [hx, round_eq_roundRat _ (Int.natAbs_pos.mpr numerator) (Int.natAbs_pos.mpr nonzero)]
      congr 1
      rw [← signed_natAbs a, ← signed_natAbs b]
      by_cases ha : a < 0 <;> by_cases hb : b < 0 <;> simp [ha, hb, neg_div, div_neg]
  refine ⟨x, rounds, ?_⟩
  simp only [divInts, nonzero, if_false, ← hx]
  by_cases small : |(a : ℚ) / b| < overflowBound
  · obtain ⟨s, m, e, eq⟩ := (rounds.roundsToNearestEven small).canonical.exists_finite
    simp [small, eq]
  · simp [small, rounds.eq_inf (not_lt.mp small)]

theorem compareIntFloat_finite (n : ℤ) (s : Bool) (m : Nat) (e : Int) :
    compareIntFloat n (.finite s m e) = some
      (if (n : ℚ) < toRat (.finite s m e) then -1
      else if (n : ℚ) = toRat (.finite s m e) then 0 else 1) := by
  -- `n - x` is written over the exponent `min e 0`
  have value : ((n * Int.pow 2 (0 - min e 0).toNat -
      (if s then -(m : ℤ) else m) * Int.pow 2 (e - min e 0).toNat : ℤ) : ℚ) * 2 ^ min e 0 =
      n - toRat (.finite s m e) := by
    rw [Int.cast_sub, sub_mul, lift_scaled _ (min_le_right e 0),
      lift_scaled _ (min_le_left e 0), ← scaled_value s m e, zpow_zero, mul_one]
    rfl
  obtain ⟨negative, zero⟩ := sign_of_scaled value
  simp only [compareIntFloat, scaled]
  simp only [negative, zero, sub_neg, sub_eq_zero]

theorem lt_int_finite (a : ℤ) (s : Bool) (m : Nat) (e : Int) :
    lt (.int a) (.float (.finite s m e)) = decide ((a : ℚ) < toRat (.finite s m e)) := by
  simp only [lt, compareIntFloat_finite]
  split_ifs <;> simp_all

end Num

end Cyclomatic
