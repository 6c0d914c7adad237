import Cyclomatic.Number.Binary64
import Mathlib.Algebra.Order.Field.Power
import Mathlib.Tactic.Linarith
import Mathlib.Tactic.FieldSimp
import Mathlib.Tactic.Positivity
import Mathlib.Tactic.Ring

/-!
Correct rounding of binary64 values. `RoundsToNearestEven r x` says that no value of the format
(`Canonical`) is nearer to `r` than `x`, and that `x` has an even significand when another is as
near. The proof follows `round`: the ratio's binary exponent fixes a grid of multiples of `2^E`,
`divRoundEven` picks the nearest multiple, and every value off that grid lies below the ratio's
binade. Overflow happens exactly from `overflowBound` on, and rounding is monotone.
-/

namespace Cyclomatic

namespace Binary64

/-! ### Values of the format -/

@[grind =] theorem minExp_eq : minExp = -1074 := rfl

@[grind =] theorem maxExp_eq : maxExp = 971 := rfl

/-- The rational a finite value stands for; an infinity or NaN stands for none and reads as 0. -/
def toRat : Binary64 → ℚ
  | .finite neg m e => (if neg then -(m : ℚ) else m) * 2 ^ e
  | _ => 0

/-- The significand of a finite value; the others have none and read as 0. -/
def significand : Binary64 → Nat
  | .finite _ m _ => m
  | _ => 0

/-- The finite values of the format, each in the one form the rounding functions build: a
significand below `2^53` at an exponent from `minExp` to `maxExp`, at least `2^52` unless the
exponent is the least. -/
def Canonical : Binary64 → Prop
  | .finite _ m e => m < 2 ^ 53 ∧ minExp ≤ e ∧ e ≤ maxExp ∧ (2 ^ 52 ≤ m ∨ e = minExp)
  | _ => False

structure RoundsToNearestEven (r : ℚ) (x : Binary64) : Prop where
  canonical : Canonical x
  nearest : ∀ y, Canonical y → |x.toRat - r| ≤ |y.toRat - r|
  even : ∀ y, Canonical y → |y.toRat - r| = |x.toRat - r| → y.toRat ≠ x.toRat →
    x.significand % 2 = 0

@[simp] theorem toRat_neg (x : Binary64) : x.neg.toRat = -x.toRat := by
  cases x with
  | finite s m e => cases s <;> simp [neg, toRat]
  | inf s => simp [neg, toRat]
  | nan => simp [neg, toRat]

@[simp] theorem significand_neg (x : Binary64) : x.neg.significand = x.significand := by
  cases x <;> rfl

theorem Canonical.neg {x : Binary64} (h : Canonical x) : Canonical x.neg := by
  cases x with
  | finite s m e => exact h
  | inf s => exact h.elim
  | nan => exact h.elim

theorem RoundsToNearestEven.neg {r : ℚ} {x : Binary64} (h : RoundsToNearestEven r x) :
    RoundsToNearestEven (-r) x.neg := by
  -- distances to `-r` are the distances of the negated values to `r`
  have flip : ∀ a b : ℚ, |a - -b| = |-a - b| := fun a b => by
    rw [← abs_neg]; ring_nf
  refine ⟨h.canonical.neg, fun y hy => ?_, fun y hy tie other => ?_⟩
  · have := h.nearest y.neg hy.neg
    rw [toRat_neg] at this
    rw [toRat_neg, neg_sub_neg, abs_sub_comm, flip]
    exact this
  · have same := h.even y.neg hy.neg
    rw [toRat_neg] at same other
    rw [toRat_neg, flip, neg_sub_neg, abs_sub_comm r] at tie
    rw [significand_neg]
    exact same tie (fun eq => other (by rw [← eq, neg_neg]))


/-! ### Rounding to an integer -/

theorem divRoundEven_cases (num den : Nat) :
    (divRoundEven num den = num / den ∧ 2 * (num % den) ≤ den ∧
        (2 * (num % den) = den → (num / den) % 2 = 0)) ∨
      (divRoundEven num den = num / den + 1 ∧ den ≤ 2 * (num % den) ∧
        (2 * (num % den) = den → (num / den + 1) % 2 = 0)) := by
  unfold divRoundEven
  dsimp only
  split
  · right; refine ⟨rfl, ?_, ?_⟩ <;> omega
  · left; refine ⟨rfl, ?_, ?_⟩ <;> omega

theorem div_eq_quotient_add (num den : Nat) (pos : 0 < den) :
    (num : ℚ) / den = (num / den : ℕ) + (num % den : ℕ) / den := by
  have hd : (den : ℚ) ≠ 0 := by exact_mod_cast pos.ne'
  have whole : (num : ℚ) = (num / den : ℕ) * den + (num % den : ℕ) := by
    exact_mod_cast (by rw [Nat.mul_comm]; exact (Nat.div_add_mod num den).symm)
  rw [whole, add_div, mul_div_cancel_right₀ _ hd]

theorem divRoundEven_near (num den : Nat) (pos : 0 < den) :
    |(divRoundEven num den : ℚ) - num / den| ≤ 1 / 2 ∧
      (|(divRoundEven num den : ℚ) - num / den| = 1 / 2 → divRoundEven num den % 2 = 0) := by
  have rem := Nat.mod_lt num pos
  have hd : (0 : ℚ) < den := by exact_mod_cast pos
  set f : ℚ := ((num % den : ℕ) : ℚ) / den with hf
  have f0 : 0 ≤ f := by positivity
  have f1 : f < 1 := by
    rw [hf, div_lt_iff₀ hd, one_mul]; exact_mod_cast rem
  -- twice the fraction against the denominator, in both directions
  have halfIff : f = 1 / 2 ↔ 2 * (num % den) = den := by
    rw [hf, div_eq_iff hd.ne']
    constructor
    · intro h; have : ((2 * (num % den) : ℕ) : ℚ) = den := by push_cast; linarith
      exact_mod_cast this
    · intro h; have : ((2 * (num % den) : ℕ) : ℚ) = den := by exact_mod_cast h
      push_cast at this; linarith
  rw [div_eq_quotient_add num den pos, ← hf]
  rcases divRoundEven_cases num den with ⟨down, half, tie⟩ | ⟨up, half, tie⟩
  · have : f ≤ 1 / 2 := by
      rw [hf, div_le_iff₀ hd]
      have : ((2 * (num % den) : ℕ) : ℚ) ≤ den := by exact_mod_cast half
      push_cast at this; linarith
    rw [down, show ((num / den : ℕ) : ℚ) - ((num / den : ℕ) + f) = -f by ring, abs_neg,
      abs_of_nonneg f0]
    exact ⟨this, fun h => tie (halfIff.mp h)⟩
  · have : 1 / 2 ≤ f := by
      rw [hf, le_div_iff₀ hd]
      have : (den : ℚ) ≤ ((2 * (num % den) : ℕ) : ℚ) := by exact_mod_cast half
      push_cast at this; linarith
    rw [up, show ((num / den + 1 : ℕ) : ℚ) - ((num / den : ℕ) + f) = 1 - f by push_cast; ring,
      abs_of_nonneg (by linarith)]
    refine ⟨by linarith, fun h => tie (halfIff.mp (by linarith))⟩

theorem abs_sub_le_of_near {q : ℤ} {t : ℚ} (near : |(q : ℚ) - t| ≤ 1 / 2) (j : ℤ) :
    |(q : ℚ) - t| ≤ |(j : ℚ) - t| := by
  by_cases same : j = q
  · rw [same]
  · have apart : (1 : ℚ) ≤ |(j : ℚ) - q| := by
      have : (1 : ℤ) ≤ |j - q| := Int.one_le_abs (sub_ne_zero.mpr same)
      exact_mod_cast this
    have tri := abs_sub_le (j : ℚ) t q
    rw [abs_sub_comm t] at tri
    linarith

theorem eq_or_half_of_abs_eq {q j : ℤ} {t : ℚ} (near : |(q : ℚ) - t| ≤ 1 / 2)
    (same : |(j : ℚ) - t| = |(q : ℚ) - t|) : j = q ∨ |(q : ℚ) - t| = 1 / 2 := by
  by_cases eq : j = q
  · exact .inl eq
  · right
    have apart : (1 : ℚ) ≤ |(j : ℚ) - q| := by
      have : (1 : ℤ) ≤ |j - q| := Int.one_le_abs (sub_ne_zero.mpr eq)
      exact_mod_cast this
    have tri := abs_sub_le (j : ℚ) t q
    rw [abs_sub_comm t] at tri
    linarith

theorem eq_of_near_even {q q' : ℕ} {t : ℚ}
    (h : |(q : ℚ) - t| ≤ 1 / 2 ∧ (|(q : ℚ) - t| = 1 / 2 → q % 2 = 0))
    (h' : |(q' : ℚ) - t| ≤ 1 / 2 ∧ (|(q' : ℚ) - t| = 1 / 2 → q' % 2 = 0)) : q = q' := by
  by_contra ne
  have apart : (1 : ℚ) ≤ |(q : ℚ) - q'| := by
    have : (1 : ℤ) ≤ |(q : ℤ) - q'| := Int.one_le_abs (sub_ne_zero.mpr (by exact_mod_cast ne))
    exact_mod_cast this
  have tri := abs_sub_le (q : ℚ) t q'
  rw [abs_sub_comm t] at tri
  -- two integers a unit apart are each half a unit from `t`, so both are even
  have even := h.2 (by linarith [h'.1])
  have even' := h'.2 (by linarith [h.1])
  have close : |(q : ℤ) - q'| ≤ 1 := by
    have : |(q : ℚ) - q'| ≤ 1 := by linarith [h.1, h'.1]
    exact_mod_cast this
  have := abs_le.mp close
  omega


/-! ### The binary exponent of a ratio -/

theorem natPow_two_cast (n : Nat) : ((Nat.pow 2 n : ℕ) : ℚ) = (2 : ℚ) ^ (n : ℤ) := by
  rw [Nat.pow_eq, Nat.cast_pow, Nat.cast_ofNat, zpow_natCast]

theorem two_zpow_of_nonneg {k : ℤ} (hk : 0 ≤ k) : (2 : ℚ) ^ k = ((Nat.pow 2 k.toNat : ℕ) : ℚ) := by
  rw [natPow_two_cast, Int.toNat_of_nonneg hk]

theorem two_zpow_of_neg {k : ℤ} (hk : k < 0) :
    (2 : ℚ) ^ k = 1 / ((Nat.pow 2 (-k).toNat : ℕ) : ℚ) := by
  rw [natPow_two_cast, Int.toNat_of_nonneg (by omega), zpow_neg, one_div, inv_inv]

theorem ratioAtLeastPow2_iff {num den : Nat} (pos : 0 < den) (k : Int) :
    ratioAtLeastPow2 num den k = true ↔ (2 : ℚ) ^ k ≤ num / den := by
  have hd : (0 : ℚ) < den := by exact_mod_cast pos
  unfold ratioAtLeastPow2
  split
  · next hk =>
    rw [decide_eq_true_iff, le_div_iff₀ hd, two_zpow_of_nonneg hk, ← Nat.cast_mul, Nat.cast_le,
      Nat.mul_comm]
  · next hk =>
    have hp : (0 : ℚ) < ((Nat.pow 2 (-k).toNat : ℕ) : ℚ) := by
      rw [natPow_two_cast]; positivity
    rw [decide_eq_true_iff, two_zpow_of_neg (by omega), div_le_div_iff₀ hp hd, one_mul,
      ← Nat.cast_mul, Nat.cast_le]

theorem log2_bounds {n : Nat} (pos : 0 < n) :
    (2 : ℚ) ^ (Nat.log2 n : ℤ) ≤ n ∧ (n : ℚ) < 2 ^ ((Nat.log2 n : ℤ) + 1) := by
  have low := Nat.log2_self_le (Nat.pos_iff_ne_zero.mp pos)
  have high : n < 2 ^ (Nat.log2 n + 1) := Nat.lt_log2_self
  constructor
  · rw [zpow_natCast]; exact_mod_cast low
  · rw [← Nat.cast_one, ← Nat.cast_add, zpow_natCast]; exact_mod_cast high

theorem ratio_near_log2 {num den : Nat} (hn : 0 < num) (hd : 0 < den) :
    (2 : ℚ) ^ ((Nat.log2 num : ℤ) - Nat.log2 den - 1) < num / den ∧
      (num : ℚ) / den < 2 ^ ((Nat.log2 num : ℤ) - Nat.log2 den + 1) := by
  obtain ⟨numLow, numHigh⟩ := log2_bounds hn
  obtain ⟨denLow, denHigh⟩ := log2_bounds hd
  have dpos : (0 : ℚ) < den := by exact_mod_cast hd
  have two : (2 : ℚ) ≠ 0 := by norm_num
  constructor
  · rw [lt_div_iff₀ dpos]
    calc (2 : ℚ) ^ ((Nat.log2 num : ℤ) - Nat.log2 den - 1) * den
        < 2 ^ ((Nat.log2 num : ℤ) - Nat.log2 den - 1) * 2 ^ ((Nat.log2 den : ℤ) + 1) := by
          gcongr
      _ = 2 ^ (Nat.log2 num : ℤ) := by rw [← zpow_add₀ two]; ring_nf
      _ ≤ num := numLow
  · rw [div_lt_iff₀ dpos]
    calc (num : ℚ) < 2 ^ ((Nat.log2 num : ℤ) + 1) := numHigh
      _ = 2 ^ ((Nat.log2 num : ℤ) - Nat.log2 den + 1) * 2 ^ (Nat.log2 den : ℤ) := by
          rw [← zpow_add₀ two]; ring_nf
      _ ≤ 2 ^ ((Nat.log2 num : ℤ) - Nat.log2 den + 1) * den := by gcongr

theorem floorLog2Ratio_bounds {num den : Nat} (hn : 0 < num) (hd : 0 < den) :
    (2 : ℚ) ^ floorLog2Ratio num den ≤ num / den ∧
      (num : ℚ) / den < 2 ^ (floorLog2Ratio num den + 1) := by
  obtain ⟨low, high⟩ := ratio_near_log2 hn hd
  unfold floorLog2Ratio
  dsimp only
  split
  · next atLeast => exact ⟨(ratioAtLeastPow2_iff hd _).mp atLeast, high⟩
  · next below =>
    rw [Bool.not_eq_true, ← Bool.not_eq_true, ratioAtLeastPow2_iff hd, not_le] at below
    exact ⟨low.le, by rwa [sub_add_cancel]⟩

theorem zpow_exponent_unique {r : ℚ} {k k' : ℤ} (h : (2 : ℚ) ^ k ≤ r ∧ r < 2 ^ (k + 1))
    (h' : (2 : ℚ) ^ k' ≤ r ∧ r < 2 ^ (k' + 1)) : k = k' := by
  have lt : ∀ {a b : ℤ}, (2 : ℚ) ^ a < 2 ^ b → a < b :=
    fun hab => (zpow_lt_zpow_iff_right₀ (by norm_num)).mp hab
  have one := lt (h.1.trans_lt h'.2)
  have two := lt (h'.1.trans_lt h.2)
  omega


/-! ### The grid a ratio is rounded on -/

/-- The exponent of the last bit `round` keeps of `num / den`: 52 below the ratio's binary
exponent, and never below the least exponent. -/
def gridExp (num den : Nat) : Int := max (floorLog2Ratio num den - 52) minExp

/-- `num / den` in units of `2^gridExp`, rounded to the nearest integer, ties to even. -/
def gridCount (num den : Nat) : Nat :=
  if 0 ≤ gridExp num den then divRoundEven num (den * Nat.pow 2 (gridExp num den).toNat)
  else divRoundEven (num * Nat.pow 2 (-gridExp num den).toNat) den

theorem gridExp_cases (num den : Nat) :
    floorLog2Ratio num den - 52 ≤ gridExp num den ∧ minExp ≤ gridExp num den ∧
      (gridExp num den = floorLog2Ratio num den - 52 ∨ gridExp num den = minExp) := by
  unfold gridExp
  omega

theorem gridCount_near (num : Nat) {den : Nat} (hd : 0 < den) :
    |(gridCount num den : ℚ) - num / den / 2 ^ gridExp num den| ≤ 1 / 2 ∧
      (|(gridCount num den : ℚ) - num / den / 2 ^ gridExp num den| = 1 / 2 →
        gridCount num den % 2 = 0) := by
  unfold gridCount
  split
  · next nonneg =>
    have ratio : (num : ℚ) / den / 2 ^ gridExp num den =
        (num : ℚ) / ((den * Nat.pow 2 (gridExp num den).toNat : ℕ) : ℚ) := by
      rw [Nat.cast_mul, ← two_zpow_of_nonneg nonneg, div_div]
    rw [ratio]
    exact divRoundEven_near _ _ (Nat.mul_pos hd (by rw [Nat.pow_eq]; positivity))
  · next negative =>
    have ratio : (num : ℚ) / den / 2 ^ gridExp num den =
        ((num * Nat.pow 2 (-gridExp num den).toNat : ℕ) : ℚ) / den := by
      rw [Nat.cast_mul, two_zpow_of_neg (by omega), div_div_eq_mul_div, div_one, mul_div_right_comm]
    rw [ratio]
    exact divRoundEven_near _ _ hd

theorem grid_scaled_lt {num den : Nat} (hn : 0 < num) (hd : 0 < den) :
    (num : ℚ) / den / 2 ^ gridExp num den < 2 ^ 53 := by
  obtain ⟨_, high⟩ := floorLog2Ratio_bounds hn hd
  obtain ⟨above, _, _⟩ := gridExp_cases num den
  have pos : (0 : ℚ) < 2 ^ gridExp num den := zpow_pos (by norm_num) _
  rw [div_lt_iff₀ pos]
  calc (num : ℚ) / den < 2 ^ (floorLog2Ratio num den + 1) := high
    _ ≤ 2 ^ (gridExp num den + 53) := zpow_le_zpow_right₀ (by norm_num) (by omega)
    _ = 2 ^ 53 * 2 ^ gridExp num den := by
      rw [zpow_add₀ (by norm_num : (2 : ℚ) ≠ 0), mul_comm]; norm_num

theorem grid_normal {num den : Nat} (hn : 0 < num) (hd : 0 < den) :
    gridExp num den = minExp ∨ (2 : ℚ) ^ (gridExp num den + 52) ≤ num / den := by
  obtain ⟨low, _⟩ := floorLog2Ratio_bounds hn hd
  rcases (gridExp_cases num den).2.2 with normal | least
  · right
    rw [normal, sub_add_cancel]
    exact low
  · exact .inl least

theorem gridCount_le {num den : Nat} (hn : 0 < num) (hd : 0 < den) :
    gridCount num den ≤ 2 ^ 53 := by
  have near := abs_le.mp (gridCount_near num hd).1
  have below := grid_scaled_lt hn hd
  have : (gridCount num den : ℚ) < 2 ^ 53 + 1 := by linarith [near.2]
  exact Nat.lt_succ_iff.mp (by exact_mod_cast this)

theorem gridCount_normal {num den : Nat} (hn : 0 < num) (hd : 0 < den) :
    gridExp num den = minExp ∨ 2 ^ 52 ≤ gridCount num den := by
  rcases grid_normal hn hd with least | low
  · exact .inl least
  · right
    have near := abs_le.mp (gridCount_near num hd).1
    have pos : (0 : ℚ) < 2 ^ gridExp num den := zpow_pos (by norm_num) _
    have scaled : (2 : ℚ) ^ 52 ≤ num / den / 2 ^ gridExp num den := by
      rw [le_div_iff₀ pos, ← zpow_natCast, ← zpow_add₀ (by norm_num : (2 : ℚ) ≠ 0), add_comm]
      exact_mod_cast low
    have : (2 : ℚ) ^ 52 < gridCount num den + 1 := by linarith [near.1]
    have : 2 ^ 52 < gridCount num den + 1 := by exact_mod_cast this
    omega

theorem multiple_or_small {y : Binary64} (hy : Canonical y) (E : ℤ) :
    (∃ j : ℤ, y.toRat = j * 2 ^ E) ∨ (minExp < E ∧ |y.toRat| < 2 ^ (E + 52)) := by
  match y, hy with
  | .finite s m e, ⟨bound, low, _, _⟩ =>
    have two : (2 : ℚ) ≠ 0 := by norm_num
    by_cases coarse : E ≤ e
    · left
      refine ⟨(if s then -(m : ℤ) else m) * 2 ^ (e - E).toNat, ?_⟩
      have split : (2 : ℚ) ^ e = 2 ^ (e - E).toNat * 2 ^ E := by
        rw [← zpow_natCast, Int.toNat_of_nonneg (by omega), ← zpow_add₀ two, sub_add_cancel]
      rw [toRat, split]
      cases s <;> simp <;> ring
    · right
      refine ⟨by omega, ?_⟩
      have mpos : (m : ℚ) < 2 ^ 53 := by exact_mod_cast bound
      calc |toRat (.finite s m e)| = m * 2 ^ e := by
            cases s <;> simp [toRat, abs_mul, abs_of_pos (zpow_pos (by norm_num : (0:ℚ) < 2) e)]
        _ < 2 ^ 53 * 2 ^ e := by gcongr
        _ ≤ 2 ^ 53 * 2 ^ (E - 1) := by gcongr; norm_num; omega
        _ = 2 ^ (E + 52) := by
          rw [show E + 52 = (E - 1) + 53 by ring, zpow_add₀ two, mul_comm]; norm_num

theorem nearest_of_grid {r : ℚ} {E : ℤ} (q : ℤ) (near : |(q : ℚ) - r / 2 ^ E| ≤ 1 / 2)
    (normal : E = minExp ∨ 2 ^ (E + 52) ≤ r) {y : Binary64} (hy : Canonical y) :
    |q * 2 ^ E - r| ≤ |y.toRat - r| ∧
      (|y.toRat - r| = |q * 2 ^ E - r| → y.toRat ≠ q * 2 ^ E → |(q : ℚ) - r / 2 ^ E| = 1 / 2) := by
  have pos : (0 : ℚ) < 2 ^ E := zpow_pos (by norm_num) E
  -- distances on the grid are distances of integers, scaled by `2^E`
  have scaled : ∀ j : ℤ, |(j : ℚ) * 2 ^ E - r| = 2 ^ E * |(j : ℚ) - r / 2 ^ E| := by
    intro j
    rw [← abs_of_pos pos, ← abs_mul, abs_of_pos pos, mul_sub, mul_div_cancel₀ _ pos.ne', mul_comm]
  rcases multiple_or_small hy E with ⟨j, hj⟩ | ⟨above, small⟩
  · rw [hj, scaled, scaled]
    refine ⟨mul_le_mul_of_nonneg_left (abs_sub_le_of_near near j) pos.le, fun tie other => ?_⟩
    have same : |(j : ℚ) - r / 2 ^ E| = |(q : ℚ) - r / 2 ^ E| :=
      mul_left_cancel₀ pos.ne' tie
    rcases eq_or_half_of_abs_eq near same with eq | half
    · exact absurd (by rw [eq]) other
    · exact half
  · have low : 2 ^ (E + 52) ≤ r := normal.resolve_left (by omega)
    -- the grid point `2^(E+52)` is nearer than any value below it
    have gridPoint : |((2 ^ 52 : ℤ) : ℚ) * 2 ^ E - r| = r - 2 ^ (E + 52) := by
      have point : ((2 ^ 52 : ℤ) : ℚ) * 2 ^ E = 2 ^ (E + 52) := by
        rw [zpow_add₀ (by norm_num : (2 : ℚ) ≠ 0), mul_comm]; norm_num
      rw [point, abs_sub_comm, abs_of_nonneg (by linarith)]
    have nearer : |q * 2 ^ E - r| ≤ r - 2 ^ (E + 52) := by
      rw [← gridPoint, scaled, scaled]
      exact mul_le_mul_of_nonneg_left (abs_sub_le_of_near near _) pos.le
    have far : r - 2 ^ (E + 52) < |y.toRat - r| := by
      have := neg_abs_le y.toRat
      rw [abs_sub_comm]
      calc r - 2 ^ (E + 52) < r - |y.toRat| := by linarith
        _ ≤ r - y.toRat := by linarith [le_abs_self y.toRat]
        _ ≤ |r - y.toRat| := le_abs_self _
    exact ⟨by linarith, fun tie _ => absurd tie (by linarith)⟩


/-! ### Rounding a ratio -/

/-- `round` is the grid count at the grid exponent, carried into the next exponent when it
reaches `2^53`, and an infinity past the top exponent. -/
theorem round_eq_grid (neg : Bool) {num den : Nat} (hn : 0 < num) (hd : 0 < den) :
    round neg num den =
      if gridCount num den = 2 ^ 53 then
        (if maxExp < gridExp num den + 1 then .inf neg
          else .finite neg (2 ^ 52) (gridExp num den + 1))
      else if maxExp < gridExp num den then .inf neg
        else .finite neg (gridCount num den) (gridExp num den) := by
  rw [round, if_neg (by omega)]
  let carried : Nat × Int := if gridCount num den = Nat.pow 2 precision then
    (Nat.pow 2 (precision - 1), gridExp num den + 1) else (gridCount num den, gridExp num den)
  show (if maxExp < carried.2 then Binary64.inf neg else .finite neg carried.1 carried.2) = _
  by_cases top : gridCount num den = 2 ^ 53
  · simp only [carried, precision, Nat.pow_eq, top, if_true]
  · simp only [carried, precision, Nat.pow_eq, top, if_false]

theorem round_finite {neg : Bool} {num den : Nat} (hn : 0 < num) (hd : 0 < den)
    (fin : round neg num den ≠ .inf neg) :
    ∃ m e, round neg num den = .finite neg m e ∧ Canonical (.finite neg m e) ∧
      (m : ℚ) * 2 ^ e = gridCount num den * 2 ^ gridExp num den ∧
      (gridCount num den % 2 = 0 → m % 2 = 0) := by
  have low := (gridExp_cases num den).2.1
  have le := gridCount_le hn hd
  have normal := gridCount_normal hn hd
  rw [round_eq_grid neg hn hd] at fin ⊢
  split_ifs at fin ⊢ with top beyond beyond
  · exact absurd rfl fin
  · -- a count of `2^53` is carried into the next exponent
    refine ⟨2 ^ 52, gridExp num den + 1, rfl, ⟨by norm_num, by omega, by omega, .inl le_rfl⟩,
      ?_, fun _ => by norm_num⟩
    rw [top, zpow_add₀ (by norm_num : (2 : ℚ) ≠ 0)]
    push_cast
    ring
  · exact absurd rfl fin
  · exact ⟨gridCount num den, gridExp num den, rfl, ⟨by omega, low, by omega, normal.symm⟩, rfl, id⟩

theorem round_true (num den : Nat) : round true num den = (round false num den).neg := by
  by_cases zero : num = 0 ∨ den = 0
  · simp [round, zero, neg]
  · rw [round_eq_grid true (by omega) (by omega), round_eq_grid false (by omega) (by omega)]
    split_ifs <;> rfl

theorem round_roundsToNearestEven (neg : Bool) (num : Nat) {den : Nat} (hd : 0 < den)
    (fin : round neg num den ≠ .inf neg) :
    RoundsToNearestEven ((if neg then -(num : ℚ) else num) / den) (round neg num den) := by
  have positive : round false num den ≠ .inf false →
      RoundsToNearestEven ((num : ℚ) / den) (round false num den) := by
    intro fin
    rcases Nat.eq_zero_or_pos num with zero | hn
    · subst zero
      have zeroValue : round false 0 den = .finite false 0 minExp := by simp [round]
      rw [zeroValue]
      refine ⟨⟨by norm_num, le_rfl, by decide, .inr rfl⟩, fun y _ => ?_, fun _ _ _ _ => rfl⟩
      simp [toRat]
    · obtain ⟨m, e, eq, can, val, par⟩ := round_finite hn hd fin
      have near := gridCount_near num hd
      have onGrid := fun y (hy : Canonical y) =>
        nearest_of_grid (gridCount num den : ℤ) (by simpa using near.1) (grid_normal hn hd) hy
      simp only [Int.cast_natCast] at onGrid
      have value : toRat (.finite false m e) = (gridCount num den : ℚ) * 2 ^ gridExp num den := by
        simp [toRat, ← val]
      rw [eq]
      refine ⟨can, fun y hy => ?_, fun y hy tie other => par (near.2 ?_)⟩
      · rw [value]; exact (onGrid y hy).1
      · rw [value] at tie other; exact (onGrid y hy).2 tie other
  cases neg
  · simpa using positive fin
  · rw [round_true] at fin ⊢
    have flipped := (positive (fun inf => fin (by rw [inf]; rfl))).neg
    simpa [neg_div] using flipped


/-! ### Overflow -/

def overflowBound : ℚ := (2 ^ 53 - 1 / 2) * 2 ^ 971

theorem overflowBound_eq : overflowBound = (2 ^ 53 - 1 / 2) * 2 ^ (971 : ℤ) := by
  rw [overflowBound, zpow_ofNat]

/-- A count carried out of the top exponent stands for a ratio of at least the bound: the ratio
lies within half a unit of `2^53` units of `2^971` or more. -/
theorem overflowBound_le_of_carry {num den : Nat} (hd : 0 < den)
    (top : gridCount num den = 2 ^ 53) (beyond : maxExp < gridExp num den + 1) :
    overflowBound ≤ num / den := by
  have pos : (0 : ℚ) < 2 ^ gridExp num den := zpow_pos (by norm_num) _
  have countHigh : (2 : ℚ) ^ 53 - 1 / 2 ≤ num / den / 2 ^ gridExp num den := by
    have nearHigh := (abs_le.mp (gridCount_near num hd).1).2
    have : ((gridCount num den : ℕ) : ℚ) = 2 ^ 53 := by rw [top]; norm_num
    linarith
  have expLe : (2 : ℚ) ^ (971 : ℤ) ≤ 2 ^ gridExp num den :=
    zpow_le_zpow_right₀ (by norm_num) (by grind)
  have scaled : (num : ℚ) / den = num / den / 2 ^ gridExp num den * 2 ^ gridExp num den := by
    rw [div_mul_cancel₀ _ pos.ne']
  rw [scaled, overflowBound_eq]
  exact mul_le_mul countHigh expLe (zpow_pos (by norm_num) _).le (by linarith)

/-- Past the top exponent the ratio is at least `2^1024`, beyond the bound. -/
theorem overflowBound_le_of_exp {num den : Nat} (hn : 0 < num) (hd : 0 < den)
    (beyond : maxExp < gridExp num den) : overflowBound ≤ num / den := by
  obtain ⟨above, -, which⟩ := gridExp_cases num den
  -- an exponent above 971 is 52 below the binary exponent
  have pow1024 : (2 : ℚ) ^ (1024 : ℤ) ≤ num / den :=
    (zpow_le_zpow_right₀ (by norm_num) (by grind)).trans (floorLog2Ratio_bounds hn hd).1
  have split : (2 : ℚ) ^ (1024 : ℤ) = 2 ^ 53 * 2 ^ (971 : ℤ) := by
    rw [show (1024 : ℤ) = 53 + 971 by norm_num, zpow_add₀ (by norm_num)]; norm_num
  calc overflowBound = (2 ^ 53 - 1 / 2) * 2 ^ (971 : ℤ) := overflowBound_eq
    _ ≤ 2 ^ 53 * 2 ^ (971 : ℤ) := by gcongr; norm_num
    _ = 2 ^ (1024 : ℤ) := split.symm
    _ ≤ num / den := pow1024

theorem floorLog2Ratio_ge_of_overflow {num den : Nat} (hn : 0 < num) (hd : 0 < den)
    (big : overflowBound ≤ num / den) : 1023 ≤ floorLog2Ratio num den := by
  have split : (2 : ℚ) ^ (1023 : ℤ) = 2 ^ 52 * 2 ^ (971 : ℤ) := by
    rw [show (1023 : ℤ) = 52 + 971 by norm_num, zpow_add₀ (by norm_num)]; norm_num
  have below : (2 : ℚ) ^ (1023 : ℤ) < 2 ^ (floorLog2Ratio num den + 1) :=
    calc (2 : ℚ) ^ (1023 : ℤ) = 2 ^ 52 * 2 ^ (971 : ℤ) := split
      _ < (2 ^ 53 - 1 / 2) * 2 ^ (971 : ℤ) := by gcongr; norm_num
      _ = overflowBound := overflowBound_eq.symm
      _ ≤ num / den := big
      _ < _ := (floorLog2Ratio_bounds hn hd).2
  have := (zpow_lt_zpow_iff_right₀ (by norm_num : (1 : ℚ) < 2)).mp below
  omega

/-- At exponent 971 a ratio of at least the bound counts `2^53` units: the count below is odd
and half a unit away, so a tie would not go to it. -/
theorem gridCount_eq_top_of_overflow {num den : Nat} (hn : 0 < num) (hd : 0 < den)
    (top : gridExp num den = 971) (big : overflowBound ≤ num / den) :
    gridCount num den = 2 ^ 53 := by
  have near := gridCount_near num hd
  have pos : (0 : ℚ) < 2 ^ gridExp num den := zpow_pos (by norm_num) _
  have countHigh : (2 : ℚ) ^ 53 - 1 / 2 ≤ num / den / 2 ^ gridExp num den := by
    rw [le_div_iff₀ pos, top, ← overflowBound_eq]
    exact big
  have atLeast : (2 : ℚ) ^ 53 ≤ gridCount num den + 1 := by linarith [(abs_le.mp near.1).1]
  have atLeast : 2 ^ 53 ≤ gridCount num den + 1 := by exact_mod_cast atLeast
  have countLe := gridCount_le hn hd
  by_contra ne
  have odd : gridCount num den = 2 ^ 53 - 1 := by omega
  have half : |(gridCount num den : ℚ) - num / den / 2 ^ gridExp num den| = 1 / 2 := by
    apply le_antisymm near.1
    rw [odd, abs_sub_comm, abs_of_nonneg (by norm_num; linarith)]
    norm_num
    linarith
  have even := near.2 half
  rw [odd] at even
  norm_num at even

theorem round_eq_inf_iff (neg : Bool) {num den : Nat} (hn : 0 < num) (hd : 0 < den) :
    round neg num den = .inf neg ↔ overflowBound ≤ num / den := by
  rw [round_eq_grid neg hn hd]
  constructor
  · intro inf
    -- the finite branches contradict the infinity and are closed by the split
    split_ifs at inf with top beyond beyond
    · exact overflowBound_le_of_carry hd top beyond
    · exact overflowBound_le_of_exp hn hd beyond
  · intro big
    have expHigh := floorLog2Ratio_ge_of_overflow hn hd big
    obtain ⟨above, -, -⟩ := gridExp_cases num den
    rcases (show gridExp num den = 971 ∨ 972 ≤ gridExp num den by omega) with top | beyond
    · rw [if_pos (gridCount_eq_top_of_overflow hn hd top big), if_pos (by grind)]
    · split_ifs with isTop limit limit
      · rfl
      · grind
      · rfl
      · grind


/-! ### Rounding a rational -/

theorem round_congr (neg : Bool) {num den num' den' : Nat} (hn : 0 < num) (hd : 0 < den)
    (hn' : 0 < num') (hd' : 0 < den') (same : (num : ℚ) / den = num' / den') :
    round neg num den = round neg num' den' := by
  have sameLog : floorLog2Ratio num den = floorLog2Ratio num' den' := by
    have bounds := floorLog2Ratio_bounds hn hd
    rw [same] at bounds
    exact zpow_exponent_unique bounds (floorLog2Ratio_bounds hn' hd')
  have sameExp : gridExp num den = gridExp num' den' := by
    unfold gridExp
    rw [sameLog]
  have sameCount : gridCount num den = gridCount num' den' := by
    have near := gridCount_near num hd
    rw [same, sameExp] at near
    exact eq_of_near_even near (gridCount_near num' hd')
  rw [round_eq_grid neg hn hd, round_eq_grid neg hn' hd', sameExp, sameCount]

def roundRat (r : ℚ) : Binary64 := round (decide (r < 0)) r.num.natAbs r.den

theorem signed_natAbs_div_den (r : ℚ) :
    (if decide (r < 0) then -(r.num.natAbs : ℚ) else r.num.natAbs) / r.den = r := by
  conv_rhs => rw [← Rat.num_div_den r]
  congr 1
  rw [Nat.cast_natAbs, Int.cast_abs]
  by_cases negative : r < 0
  · have : (r.num : ℚ) < 0 := by exact_mod_cast Rat.num_neg.mpr negative
    simp [negative, abs_of_neg this]
  · have : (0 : ℚ) ≤ r.num := by exact_mod_cast Rat.num_nonneg.mpr (not_lt.mp negative)
    simp [negative, abs_of_nonneg this]

theorem abs_eq_natAbs_div_den (r : ℚ) : |r| = (r.num.natAbs : ℚ) / r.den := by
  conv_lhs => rw [← Rat.num_div_den r]
  rw [abs_div, Nat.cast_natAbs, Int.cast_abs, abs_of_pos (by exact_mod_cast r.den_pos : (0 : ℚ) < r.den)]

theorem round_eq_roundRat (neg : Bool) {num den : Nat} (hn : 0 < num) (hd : 0 < den) :
    round neg num den = roundRat ((if neg then -(num : ℚ) else num) / den) := by
  set r : ℚ := (if neg then -(num : ℚ) else num) / den with hr
  have magnitude : |r| = num / den := by
    rw [hr, abs_div, abs_of_pos (by exact_mod_cast hd : (0 : ℚ) < den)]
    cases neg <;> simp
  have sign : decide (r < 0) = neg := by
    have : (0 : ℚ) < num / den := by positivity
    cases neg
    · simp [hr]; positivity
    · simp [hr, neg_div]; exact this
  have numPos : 0 < r.num.natAbs := by
    apply Int.natAbs_pos.mpr
    rw [Rat.num_ne_zero]
    intro zero
    rw [zero, abs_zero] at magnitude
    have : (0 : ℚ) < num / den := by positivity
    linarith
  rw [roundRat, sign]
  exact round_congr neg hn hd numPos r.den_pos (by rw [← magnitude, abs_eq_natAbs_div_den])

theorem roundRat_roundsToNearestEven {r : ℚ} (small : |r| < overflowBound) :
    RoundsToNearestEven r (roundRat r) := by
  have rounded := round_roundsToNearestEven (decide (r < 0)) r.num.natAbs r.den_pos
  rw [signed_natAbs_div_den] at rounded
  apply rounded
  rcases Nat.eq_zero_or_pos r.num.natAbs with zero | pos
  · rw [zero]; simp [round]
  · rw [Ne, round_eq_inf_iff _ pos r.den_pos, ← abs_eq_natAbs_div_den, not_le]
    exact small

theorem roundRat_of_overflow {r : ℚ} (big : overflowBound ≤ |r|) :
    roundRat r = .inf (decide (r < 0)) := by
  have pos : 0 < r.num.natAbs := by
    apply Int.natAbs_pos.mpr
    rw [Rat.num_ne_zero]
    intro zero
    rw [zero, abs_zero] at big
    have : (0 : ℚ) < overflowBound := by rw [overflowBound]; positivity
    linarith
  rw [roundRat, round_eq_inf_iff _ pos r.den_pos, ← abs_eq_natAbs_div_den]
  exact big

theorem toRat_roundRat_le {r₁ r₂ : ℚ} (le : r₁ ≤ r₂) (small₁ : |r₁| < overflowBound)
    (small₂ : |r₂| < overflowBound) : (roundRat r₁).toRat ≤ (roundRat r₂).toRat := by
  rcases le.lt_or_eq with lt | same
  · have one := roundRat_roundsToNearestEven small₁
    have two := roundRat_roundsToNearestEven small₂
    -- each is at least as near its own rational as the other, which orders them
    have near₁ := sq_le_sq.mpr (one.nearest _ two.canonical)
    have near₂ := sq_le_sq.mpr (two.nearest _ one.canonical)
    by_contra greater
    nlinarith
  · rw [same]

theorem abs_toRat_lt_overflowBound {y : Binary64} (hy : Canonical y) :
    |y.toRat| < overflowBound := by
  match y, hy with
  | .finite s m e, ⟨bound, _, top, _⟩ =>
    have mLe : (m : ℚ) ≤ 2 ^ 53 - 1 := by
      have : (m : ℚ) + 1 ≤ 2 ^ 53 := by exact_mod_cast (show m + 1 ≤ 2 ^ 53 by omega)
      linarith
    have expLe : (2 : ℚ) ^ e ≤ 2 ^ (971 : ℤ) := zpow_le_zpow_right₀ (by norm_num) top
    have pos : (0 : ℚ) < 2 ^ e := zpow_pos (by norm_num) e
    calc |toRat (.finite s m e)| = m * 2 ^ e := by cases s <;> simp [toRat, abs_mul, abs_of_pos pos]
      _ ≤ (2 ^ 53 - 1) * 2 ^ (971 : ℤ) := mul_le_mul mLe expLe pos.le (by norm_num)
      _ < overflowBound := by
        rw [overflowBound_eq]
        exact mul_lt_mul_of_pos_right (by norm_num) (zpow_pos (by norm_num) _)

theorem toRat_roundRat_toRat {y : Binary64} (hy : Canonical y) :
    (roundRat y.toRat).toRat = y.toRat := by
  have nearest := (roundRat_roundsToNearestEven (abs_toRat_lt_overflowBound hy)).nearest y hy
  rw [sub_self, abs_zero] at nearest
  exact sub_eq_zero.mp (abs_nonpos_iff.mp nearest)

end Binary64

end Cyclomatic
