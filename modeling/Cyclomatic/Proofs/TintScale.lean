import Cyclomatic.Proofs.FloatArithmetic
import Cyclomatic.Tint

/-!
Tints of integer scores. `factorOf` clamps a rounded quotient: the score's distance from the
start over the width of the scale, or over `epsilon` when the scale is collapsed. Read through
`unitValue`, the factor is monotone in the score and takes 0 and 1 at the ends of the scale, and
each channel stays in its range, shrinking as the factor grows. A tint exists exactly when the
quotient is within the range of binary64.
-/

namespace Cyclomatic

open Binary64

namespace Tint

theorem epsilon_eq : epsilon = .finite false 4835703278458517 (-82) := rfl
theorem floatZero_eq : floatZero = .finite false 0 minExp := rfl
theorem floatOne_eq : floatOne = .finite false (2 ^ 52) (-52) := rfl

theorem toRat_epsilon : epsilon.toRat = 4835703278458517 / 2 ^ 82 := by
  rw [epsilon_eq]
  simp [toRat, zpow_neg, div_eq_mul_inv]

theorem epsilon_pos : 0 < epsilon.toRat := by
  rw [toRat_epsilon]
  norm_num

theorem epsilon_lt_one : epsilon.toRat < 1 := by
  rw [toRat_epsilon]
  norm_num

theorem floatZero_exact : Canonical floatZero ∧ floatZero.toRat = 0 := ofInt_exact (by decide)
theorem floatOne_exact : Canonical floatOne ∧ floatOne.toRat = 1 := ofInt_exact (by decide)

/-- The width of a scale whose end is `w` past its start: `w` when positive, else `epsilon`. -/
theorem width_eq (w : ℤ) :
    Num.maxLeft (.int w) (.float epsilon) = if 0 < w then .int w else .float epsilon := by
  rw [Num.maxLeft, epsilon_eq, Num.lt_int_finite, ← epsilon_eq]
  by_cases positive : 0 < w
  · have wide : ¬(w : ℚ) < epsilon.toRat := by
      have : (1 : ℚ) ≤ w := by exact_mod_cast positive
      linarith [epsilon_lt_one]
    simp [positive, wide]
  · have narrow : (w : ℚ) < epsilon.toRat := by
      have : (w : ℚ) ≤ 0 := by exact_mod_cast not_lt.mp positive
      linarith [epsilon_pos]
    simp [positive, narrow]

def clampUnit (raw : Binary64) : Binary64 :=
  let low := if Binary64.lt raw floatZero then floatZero else raw
  if Binary64.lt floatOne low then floatOne else low

/-- The quotient that `factorOf` clamps, for an integer score: the distance from the start over
the width of the scale, or over `epsilon` when the scale is collapsed. -/
def quotient (x start stop : ℤ) : Except NumError Binary64 :=
  if start < stop then Num.divInts (x - start) (stop - start)
  else (Num.toFloat (.int (x - start))).map (div · epsilon)

theorem factorOf_int (x start stop : ℤ) :
    factorOf (.int x) start stop = (quotient x start stop).map clampUnit := by
  unfold factorOf quotient
  rw [width_eq]
  by_cases proper : start < stop
  · simp only [sub_pos.mpr proper, if_true, proper]
    show (Num.divInts (x - start) (stop - start) >>= fun raw => pure (clampUnit raw)) = _
    cases Num.divInts (x - start) (stop - start) <;> rfl
  · simp only [sub_pos, proper, if_false]
    show (Num.div (.int (x - start)) (.float epsilon) >>= fun raw => pure (clampUnit raw)) = _
    simp only [Num.div]
    cases Num.toFloat (.int (x - start)) <;> rfl

theorem quotient_of_lt (x : ℤ) {start stop : ℤ} (proper : start < stop) :
    ∃ raw, Rounds (((x : ℚ) - start) / (stop - start)) raw ∧ quotient x start stop =
      if |((x : ℚ) - start) / (stop - start)| < overflowBound then .ok raw
      else .error .quotientTooLarge := by
  obtain ⟨raw, rounds, eq⟩ := Num.divInts_of_ne (x - start) (show stop - start ≠ 0 by omega)
  push_cast at rounds eq
  exact ⟨raw, rounds, by rw [quotient, if_pos proper, eq]⟩

theorem quotient_of_le {x start stop : ℤ} (collapsed : stop ≤ start) :
    quotient x start stop = if |(x : ℚ) - start| < overflowBound
      then .ok (div (ofInt (x - start)) epsilon) else .error .intTooLarge := by
  rw [quotient, if_neg (not_lt.mpr collapsed), Num.toFloat_int]
  push_cast
  split <;> rfl

/-- On a collapsed scale the quotient rounds the score's rounded distance over `epsilon`. -/
theorem div_epsilon_rounds (n : ℤ) (small : |(n : ℚ)| < overflowBound) :
    Rounds ((ofInt n).toRat / epsilon.toRat) (div (ofInt n) epsilon) := by
  obtain ⟨s, m, e, eq⟩ := ((ofInt_rounds n).canonical small).exists_finite
  rw [eq, epsilon_eq]
  exact div_rounds s m e false (-82) (by norm_num)

theorem one_not_lt_zero : Binary64.lt floatOne floatZero = false := by
  rw [floatOne_eq, floatZero_eq, lt_finite, ← floatOne_eq, ← floatZero_eq, floatOne_exact.2,
    floatZero_exact.2]
  norm_num

theorem clampUnit_cases {x : Binary64} (hx : Canonical x) :
    (x.toRat < 0 ∧ clampUnit x = floatZero) ∨ (1 < x.toRat ∧ clampUnit x = floatOne) ∨
      (0 ≤ x.toRat ∧ x.toRat ≤ 1 ∧ clampUnit x = x) := by
  obtain ⟨s, m, e, rfl⟩ := hx.exists_finite
  have below : Binary64.lt (.finite s m e) floatZero = decide (toRat (.finite s m e) < 0) := by
    rw [floatZero_eq, lt_finite, ← floatZero_eq, floatZero_exact.2]
  have above : Binary64.lt floatOne (.finite s m e) = decide (1 < toRat (.finite s m e)) := by
    rw [floatOne_eq, lt_finite, ← floatOne_eq, floatOne_exact.2]
  by_cases negative : toRat (.finite s m e) < 0
  · refine .inl ⟨negative, ?_⟩
    simp only [clampUnit, below, negative, decide_true, if_true, one_not_lt_zero,
      Bool.false_eq_true, if_false]
  · by_cases big : 1 < toRat (.finite s m e)
    · refine .inr (.inl ⟨big, ?_⟩)
      simp only [clampUnit, below, negative, above, big, decide_true, decide_false, if_true,
        Bool.false_eq_true, if_false]
    · refine .inr (.inr ⟨not_lt.mp negative, not_lt.mp big, ?_⟩)
      simp only [clampUnit, below, negative, above, big, decide_false, Bool.false_eq_true,
        if_false]

theorem clampUnit_inf (neg : Bool) :
    clampUnit (.inf neg) = if neg then floatZero else floatOne := by
  cases neg
  · rfl
  · show (if Binary64.lt floatOne floatZero then floatOne else floatZero) = floatZero
    rw [one_not_lt_zero]
    rfl

/-- Where `clampUnit` puts a value: its own value clamped to `[0, 1]`, or the end of `[0, 1]` on
the side of an infinity. -/
def unitValue : Binary64 → ℚ
  | .finite s m e => max 0 (min 1 (toRat (.finite s m e)))
  | .inf neg => if neg then 0 else 1
  | .nan => 0

theorem unitValue_nonneg (x : Binary64) : 0 ≤ unitValue x := by
  cases x with
  | finite s m e => exact le_max_left _ _
  | inf neg => cases neg <;> simp [unitValue]
  | nan => exact le_rfl

theorem unitValue_le_one (x : Binary64) : unitValue x ≤ 1 := by
  cases x with
  | finite s m e => exact max_le zero_le_one (min_le_left _ _)
  | inf neg => cases neg <;> simp [unitValue]
  | nan => exact zero_le_one

theorem unitValue_of_canonical {x : Binary64} (hx : Canonical x) :
    unitValue x = max 0 (min 1 x.toRat) := by
  obtain ⟨s, m, e, rfl⟩ := hx.exists_finite
  rfl

/-- The clamped value is canonical and stands for `unitValue`. -/
theorem clampUnit_spec {x : Binary64} (hx : Canonical x ∨ ∃ neg, x = .inf neg) :
    Canonical (clampUnit x) ∧ (clampUnit x).toRat = unitValue x := by
  rcases hx with hx | ⟨neg, rfl⟩
  · rw [unitValue_of_canonical hx]
    rcases clampUnit_cases hx with ⟨negative, eq⟩ | ⟨big, eq⟩ | ⟨nonneg, le_one, eq⟩
    · rw [eq, floatZero_exact.2, min_eq_right (by linarith), max_eq_left negative.le]
      exact ⟨floatZero_exact.1, rfl⟩
    · rw [eq, floatOne_exact.2, min_eq_left big.le, max_eq_right zero_le_one]
      exact ⟨floatOne_exact.1, rfl⟩
    · rw [eq, min_eq_right le_one, max_eq_right nonneg]
      exact ⟨hx, rfl⟩
  · rw [clampUnit_inf]
    cases neg
    · exact ⟨floatOne_exact.1, floatOne_exact.2⟩
    · exact ⟨floatZero_exact.1, floatZero_exact.2⟩

theorem unitValue_of_rounds {r : ℚ} {x : Binary64} (h : Rounds r x) :
    unitValue x = unitValue (roundRat r) := by
  rcases h with rfl | ⟨rfl, s, rfl⟩
  · rfl
  · rw [roundRat_zero]
    cases s <;> simp [unitValue, toRat]

theorem roundRat_one : roundRat 1 = floatOne := by
  decide

/-- Rounding and clamping together are monotone, infinities included. -/
theorem unitValue_roundRat_mono {r₁ r₂ : ℚ} (le : r₁ ≤ r₂) :
    unitValue (roundRat r₁) ≤ unitValue (roundRat r₂) := by
  by_cases small₁ : |r₁| < overflowBound
  · by_cases small₂ : |r₂| < overflowBound
    · rw [unitValue_of_canonical (roundRat_roundsToNearestEven small₁).canonical,
        unitValue_of_canonical (roundRat_roundsToNearestEven small₂).canonical]
      exact max_le_max le_rfl (min_le_min le_rfl (toRat_roundRat_le le small₁ small₂))
    · -- `r₂` lies beyond the bound on the positive side
      have positive : ¬r₂ < 0 := by
        intro negative
        rw [abs_of_neg negative] at small₂
        rw [abs_lt] at small₁
        linarith
      rw [roundRat_of_overflow (not_lt.mp small₂), decide_eq_false positive]
      exact unitValue_le_one _
  · by_cases negative : r₁ < 0
    · rw [roundRat_of_overflow (not_lt.mp small₁), decide_eq_true negative]
      exact unitValue_nonneg _
    · -- `r₁` lies beyond the bound on the positive side, and `r₂` with it
      rw [abs_of_nonneg (not_lt.mp negative)] at small₁
      have positive : ¬r₂ < 0 := by linarith
      have big₂ : overflowBound ≤ |r₂| := by rw [abs_of_nonneg (not_lt.mp positive)]; linarith
      rw [roundRat_of_overflow (by rw [abs_of_nonneg (not_lt.mp negative)]; linarith),
        roundRat_of_overflow big₂, decide_eq_false negative, decide_eq_false positive]

theorem unitValue_roundRat_of_nonpos {r : ℚ} (h : r ≤ 0) : unitValue (roundRat r) = 0 := by
  have := unitValue_roundRat_mono h
  rw [roundRat_zero] at this
  exact le_antisymm (by simpa [unitValue, toRat] using this) (unitValue_nonneg _)

theorem unitValue_roundRat_of_one_le {r : ℚ} (h : 1 ≤ r) : unitValue (roundRat r) = 1 := by
  have := unitValue_roundRat_mono h
  rw [roundRat_one, unitValue_of_canonical floatOne_exact.1, floatOne_exact.2] at this
  exact le_antisymm (unitValue_le_one _) (by simpa using this)

/-- On a proper scale the clamped factor is the nearest value, ties to even, to the clamped
ratio. -/
theorem roundsToNearestEven_clampUnit {q : ℚ} {x : Binary64} (h : Rounds q x)
    (small : |q| < overflowBound) : RoundsToNearestEven (max 0 (min 1 q)) (clampUnit x) := by
  have hx := h.canonical small
  obtain ⟨zero, zeroValue⟩ := floatZero_exact
  obtain ⟨one, oneValue⟩ := floatOne_exact
  rcases clampUnit_cases hx with ⟨negative, eq⟩ | ⟨big, eq⟩ | ⟨nonneg, le_one, eq⟩
  · -- a negative rounding comes from a negative quotient
    have below : q < 0 := by
      by_contra nonneg
      have := h.le_toRat zero (by rw [zeroValue]; exact not_lt.mp nonneg) small
      rw [zeroValue] at this
      linarith
    rw [eq, min_eq_right (by linarith), max_eq_left below.le, ← zeroValue]
    exact .of_canonical zero
  · have above : 1 < q := by
      by_contra le
      have := h.toRat_le_of_le one (by rw [oneValue]; exact not_lt.mp le) small
      rw [oneValue] at this
      linarith
    rw [eq, min_eq_left above.le, max_eq_right zero_le_one, ← oneValue]
    exact .of_canonical one
  · -- the rounding is kept; outside `[0, 1]` it can only be an end of `[0, 1]`
    rw [eq]
    rcases lt_or_ge q 0 with below | nonneg_q
    · have atMost := h.toRat_le_of_le zero (by rw [zeroValue]; exact below.le) small
      rw [zeroValue] at atMost
      rw [min_eq_right (by linarith), max_eq_left below.le, ← le_antisymm atMost nonneg]
      exact .of_canonical hx
    · rcases le_or_gt q 1 with le | above
      · rw [min_eq_right le, max_eq_right nonneg_q]
        exact h.roundsToNearestEven small
      · have atLeast := h.le_toRat one (by rw [oneValue]; exact above.le) small
        rw [oneValue] at atLeast
        rw [min_eq_left above.le, max_eq_right zero_le_one, ← le_antisymm le_one atLeast]
        exact .of_canonical hx

/-- The rational whose rounding the factor clamps: the ratio on a proper scale, and on a
collapsed one the score's rounded distance from the start over `epsilon`. -/
def exactQuotient (x start stop : ℤ) : ℚ :=
  if start < stop then ((x : ℚ) - start) / (stop - start)
  else (ofInt (x - start)).toRat / epsilon.toRat

/-- A factor as `factorOf` gives it: a canonical value in `[0, 1]`. -/
structure UnitFactor (f : Binary64) : Prop where
  canonical : Canonical f
  nonneg : 0 ≤ f.toRat
  le_one : f.toRat ≤ 1

section Factor

variable {x start stop : ℤ} {f : Binary64}

theorem width_pos (proper : start < stop) : (0 : ℚ) < stop - start := by
  have : (start : ℚ) < stop := by exact_mod_cast proper
  linarith

/-- On a proper scale a factor with a value clamps the rounding of the ratio, which is within
range. -/
theorem factorOf_of_lt (h : factorOf (.int x) start stop = .ok f) (proper : start < stop) :
    ∃ raw, Rounds (((x : ℚ) - start) / (stop - start)) raw ∧
      |((x : ℚ) - start) / (stop - start)| < overflowBound ∧ f = clampUnit raw := by
  rw [factorOf_int] at h
  obtain ⟨raw, rounds, eq⟩ := quotient_of_lt x proper
  rw [eq] at h
  split at h
  · next small =>
    cases h
    exact ⟨raw, rounds, small, rfl⟩
  · cases h

/-- On a collapsed scale a factor with a value had the score's distance within range, and clamps
that distance over `epsilon`. -/
theorem factorOf_of_le (h : factorOf (.int x) start stop = .ok f) (collapsed : stop ≤ start) :
    |((x - start : ℤ) : ℚ)| < overflowBound ∧ f = clampUnit (div (ofInt (x - start)) epsilon) := by
  rw [factorOf_int, quotient_of_le collapsed] at h
  split at h
  · next small =>
    cases h
    exact ⟨by push_cast; exact small, rfl⟩
  · cases h

/-- When it has a value, the factor is canonical and stands for the rounded, clamped
quotient. -/
theorem factorOf_spec (h : factorOf (.int x) start stop = .ok f) :
    Canonical f ∧ f.toRat = unitValue (roundRat (exactQuotient x start stop)) := by
  by_cases proper : start < stop
  · obtain ⟨raw, rounds, small, rfl⟩ := factorOf_of_lt h proper
    rw [exactQuotient, if_pos proper, ← unitValue_of_rounds rounds]
    exact clampUnit_spec (.inl (rounds.canonical small))
  · obtain ⟨small, rfl⟩ := factorOf_of_le h (not_lt.mp proper)
    have rounds := div_epsilon_rounds (x - start) small
    rw [exactQuotient, if_neg proper, ← unitValue_of_rounds rounds]
    exact clampUnit_spec (rounds.canonical_or_inf.imp id fun eq => ⟨_, eq⟩)

theorem factorOf_unit (h : factorOf (.int x) start stop = .ok f) : UnitFactor f where
  canonical := (factorOf_spec h).1
  nonneg := (factorOf_spec h).2 ▸ unitValue_nonneg _
  le_one := (factorOf_spec h).2 ▸ unitValue_le_one _

theorem factorOf_roundsToNearestEven (h : factorOf (.int x) start stop = .ok f)
    (proper : start < stop) :
    RoundsToNearestEven (max 0 (min 1 (((x : ℚ) - start) / (stop - start)))) f := by
  obtain ⟨raw, rounds, small, rfl⟩ := factorOf_of_lt h proper
  exact roundsToNearestEven_clampUnit rounds small

theorem factorOf_of_le_start (h : factorOf (.int x) start stop = .ok f) (low : x ≤ start) :
    f.toRat = 0 := by
  rw [(factorOf_spec h).2]
  apply unitValue_roundRat_of_nonpos
  have below : (x : ℚ) - start ≤ 0 := by
    have : (x : ℚ) ≤ start := by exact_mod_cast low
    linarith
  rw [exactQuotient]
  split
  · next proper =>
    exact div_nonpos_of_nonpos_of_nonneg below (width_pos proper).le
  · next collapsed =>
    have atMost := (ofInt_rounds (x - start)).toRat_le_of_le floatZero_exact.1
      (by rw [floatZero_exact.2]; push_cast; exact below) (factorOf_of_le h (not_lt.mp collapsed)).1
    rw [floatZero_exact.2] at atMost
    exact div_nonpos_of_nonpos_of_nonneg atMost epsilon_pos.le

theorem factorOf_of_full (h : factorOf (.int x) start stop = .ok f)
    (full : (start < stop ∧ stop ≤ x) ∨ (stop ≤ start ∧ start < x)) : f.toRat = 1 := by
  rw [(factorOf_spec h).2]
  apply unitValue_roundRat_of_one_le
  rcases full with ⟨proper, above⟩ | ⟨collapsed, above⟩
  · have beyond : (stop : ℚ) ≤ x := by exact_mod_cast above
    rw [exactQuotient, if_pos proper, le_div_iff₀ (width_pos proper)]
    linarith
  · -- the distance is at least one, and `epsilon` is below one
    have atLeast := (ofInt_rounds (x - start)).le_toRat floatOne_exact.1
      (by rw [floatOne_exact.2]; push_cast; exact_mod_cast (show 1 ≤ x - start by omega))
      (factorOf_of_le h collapsed).1
    rw [floatOne_exact.2] at atLeast
    rw [exactQuotient, if_neg (not_lt.mpr collapsed), le_div_iff₀ epsilon_pos]
    linarith [epsilon_lt_one]

theorem factorOf_mono {y : ℤ} {g : Binary64} (le : x ≤ y)
    (hf : factorOf (.int x) start stop = .ok f) (hg : factorOf (.int y) start stop = .ok g) :
    f.toRat ≤ g.toRat := by
  rw [(factorOf_spec hf).2, (factorOf_spec hg).2]
  apply unitValue_roundRat_mono
  have scores : (x : ℚ) ≤ y := by exact_mod_cast le
  rw [exactQuotient, exactQuotient]
  split
  · next proper =>
    exact div_le_div_of_nonneg_right (by linarith) (width_pos proper).le
  · next collapsed =>
    have distances := Rounds.toRat_le (ofInt_rounds (x - start)) (ofInt_rounds (y - start))
      (by push_cast; linarith) (factorOf_of_le hf (not_lt.mp collapsed)).1
      (factorOf_of_le hg (not_lt.mp collapsed)).1
    exact div_le_div_of_nonneg_right distances epsilon_pos.le

end Factor

theorem half_eq : Binary64.ofDecimal false 5 (-1) = .finite false (2 ^ 52) (-53) := rfl

theorem half_exact : Canonical (Binary64.ofDecimal false 5 (-1)) ∧
    (Binary64.ofDecimal false 5 (-1)).toRat = 1 / 2 := by
  rw [half_eq]
  refine ⟨⟨by norm_num, by grind, by grind, .inl le_rfl⟩, ?_⟩
  simp [toRat, zpow_neg]
  norm_num

/-- The value a channel rounds to an integer: `base - factor * darkenAmount * rate`. -/
def shadeValue (f : Binary64) (base : ℤ) (rate : Binary64) : Binary64 :=
  sub (ofInt base) (mul (mul f (ofInt darkenAmount)) rate)

theorem channel_float {f rate : Binary64} {base n : ℤ} (hb : |(base : ℚ)| < overflowBound)
    (rounded : Binary64.roundHalfEven (shadeValue f base rate) = some n) :
    channel (.float f) base rate = .ok (if n < 0 then 0 else n) := by
  have darken : |(darkenAmount : ℚ)| < overflowBound := abs_int_lt_overflowBound (by decide)
  rw [shadeValue] at rounded
  simp only [channel, Num.mul_float_int f darken, bind, Except.bind, Num.mul_float,
    Num.sub_int_float hb, Num.roundHalfEven_float rounded]
  rfl

/-- A channel's rate: a value of the format, at least zero, whose full darkening
`darkenAmount * rate` is a whole number `k` between zero and the base. -/
structure ChannelRate (base k : ℤ) (rate : Binary64) : Prop where
  canonical : Canonical rate
  nonneg : 0 ≤ rate.toRat
  full : (darkenAmount : ℚ) * rate.toRat = k
  full_nonneg : 0 ≤ k
  full_le : k ≤ base
  base_lt : base < 2 ^ 53

namespace ChannelRate

variable {base k : ℤ} {rate : Binary64} (hr : ChannelRate base k rate)

include hr

theorem base_small : base.natAbs < 2 ^ 53 := by
  have := hr.full_nonneg
  have := hr.full_le
  have := hr.base_lt
  omega

theorem full_small : k.natAbs < 2 ^ 53 := by
  have := hr.full_nonneg
  have := hr.full_le
  have := hr.base_lt
  omega

theorem low_small : (base - k).natAbs < 2 ^ 53 := by
  have := hr.full_nonneg
  have := hr.full_le
  have := hr.base_lt
  omega

end ChannelRate

section Channel

variable {f g rate : Binary64} {base k : ℤ}

theorem darken_bounds (hf : UnitFactor f) :
    Canonical (f.mul (ofInt darkenAmount)) ∧ (0 : ℤ) ≤ (f.mul (ofInt darkenAmount)).toRat ∧
      (f.mul (ofInt darkenAmount)).toRat ≤ darkenAmount := by
  obtain ⟨hd, dv⟩ := ofInt_exact (show darkenAmount.natAbs < 2 ^ 53 by decide)
  have rounds := hf.canonical.mul_rounds hd
  rw [dv] at rounds
  have amount : (0 : ℚ) ≤ darkenAmount := by norm_num [darkenAmount]
  exact rounds.between_ints 0 darkenAmount (by decide) (by decide)
    (by push_cast; exact mul_nonneg hf.nonneg amount)
    (by nlinarith [hf.le_one])

theorem shade_bounds (hf : UnitFactor f) (hr : ChannelRate base k rate) :
    Canonical ((f.mul (ofInt darkenAmount)).mul rate) ∧
      (0 : ℤ) ≤ ((f.mul (ofInt darkenAmount)).mul rate).toRat ∧
      ((f.mul (ofInt darkenAmount)).mul rate).toRat ≤ k := by
  obtain ⟨hd, d0, d1⟩ := darken_bounds hf
  have rounds := hd.mul_rounds hr.canonical
  exact rounds.between_ints 0 k (by decide) hr.full_small
    (by push_cast; exact mul_nonneg (by exact_mod_cast d0) hr.nonneg)
    (by rw [← hr.full]; exact mul_le_mul_of_nonneg_right d1 hr.nonneg)

theorem shadeValue_bounds (hf : UnitFactor f) (hr : ChannelRate base k rate) :
    Canonical (shadeValue f base rate) ∧ ((base - k : ℤ) : ℚ) ≤ (shadeValue f base rate).toRat ∧
      (shadeValue f base rate).toRat ≤ base := by
  obtain ⟨hs, s0, s1⟩ := shade_bounds hf hr
  obtain ⟨hb, bv⟩ := ofInt_exact hr.base_small
  have rounds := hb.sub_rounds hs
  rw [bv] at rounds
  exact rounds.between_ints (base - k) base hr.low_small hr.base_small
    (by push_cast; linarith) (by push_cast at s0; linarith)

/-- A larger factor gives a smaller channel value: the darkening and the shade keep the order of
the factors, and subtracting the shade from the base reverses it. -/
theorem shadeValue_antitone (hr : ChannelRate base k rate) (hf : UnitFactor f) (hg : UnitFactor g)
    (le : f.toRat ≤ g.toRat) : (shadeValue g base rate).toRat ≤ (shadeValue f base rate).toRat := by
  obtain ⟨hd, dv⟩ := ofInt_exact (show darkenAmount.natAbs < 2 ^ 53 by decide)
  have amount : (ofInt darkenAmount).toRat = 200 := by rw [dv]; norm_num [darkenAmount]
  have fullBelow : (k : ℚ) ≤ 2 ^ 53 := by exact_mod_cast (show k ≤ 2 ^ 53 by have := hr.full_small; omega)
  have baseBelow : (base : ℚ) ≤ 2 ^ 53 := by exact_mod_cast (show base ≤ 2 ^ 53 by have := hr.base_small; omega)
  -- each of the three roundings keeps the order of its operands, all within `[0, 2^53]`
  obtain ⟨hdf, df0, df1⟩ := darken_bounds hf
  obtain ⟨hdg, dg0, dg1⟩ := darken_bounds hg
  push_cast at df0 dg0
  have darkened := (hf.canonical.mul_rounds hd).toRat_le_of_within (hg.canonical.mul_rounds hd)
    (mul_le_mul_of_nonneg_right le (by rw [amount]; norm_num))
    (by rw [amount]; nlinarith [hf.nonneg]) (by rw [amount]; nlinarith [hg.le_one])
  have reach : ∀ {d : ℚ}, d ≤ darkenAmount → d * rate.toRat ≤ k := fun d1 => by
    rw [← hr.full]
    exact mul_le_mul_of_nonneg_right d1 hr.nonneg
  obtain ⟨hsf, sf0, sf1⟩ := shade_bounds hf hr
  obtain ⟨hsg, sg0, sg1⟩ := shade_bounds hg hr
  push_cast at sf0 sg0
  have shaded := (hdf.mul_rounds hr.canonical).toRat_le_of_within (hdg.mul_rounds hr.canonical)
    (mul_le_mul_of_nonneg_right darkened hr.nonneg) (mul_nonneg df0 hr.nonneg)
    (by linarith [reach dg1])
  obtain ⟨hb, bv⟩ := ofInt_exact hr.base_small
  have low : (k : ℚ) ≤ base := by exact_mod_cast hr.full_le
  have rf := hb.sub_rounds hsf
  have rg := hb.sub_rounds hsg
  rw [bv] at rf rg
  exact rg.toRat_le_of_within rf (sub_le_sub_left shaded _) (by linarith) (by linarith)

theorem channel_spec (hf : UnitFactor f) (hr : ChannelRate base k rate) :
    ∃ n, channel (.float f) base rate = .ok n ∧ NearestInt (shadeValue f base rate).toRat n ∧
      base - k ≤ n ∧ n ≤ base := by
  obtain ⟨hv, lo, hi⟩ := shadeValue_bounds hf hr
  obtain ⟨s, m, e, eq⟩ := hv.exists_finite
  obtain ⟨n, rounded, nearest⟩ := roundHalfEven_finite s m e
  rw [← eq] at rounded nearest
  obtain ⟨n0, n1⟩ := nearest.mem_Icc lo hi
  refine ⟨n, ?_, nearest, n0, n1⟩
  rw [channel_float (abs_int_lt_overflowBound hr.base_small) rounded, if_neg (by have := hr.full_le; omega)]

theorem channel_antitone (hr : ChannelRate base k rate) (hf : UnitFactor f) (hg : UnitFactor g)
    (le : f.toRat ≤ g.toRat) {a b : ℤ} (ha : channel (.float f) base rate = .ok a)
    (hb : channel (.float g) base rate = .ok b) : b ≤ a := by
  obtain ⟨n, hn, nearF, -⟩ := channel_spec hf hr
  obtain ⟨n', hn', nearG, -⟩ := channel_spec hg hr
  rw [hn] at ha
  rw [hn'] at hb
  cases ha
  cases hb
  exact nearG.mono nearF (shadeValue_antitone hr hf hg le)

end Channel

theorem red_rate : ChannelRate base.1 100 rates.1 := by
  obtain ⟨canonical, value⟩ := half_exact
  exact ⟨canonical, by simp only [rates, value]; norm_num,
    by simp only [rates, value]; norm_num [darkenAmount], by norm_num, by norm_num [base],
    by norm_num [base]⟩

theorem green_rate : ChannelRate base.2.1 200 rates.2.1 := by
  obtain ⟨canonical, value⟩ := ofInt_exact (show (1 : ℤ).natAbs < 2 ^ 53 by decide)
  exact ⟨canonical, by simp only [rates, value]; norm_num,
    by simp only [rates, value]; norm_num [darkenAmount], by norm_num, by norm_num [base],
    by norm_num [base]⟩

theorem blue_rate : ChannelRate base.2.2 100 rates.2.2 := by
  obtain ⟨canonical, value⟩ := half_exact
  exact ⟨canonical, by simp only [rates, value]; norm_num,
    by simp only [rates, value]; norm_num [darkenAmount], by norm_num, by norm_num [base],
    by norm_num [base]⟩

theorem colorOf_float {f : Binary64} {r g b : ℤ} (hr : channel (.float f) base.1 rates.1 = .ok r)
    (hg : channel (.float f) base.2.1 rates.2.1 = .ok g)
    (hb : channel (.float f) base.2.2 rates.2.2 = .ok b) : colorOf (.float f) = .ok (r, g, b) := by
  simp only [colorOf, hr, hg, hb, bind, Except.bind]
  rfl

theorem colorOf_spec {f : Binary64} (hf : UnitFactor f) :
    ∃ r g b, colorOf (.float f) = .ok (r, g, b) ∧ (155 ≤ r ∧ r ≤ 255) ∧ (0 ≤ g ∧ g ≤ 200) ∧
      (100 ≤ b ∧ b ≤ 200) := by
  obtain ⟨r, hr, -, r0, r1⟩ := channel_spec hf red_rate
  obtain ⟨g, hg, -, g0, g1⟩ := channel_spec hf green_rate
  obtain ⟨b, hb, -, b0, b1⟩ := channel_spec hf blue_rate
  simp only [base] at r0 r1 g0 g1 b0 b1
  exact ⟨r, g, b, colorOf_float hr hg hb, ⟨by omega, r1⟩, ⟨by omega, g1⟩, ⟨by omega, b1⟩⟩

theorem colorOf_antitone {f g : Binary64} (hf : UnitFactor f) (hg : UnitFactor g)
    (le : f.toRat ≤ g.toRat) {c d : ℤ × ℤ × ℤ} (hc : colorOf (.float f) = .ok c)
    (hd : colorOf (.float g) = .ok d) : d.1 ≤ c.1 ∧ d.2.1 ≤ c.2.1 ∧ d.2.2 ≤ c.2.2 := by
  obtain ⟨r, hr, -⟩ := channel_spec hf red_rate
  obtain ⟨gr, hgr, -⟩ := channel_spec hf green_rate
  obtain ⟨b, hb, -⟩ := channel_spec hf blue_rate
  obtain ⟨r', hr', -⟩ := channel_spec hg red_rate
  obtain ⟨gr', hgr', -⟩ := channel_spec hg green_rate
  obtain ⟨b', hb', -⟩ := channel_spec hg blue_rate
  rw [colorOf_float hr hgr hb] at hc
  rw [colorOf_float hr' hgr' hb'] at hd
  cases hc
  cases hd
  exact ⟨channel_antitone red_rate hf hg le hr hr', channel_antitone green_rate hf hg le hgr hgr',
    channel_antitone blue_rate hf hg le hb hb'⟩

theorem ofScore_eq {score : Num} {start stop : ℤ} {t : Tint}
    (h : ofScore score start stop = .ok t) :
    factorOf score start stop = .ok t.factor ∧
      colorOf (.float t.factor) = .ok (t.red, t.green, t.blue) := by
  unfold ofScore at h
  cases hf : factorOf score start stop with
  | error e =>
    rw [hf] at h
    cases h
  | ok f =>
    rw [hf] at h
    cases hc : colorOf (.float f) with
    | error e =>
      simp only [hc, bind, Except.bind] at h
      cases h
    | ok c =>
      simp only [hc, bind, Except.bind] at h
      cases h
      refine ⟨rfl, ?_⟩
      show colorOf (.float f) = .ok (c.1, c.2.1, c.2.2)
      rw [hc]

/-- A tint as `ofScore` builds it for an integer score: the factor a value in `[0, 1]`, red in
`[155, 255]`, green in `[0, 200]` and blue in `[100, 200]`. -/
structure InRange (t : Tint) : Prop where
  factor : UnitFactor t.factor
  red : 155 ≤ t.red ∧ t.red ≤ 255
  green : 0 ≤ t.green ∧ t.green ≤ 200
  blue : 100 ≤ t.blue ∧ t.blue ≤ 200

theorem ofScore_inRange {x start stop : ℤ} {t : Tint} (h : ofScore (.int x) start stop = .ok t) :
    t.InRange := by
  obtain ⟨hf, hc⟩ := ofScore_eq h
  have unit := factorOf_unit hf
  obtain ⟨r, g, b, hc', red, green, blue⟩ := colorOf_spec unit
  rw [hc'] at hc
  cases hc
  exact ⟨unit, red, green, blue⟩

def hexDigits (n : ℤ) : List Char :=
  [Nat.digitChar (n.toNat / 16), Nat.digitChar (n.toNat % 16)]

theorem hexByte_eq {n : ℤ} (lo : 0 ≤ n) (hi : n < 256) : hexByte n = String.ofList (hexDigits n) := by
  unfold hexByte hexDigits
  by_cases small : n.toNat < 16
  · -- one digit, padded with a zero
    rw [Nat.toDigits_of_lt_base small, Nat.div_eq_of_lt small, Nat.mod_eq_of_lt small]
    simp
    rfl
  · have high : n.toNat / 16 < 16 := by omega
    rw [Nat.toDigits_of_base_le (by norm_num) (not_lt.mp small), Nat.toDigits_of_lt_base high]
    simp

theorem mem_hexDigits {n : ℤ} (lo : 0 ≤ n) (hi : n < 256) :
    ∀ c ∈ hexDigits n, c ∈ "0123456789abcdef".toList := by
  have digit : ∀ d < 16, Nat.digitChar d ∈ "0123456789abcdef".toList := by decide
  simp only [hexDigits, List.mem_cons, List.not_mem_nil, or_false]
  rintro c (rfl | rfl)
  · exact digit _ (by omega)
  · exact digit _ (Nat.mod_lt _ (by norm_num))

/-- A tint in range is written `#` and two lowercase hexadecimal digits per channel. -/
theorem InRange.hex_eq {t : Tint} (h : t.InRange) :
    t.hex = String.ofList ('#' :: hexDigits t.red ++ hexDigits t.green ++ hexDigits t.blue) := by
  rw [hex, hexByte_eq (by linarith [h.red.1]) (by linarith [h.red.2]),
    hexByte_eq h.green.1 (by linarith [h.green.2]), hexByte_eq (by linarith [h.blue.1])
      (by linarith [h.blue.2])]
  simp [String.ofList_append, String.append_assoc]

theorem InRange.hex_length {t : Tint} (h : t.InRange) : t.hex.length = 7 := by
  rw [h.hex_eq, String.length_ofList]
  rfl

/-- Whether the factor of a score stays within the range of binary64: the ratio on a proper
scale, the distance from the start on a collapsed one. -/
def WithinRange (x start stop : ℤ) : Prop :=
  if start < stop then |((x : ℚ) - start) / (stop - start)| < overflowBound
  else |(x : ℚ) - start| < overflowBound

/-- The factor of an integer score has a value exactly within range; beyond it, the failure is
the conversion that overflowed. -/
theorem factorOf_cases (x start stop : ℤ) :
    (WithinRange x start stop ∧ ∃ f, factorOf (.int x) start stop = .ok f) ∨
      (¬WithinRange x start stop ∧ factorOf (.int x) start stop =
        .error (if start < stop then .quotientTooLarge else .intTooLarge)) := by
  rw [factorOf_int, WithinRange]
  by_cases proper : start < stop
  · obtain ⟨raw, -, eq⟩ := quotient_of_lt x proper
    simp only [proper, if_true, eq]
    split
    · exact .inl ⟨‹_›, clampUnit raw, rfl⟩
    · exact .inr ⟨‹_›, rfl⟩
  · simp only [proper, if_false, quotient_of_le (not_lt.mp proper)]
    split
    · exact .inl ⟨‹_›, _, rfl⟩
    · exact .inr ⟨‹_›, rfl⟩

/-- For every integer score on every scale, the tint exists exactly when the factor is within
range, and otherwise the failure names the overflowing conversion. -/
theorem ofScore_ok_iff_withinRange (x start stop : ℤ) :
    ((∃ t, ofScore (.int x) start stop = .ok t) ↔ WithinRange x start stop) ∧
      (¬WithinRange x start stop → ofScore (.int x) start stop =
        .error (if start < stop then .quotientTooLarge else .intTooLarge)) := by
  rcases factorOf_cases x start stop with ⟨within, f, hf⟩ | ⟨beyond, hf⟩
  · -- a factor in range always has a colour
    obtain ⟨r, g, b, hc, -⟩ := colorOf_spec (factorOf_unit hf)
    have built : ofScore (.int x) start stop = .ok ⟨f, r, g, b⟩ := by
      simp only [ofScore, hf, hc, bind, Except.bind]
      rfl
    exact ⟨⟨fun _ => within, fun _ => ⟨_, built⟩⟩, fun outside => absurd within outside⟩
  · have failed : ofScore (.int x) start stop =
        .error (if start < stop then .quotientTooLarge else .intTooLarge) := by
      simp only [ofScore, hf, bind, Except.bind]
    refine ⟨⟨fun ⟨t, ht⟩ => ?_, fun within => absurd within beyond⟩, fun _ => failed⟩
    rw [failed] at ht
    cases ht

theorem ofScore_ok_on_default_scale : ∃ t, ofScore (.int 5) 11 51 = .ok t := by
  refine (ofScore_ok_iff_withinRange 5 11 51).1.2 ?_
  rw [WithinRange, if_pos (by norm_num)]
  exact abs_lt_overflowBound (by norm_num)

/-- A score at the start of a scale collapsed far below zero has no tint: the distance to the
start is converted to binary64 and overflows. -/
theorem ofScore_fails_far_below_zero :
    ofScore (.int 1) (-(10 ^ 400)) (-(10 ^ 400)) = .error .intTooLarge := by
  decide +kernel

/-- What the tints of two integer scores `x ≤ y` on the scale from `start` to `stop` satisfy:
the first is in range and written `#rrggbb`; on a proper scale its factor is the nearest binary64
value, ties to even, to the clamped ratio; the factor is zero up to the start and one from the
end, or past the start of a collapsed scale; and from `x` to `y` the factor grows while every
channel shrinks. -/
structure ScoreTints (start stop x y : ℤ) (tx ty : Tint) : Prop where
  inRange : tx.InRange
  nearest : start < stop →
    RoundsToNearestEven (max 0 (min 1 (((x : ℚ) - start) / (stop - start)))) tx.factor
  zero_of_le_start : x ≤ start → tx.factor.toRat = 0
  one_of_full : (start < stop ∧ stop ≤ x) ∨ (stop ≤ start ∧ start < x) → tx.factor.toRat = 1
  factor_le : tx.factor.toRat ≤ ty.factor.toRat
  channels_ge : ty.red ≤ tx.red ∧ ty.green ≤ tx.green ∧ ty.blue ≤ tx.blue
  hex_digits : tx.hex =
    String.ofList ('#' :: hexDigits tx.red ++ hexDigits tx.green ++ hexDigits tx.blue)
  hex_seven : tx.hex.length = 7

theorem ofScore_scoreTints {x y start stop : ℤ} (le : x ≤ y) {tx ty : Tint}
    (hx : ofScore (.int x) start stop = .ok tx) (hy : ofScore (.int y) start stop = .ok ty) :
    ScoreTints start stop x y tx ty := by
  obtain ⟨fx, cx⟩ := ofScore_eq hx
  obtain ⟨fy, cy⟩ := ofScore_eq hy
  have rangeX := ofScore_inRange hx
  have rangeY := ofScore_inRange hy
  have factors := factorOf_mono le fx fy
  exact ⟨rangeX, factorOf_roundsToNearestEven fx, factorOf_of_le_start fx, factorOf_of_full fx,
    factors, colorOf_antitone rangeX.factor rangeY.factor factors cx cy, rangeX.hex_eq,
    rangeX.hex_length⟩

theorem ofScore_scoreTints_twenty_thirty :
    (20 : ℤ) ≤ 30 ∧
      ofScore (.int 20) 11 51 = .ok ⟨.finite false 8106479329266893 (-55), 232, 155, 178⟩ ∧
      ofScore (.int 30) 11 51 = .ok ⟨.finite false 8556839292003942 (-54), 208, 105, 152⟩ ∧
      ScoreTints 11 51 20 30 ⟨.finite false 8106479329266893 (-55), 232, 155, 178⟩
        ⟨.finite false 8556839292003942 (-54), 208, 105, 152⟩ :=
  have hx : ofScore (.int 20) 11 51 = .ok ⟨.finite false 8106479329266893 (-55), 232, 155, 178⟩ := by
    decide +kernel
  have hy : ofScore (.int 30) 11 51 = .ok ⟨.finite false 8556839292003942 (-54), 208, 105, 152⟩ := by
    decide +kernel
  ⟨by decide, hx, hy, ofScore_scoreTints (by decide) hx hy⟩

end Tint

end Cyclomatic
