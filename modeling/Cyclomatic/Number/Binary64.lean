/-!
IEEE 754 binary64 values, modelled exactly. A finite value is a sign, an integer significand and a
power of two; every operation computes its exact rational result and rounds it once, to nearest
with ties to even, as the standard asks of a correctly rounded operation.
-/

namespace Cyclomatic

/-- A binary64 value. `finite neg mant exp` stands for `(-1)^neg * mant * 2^exp`. The rounding
functions build only canonical finite values: `mant < 2^53`, `exp ≥ -1074`, and `mant ≥ 2^52`
unless `exp = -1074`, so a real number has one representation apart from the sign of zero. -/
inductive Binary64 where
  | finite (neg : Bool) (mant : Nat) (exp : Int)
  | inf (neg : Bool)
  | nan
deriving Repr, DecidableEq, Inhabited

namespace Binary64

def precision : Nat := 53

/-- Exponent of the least significant bit of the smallest subnormal value. -/
def minExp : Int := -1074

/-- Exponent of the least significant bit of the largest finite values. -/
def maxExp : Int := 971

/-- Whether `num / den ≥ 2^k`, decided in exact arithmetic. -/
def ratioAtLeastPow2 (num den : Nat) (k : Int) : Bool :=
  if 0 ≤ k then decide (den * Nat.pow 2 k.toNat ≤ num)
  else decide (den ≤ num * Nat.pow 2 (-k).toNat)

/-- The `k` with `2^k ≤ num / den < 2^(k+1)`, for positive `num` and `den`: the bit lengths
place it within one of `log2 num - log2 den`. -/
def floorLog2Ratio (num den : Nat) : Int :=
  let k : Int := (Nat.log2 num : Int) - (Nat.log2 den : Int)
  if ratioAtLeastPow2 num den k then k else k - 1

/-- The integer nearest to `num / den`, a tie going to the even neighbour. -/
def divRoundEven (num den : Nat) : Nat :=
  let q := num / den
  let r := num % den
  if den < 2 * r ∨ (2 * r = den ∧ q % 2 = 1) then q + 1 else q

/-- The binary64 value nearest to `num / den` with the given sign, ties to even; a result
beyond the largest finite value is an infinity. `den = 0` is read as zero. -/
def round (neg : Bool) (num den : Nat) : Binary64 :=
  if num = 0 ∨ den = 0 then .finite neg 0 minExp
  else
    let e : Int := max (floorLog2Ratio num den - 52) minExp
    let q :=
      if 0 ≤ e then divRoundEven num (den * Nat.pow 2 e.toNat)
      else divRoundEven (num * Nat.pow 2 (-e).toNat) den
    let (q, e) := if q = Nat.pow 2 precision then (Nat.pow 2 (precision - 1), e + 1) else (q, e)
    if maxExp < e then .inf neg else .finite neg q e

def ofInt (n : Int) : Binary64 :=
  round (n < 0) n.natAbs 1

def zero : Binary64 := .finite false 0 minExp

def isZero : Binary64 → Bool
  | .finite _ m _ => m == 0
  | _ => false

def isNaN : Binary64 → Bool
  | .nan => true
  | _ => false

def signBit : Binary64 → Bool
  | .finite neg _ _ => neg
  | .inf neg => neg
  | .nan => false

def neg : Binary64 → Binary64
  | .finite s m e => .finite (!s) m e
  | .inf s => .inf (!s)
  | .nan => .nan

/-- A finite value as a signed integer numerator over a power of two: `(n, k)` stands for
`n * 2^k`. -/
def scaled : Binary64 → Int × Int
  | .finite s m e => (if s then -(m : Int) else m, e)
  | _ => (0, 0)

def roundScaled (zeroNeg : Bool) (n k : Int) : Binary64 :=
  if n = 0 then .finite zeroNeg 0 minExp
  else if 0 ≤ k then round (n < 0) (n.natAbs * Nat.pow 2 k.toNat) 1
  else round (n < 0) n.natAbs (Nat.pow 2 (-k).toNat)

def sumScaled (a b : Binary64) : Int × Int :=
  let (na, ka) := a.scaled
  let (nb, kb) := b.scaled
  let k := min ka kb
  (na * Int.pow 2 (ka - k).toNat + nb * Int.pow 2 (kb - k).toNat, k)

/-- Sum, correctly rounded. An exact zero sum is positive unless both terms are negative zeros;
infinities of opposite signs give NaN. -/
def add (a b : Binary64) : Binary64 :=
  match a, b with
  | .nan, _ => .nan
  | _, .nan => .nan
  | .inf s, .inf t => if s == t then .inf s else .nan
  | .inf s, _ => .inf s
  | _, .inf t => .inf t
  | .finite s _ _, .finite t _ _ =>
    let (n, k) := sumScaled a b
    roundScaled (s && t) n k

def sub (a b : Binary64) : Binary64 := add a b.neg

/-- Product, correctly rounded; the sign of a zero or infinite result is the exclusive or of
the signs, and zero times infinity is NaN. -/
def mul (a b : Binary64) : Binary64 :=
  match a, b with
  | .nan, _ => .nan
  | _, .nan => .nan
  | .inf s, .inf t => .inf (s != t)
  | .inf s, .finite t m _ => if m = 0 then .nan else .inf (s != t)
  | .finite s m _, .inf t => if m = 0 then .nan else .inf (s != t)
  | .finite s m e, .finite t m' e' => roundScaled (s != t) (if s != t then -((m * m' : Nat) : Int) else (m * m' : Nat)) (e + e')

/-- Quotient, correctly rounded, following the standard for zero and infinite operands. -/
def div (a b : Binary64) : Binary64 :=
  match a, b with
  | .nan, _ => .nan
  | _, .nan => .nan
  | .inf _, .inf _ => .nan
  | .inf s, .finite t _ _ => .inf (s != t)
  | .finite s _ _, .inf t => .finite (s != t) 0 minExp
  | .finite s m e, .finite t m' e' =>
    if m' = 0 then (if m = 0 then .nan else .inf (s != t))
    else
      -- m 2^e / (m' 2^e') = (m / m') 2^(e - e')
      let k := e - e'
      if 0 ≤ k then round (s != t) (m * Nat.pow 2 k.toNat) m'
      else round (s != t) m (m' * Nat.pow 2 (-k).toNat)

def compareFinite (a b : Binary64) : Int :=
  let (n, _) := sumScaled a b.neg
  if n < 0 then -1 else if n = 0 then 0 else 1

/-- The strict order of the standard: false whenever either side is NaN, and the two zeros are
equal. -/
def lt (a b : Binary64) : Bool :=
  match a, b with
  | .nan, _ => false
  | _, .nan => false
  | .inf s, .inf t => s && !t
  | .inf s, _ => s
  | _, .inf t => !t
  | _, _ => compareFinite a b < 0

/-- Numeric equality of the standard: NaN equals nothing and the two zeros are equal. -/
def eq (a b : Binary64) : Bool :=
  match a, b with
  | .nan, _ => false
  | _, .nan => false
  | .inf s, .inf t => s == t
  | .inf _, _ => false
  | _, .inf _ => false
  | _, _ => compareFinite a b == 0

/-- The integer nearest to a finite value, a tie going to the even neighbour. -/
def roundHalfEven : Binary64 → Option Int
  | .finite s m e =>
    let n : Nat := if 0 ≤ e then m * Nat.pow 2 e.toNat else divRoundEven m (Nat.pow 2 (-e).toNat)
    some (if s then -(n : Int) else n)
  | _ => none

def truncate : Binary64 → Option Int
  | .finite s m e =>
    let n : Nat := if 0 ≤ e then m * Nat.pow 2 e.toNat else m / Nat.pow 2 (-e).toNat
    some (if s then -(n : Int) else n)
  | _ => none

def isIntegral : Binary64 → Bool
  | .finite _ m e => 0 ≤ e || m % Nat.pow 2 (-e).toNat == 0
  | _ => false

end Binary64

end Cyclomatic
