import Cyclomatic.Number.Binary64

/-!
Decimal text of binary64 values. `Binary64.shortest` finds, for a finite nonzero value, the
decimal with the fewest significant digits that rounds back to it, the nearer of two (an exact
tie to the even last digit), testing the value's neighbours on each decimal grid against the
interval of reals that round to it in exact arithmetic. How the digits are laid out is a
`FloatLayout`, chosen by the module that writes the text.
-/

namespace Cyclomatic

/-- A nonnegative rational `num / den`, compared in exact arithmetic. -/
structure Ratio where
  num : Nat
  den : Nat

namespace Ratio

def le (a b : Ratio) : Bool := a.num * b.den ≤ b.num * a.den

def lt (a b : Ratio) : Bool := a.num * b.den < b.num * a.den

def pow2 (k : Int) : Ratio :=
  if 0 ≤ k then ⟨Nat.pow 2 k.toNat, 1⟩ else ⟨1, Nat.pow 2 (-k).toNat⟩

def pow10 (k : Int) : Ratio :=
  if 0 ≤ k then ⟨Nat.pow 10 k.toNat, 1⟩ else ⟨1, Nat.pow 10 (-k).toNat⟩

def mul (a b : Ratio) : Ratio := ⟨a.num * b.num, a.den * b.den⟩

def dist (a b : Ratio) : Ratio :=
  let x := a.num * b.den
  let y := b.num * a.den
  ⟨if x ≤ y then y - x else x - y, a.den * b.den⟩

end Ratio

/-- The `k` with `10^k ≤ r < 10^(k+1)`, for a positive ratio: a first guess from the binary
exponent, then corrected while it is off. -/
def floorLog10 (r : Ratio) : Int :=
  let guess := (Binary64.floorLog2Ratio r.num r.den * 30103) / 100000
  let rec fix : Nat → Int → Int
    | 0, k => k
    | fuel + 1, k =>
      if !(Ratio.pow10 k).le r then fix fuel (k - 1)
      else if (Ratio.pow10 (k + 1)).le r then fix fuel (k + 1)
      else k
  fix 8 guess

def natDigits (n : Nat) : List Nat :=
  (Nat.toDigits 10 n).map fun c => c.toNat - '0'.toNat

/-- A decimal `digits × 10^(point - digits.length)` with no trailing zero digit: the value is
`0.d₁d₂… × 10^point`. -/
structure DecimalDigits where
  digits : List Nat
  point : Int
deriving Repr, DecidableEq

def DecimalDigits.ofScaled (c : Nat) (k : Int) : DecimalDigits :=
  let ds := natDigits c
  let kept := (ds.reverse.dropWhile (· == 0)).reverse
  ⟨kept, k + ds.length⟩

namespace Binary64

/-- The interval of reals that round to the positive finite value `m * 2^e`, as
`(low, high, closed)`: its ends are halfway to the neighbours, and belong to it when `m` is
even. Below a power of two the lower neighbour is twice as close. -/
def roundingInterval (m : Nat) (e : Int) : Ratio × Ratio × Bool :=
  let unit := Ratio.pow2 (e - 2)
  let lowNum := if m = Nat.pow 2 (precision - 1) ∧ minExp < e then 4 * m - 1 else 4 * m - 2
  (Ratio.mul ⟨lowNum, 1⟩ unit, Ratio.mul ⟨4 * m + 2, 1⟩ unit, m % 2 == 0)

/-- The shortest decimal that reads back as the positive value `m * 2^e`; the nearer of two. -/
def shortestPositive (m : Nat) (e : Int) : DecimalDigits :=
  let x := Ratio.mul ⟨m, 1⟩ (Ratio.pow2 e)
  let (low, high, closed) := roundingInterval m e
  let inside (c : Nat) (k : Int) : Bool :=
    let v := Ratio.mul ⟨c, 1⟩ (Ratio.pow10 k)
    if closed then low.le v && v.le high else low.lt v && v.lt high
  let top := floorLog10 x
  let rec search : Nat → Nat → DecimalDigits
    | 0, _ => DecimalDigits.ofScaled m 0
    | fuel + 1, n =>
      let k : Int := top - n + 1
      let grid := Ratio.pow10 k
      let c := (x.num * grid.den) / (x.den * grid.num)
      let below := inside c k
      let above := inside (c + 1) k
      if below && above then
        let dBelow := Ratio.dist x (Ratio.mul ⟨c, 1⟩ grid)
        let dAbove := Ratio.dist x (Ratio.mul ⟨c + 1, 1⟩ grid)
        if dBelow.lt dAbove then DecimalDigits.ofScaled c k
        else if dAbove.lt dBelow then DecimalDigits.ofScaled (c + 1) k
        else if c % 2 == 0 then DecimalDigits.ofScaled c k
        else DecimalDigits.ofScaled (c + 1) k
      else if below then DecimalDigits.ofScaled c k
      else if above then DecimalDigits.ofScaled (c + 1) k
      else search fuel (n + 1)
  search 17 1

/-- The shortest round-trip digits of a finite nonzero value's magnitude; `none` for zeros,
infinities and NaN. -/
def shortest : Binary64 → Option DecimalDigits
  | .finite _ m e => if m = 0 then none else some (shortestPositive m e)
  | _ => none

/-- The value `±digits × 10^exp10`, correctly rounded. A value of more than 400 digits before
the point is past the largest finite value, and one whose first digit is more than 400 places
after the point is below half the least positive one, so neither needs the power of ten. -/
def ofDecimal (neg : Bool) (digits : Nat) (exp10 : Int) : Binary64 :=
  let size : Int := (Nat.toDigits 10 digits).length
  if digits = 0 then round neg 0 1
  else if exp10 + size > 400 then .inf neg
  else if exp10 + size < -400 then round neg 0 1
  else if 0 ≤ exp10 then round neg (digits * Nat.pow 10 exp10.toNat) 1
  else round neg digits (Nat.pow 10 (-exp10).toNat)

end Binary64

/-- How a binary64 value is written: positional notation is used when the decimal point falls
in `(positionalLow, positionalHigh]` relative to the first digit, a whole number keeps a `.0`
when `pointZero`, an exponent is written with `mark`, an explicit sign and at least
`expDigits` digits, and the special values have fixed texts. -/
structure FloatLayout where
  positionalLow : Int
  positionalHigh : Int
  pointZero : Bool
  mark : String
  expDigits : Nat
  infText : String
  nanText : String

def padZeros (width : Nat) (s : String) : String :=
  String.ofList (List.replicate (width - s.length) '0') ++ s

def digitText (ds : List Nat) : String :=
  String.ofList (ds.map fun d => Char.ofNat (d + '0'.toNat))

namespace Binary64

def renderDigits (layout : FloatLayout) (d : DecimalDigits) : String :=
  let ds := digitText d.digits
  let n : Int := d.digits.length
  if layout.positionalLow < d.point ∧ d.point ≤ layout.positionalHigh then
    if d.point ≤ 0 then
      "0." ++ String.ofList (List.replicate (-d.point).toNat '0') ++ ds
    else if d.point < n then
      digitText (d.digits.take d.point.toNat) ++ "." ++ digitText (d.digits.drop d.point.toNat)
    else
      ds ++ String.ofList (List.replicate (d.point - n).toNat '0') ++
        (if layout.pointZero then ".0" else "")
  else
    let first := digitText (d.digits.take 1)
    let rest := digitText (d.digits.drop 1)
    let mant := if rest.isEmpty then first else first ++ "." ++ rest
    let ex := d.point - 1
    let sign := if ex < 0 then "-" else "+"
    mant ++ layout.mark ++ sign ++ padZeros layout.expDigits (toString ex.natAbs)

def render (layout : FloatLayout) (x : Binary64) : String :=
  match x with
  | .nan => layout.nanText
  | .inf s => (if s then "-" else "") ++ layout.infText
  | .finite s _ _ =>
    let sign := if s then "-" else ""
    match x.shortest with
    | none => sign ++ (if layout.pointZero then "0.0" else "0")
    | some d => sign ++ renderDigits layout d

/-- The value rounded to `places` decimals (ties to even, on the exact binary value) and written
positionally with exactly that many decimals. -/
def fixed (places : Nat) (x : Binary64) : String :=
  match x with
  | .nan => "nan"
  | .inf s => (if s then "-" else "") ++ "inf"
  | .finite s m e =>
    let r := Ratio.mul ⟨m, 1⟩ (Ratio.pow2 e)
    let q := divRoundEven (r.num * Nat.pow 10 places) r.den
    let whole := toString (q / Nat.pow 10 places)
    let frac := padZeros places (toString (q % Nat.pow 10 places))
    (if s then "-" else "") ++ whole ++ (if places = 0 then "" else "." ++ frac)

end Binary64

end Cyclomatic
