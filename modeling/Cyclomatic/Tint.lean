import Cyclomatic.Number.Num
import Cyclomatic.Number.Decimal

/-!
Tints: from a complexity score to a background colour.

Scores at or below the start of the scale map to factor 0, scores at or above its end to
factor 1, linearly in between. A scale whose end is not above its start is read with a width of
`1e-9`, so every score above the start then gets the full tint. The factor darkens a fixed base
colour, each channel at its own rate, and a channel never goes below 0.
-/

namespace Cyclomatic

/-- A factor in `[0, 1]` and the colour it gives. -/
structure Tint where
  factor : Binary64
  red : Int
  green : Int
  blue : Int
deriving Repr, DecidableEq

namespace Tint

/-- The width given to a scale whose end is not above its start. -/
def epsilon : Binary64 := Binary64.ofDecimal false 1 (-9)

def base : Int × Int × Int := (255, 200, 200)

/-- How far the full tint darkens a channel before its rate applies. -/
def darkenAmount : Int := 200

def rates : Binary64 × Binary64 × Binary64 :=
  (Binary64.ofDecimal false 5 (-1), Binary64.ofInt 1, Binary64.ofDecimal false 5 (-1))

def floatZero : Binary64 := Binary64.ofInt 0
def floatOne : Binary64 := Binary64.ofInt 1

/-- The factor of a score on the scale from `start` to `stop`: `(score - start) / width`,
clamped to `[0, 1]`, where the width is `stop - start` or `epsilon` when that is smaller. -/
def factorOf (score : Num) (start stop : Int) : Except NumError Binary64 := do
  let width := Num.maxLeft (.int (stop - start)) (.float epsilon)
  let lifted ← Num.sub score (.int start)
  let raw ← Num.div lifted width
  let low := if Binary64.lt raw floatZero then floatZero else raw
  pure (if Binary64.lt floatOne low then floatOne else low)

/-- One channel: `base - factor * darkenAmount * rate`, rounded half to even, at least 0. -/
def channel (factor : Num) (base : Int) (rate : Binary64) : Except NumError Int := do
  let darken ← Num.mul factor (.int darkenAmount)
  let shade ← Num.mul darken (.float rate)
  let value ← Num.sub (.int base) shade
  let n ← Num.roundHalfEven value
  pure (if n < 0 then 0 else n)

/-- The colour of a factor, channel by channel. There is no upper bound: a negative factor
gives channels above the base. -/
def colorOf (factor : Num) : Except NumError (Int × Int × Int) := do
  let r ← channel factor base.1 rates.1
  let g ← channel factor base.2.1 rates.2.1
  let b ← channel factor base.2.2 rates.2.2
  pure (r, g, b)

def ofScore (score : Num) (start stop : Int) : Except NumError Tint := do
  let f ← factorOf score start stop
  let (r, g, b) ← colorOf (.float f)
  pure ⟨f, r, g, b⟩

def hexByte (n : Int) : String :=
  let ds := String.ofList (Nat.toDigits 16 n.toNat)
  if ds.length < 2 then "0" ++ ds else ds

def hex (t : Tint) : String :=
  "#" ++ hexByte t.red ++ hexByte t.green ++ hexByte t.blue

end Tint

end Cyclomatic
