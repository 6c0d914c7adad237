import Cyclomatic.Number.Binary64

/-!
Numbers of documents and requests: integers of any size and binary64 values.

Arithmetic follows the rules of the documents' numeric model: two integers subtract and multiply
exactly, a true quotient of two integers is the correctly rounded binary64 value of the exact
ratio, and in a mixed operation the integer is first converted to binary64. Conversions and
roundings that cannot produce a value fail with a `NumError`. Comparisons between an integer and a
binary64 value are exact.
-/

namespace Cyclomatic

inductive Num where
  | int (n : Int)
  | float (x : Binary64)
deriving Repr, DecidableEq, Inhabited

/-- Why an arithmetic step has no value. -/
inductive NumError where
  | intTooLarge
  | quotientTooLarge
  | infinityToInt
  | nanToInt
  | intDivisionByZero
  | floatDivisionByZero
deriving Repr, DecidableEq

namespace NumError

def kind : NumError → String
  | .nanToInt => "ValueError"
  | .intDivisionByZero | .floatDivisionByZero => "ZeroDivisionError"
  | _ => "OverflowError"

def message : NumError → String
  | .intTooLarge => "int too large to convert to float"
  | .quotientTooLarge => "integer division result too large for a float"
  | .infinityToInt => "cannot convert float infinity to integer"
  | .nanToInt => "cannot convert float NaN to integer"
  | .intDivisionByZero => "division by zero"
  | .floatDivisionByZero => "float division by zero"

end NumError

namespace Num

/-- The binary64 value of a number; an integer beyond the range has none. -/
def toFloat : Num → Except NumError Binary64
  | .float x => .ok x
  | .int n =>
    match Binary64.ofInt n with
    | .inf _ => .error .intTooLarge
    | x => .ok x

/-- Exact comparison of an integer with a binary64 value: `-1`, `0`, `1`, or `none` for NaN. -/
def compareIntFloat (n : Int) (x : Binary64) : Option Int :=
  match x with
  | .nan => none
  | .inf s => some (if s then 1 else -1)
  | .finite _ _ _ =>
    -- n - x as a scaled integer
    let (m, k) := x.scaled
    let j := min k 0
    let d := n * Int.pow 2 (0 - j).toNat - m * Int.pow 2 (k - j).toNat
    some (if d < 0 then -1 else if d = 0 then 0 else 1)

/-- The strict order of numbers; false whenever NaN takes part. -/
def lt : Num → Num → Bool
  | .int a, .int b => a < b
  | .float x, .float y => Binary64.lt x y
  | .int a, .float y => compareIntFloat a y == some (-1)
  | .float x, .int b => compareIntFloat b x == some 1

/-- The larger of two numbers, the first one unless the second is strictly larger. -/
def maxLeft (a b : Num) : Num := if lt a b then b else a

/-- The smaller of two numbers, the first one unless the second is strictly smaller. -/
def minLeft (a b : Num) : Num := if lt b a then b else a

/-- Difference: exact for two integers, binary64 otherwise. -/
def sub : Num → Num → Except NumError Num
  | .int a, .int b => .ok (.int (a - b))
  | a, b => do
    let x ← a.toFloat
    let y ← b.toFloat
    pure (.float (Binary64.sub x y))

def mul : Num → Num → Except NumError Num
  | .int a, .int b => .ok (.int (a * b))
  | a, b => do
    let x ← a.toFloat
    let y ← b.toFloat
    pure (.float (Binary64.mul x y))

/-- The correctly rounded quotient of two integers; the sign of a zero quotient is the exclusive
or of the operands' signs. -/
def divInts (a b : Int) : Except NumError Binary64 :=
  if b = 0 then .error .intDivisionByZero
  else
    match Binary64.round ((a < 0) != (b < 0)) a.natAbs b.natAbs with
    | .inf _ => .error .quotientTooLarge
    | x => .ok x

/-- True quotient, always a binary64 value. -/
def div : Num → Num → Except NumError Binary64
  | .int a, .int b => divInts a b
  | a, b => do
    let x ← a.toFloat
    let y ← b.toFloat
    if y.isZero then .error .floatDivisionByZero else pure (Binary64.div x y)

/-- The integer nearest to a number, a tie going to the even neighbour. -/
def roundHalfEven : Num → Except NumError Int
  | .int n => .ok n
  | .float x =>
    match x.roundHalfEven with
    | some n => .ok n
    | none => .error (if x.isNaN then .nanToInt else .infinityToInt)

end Num

end Cyclomatic
