import Cyclomatic.Value.Json
import Cyclomatic.Number.Reading

/-!
Where a JSON text goes wrong, and how that is reported. The text is read as `Json.parse` reads
it, keeping positions: the first thing that cannot be read gives a message and the position,
reported as `<message>: line L column C (char P)`. An array or object nested more than
`maxDepth` deep and an integer of too many digits are faults of their own, each counting where it
is met.
-/

namespace Cyclomatic

namespace Json

/-- The deepest nesting of arrays and objects that is read. -/
def maxDepth : Nat := 980

/-- The first fault of a JSON text: a decoding problem with its message and position, an array
or object nested too deep, or an integer with too many digits (their count is given). -/
inductive Fault where
  | decode (message : String) (pos : Nat)
  | tooDeep (container : String)
  | tooLong (digits : Nat)
deriving Repr, DecidableEq

abbrev Located := Except Fault Nat

def failAt (message : String) (pos : Nat) : Located := .error (.decode message pos)

def charAt (cs : Array Char) (i : Nat) : Char := cs.getD i '\x00'

def skipBlank (cs : Array Char) (i : Nat) : Nat :=
  let rec go (j : Nat) : Nat → Nat
    | 0 => j
    | fuel + 1 => if j < cs.size && isSpace (charAt cs j) then go (j + 1) fuel else j
  go i (cs.size + 1)

def wordAt (cs : Array Char) (i : Nat) (w : String) : Bool :=
  (w.toList.zipIdx).all fun (c, k) => i + k < cs.size && charAt cs (i + k) == c

def digitsEnd (cs : Array Char) (i : Nat) : Nat :=
  let rec go (j : Nat) : Nat → Nat
    | 0 => j
    | fuel + 1 => if j < cs.size && (charAt cs j).isDigit then go (j + 1) fuel else j
  go i (cs.size + 1)

def numberEnd (cs : Array Char) (start : Nat) : Option Nat :=
  let i := if charAt cs start == '-' then start + 1 else start
  let c := charAt cs i
  let afterInt : Option Nat :=
    if i ≥ cs.size then none
    else if '1' ≤ c && c ≤ '9' then some (digitsEnd cs (i + 1))
    else if c == '0' then some (i + 1)
    else none
  afterInt.map fun j =>
    let j := if j + 1 < cs.size && charAt cs j == '.' && (charAt cs (j + 1)).isDigit then
        digitsEnd cs (j + 2) else j
    if j + 1 < cs.size && (charAt cs j == 'e' || charAt cs j == 'E') then
      let k := if charAt cs (j + 1) == '-' || charAt cs (j + 1) == '+' then j + 2 else j + 1
      let k' := digitsEnd cs k
      if k' > k then k' else j
    else j

def stringEnd (cs : Array Char) (begin : Nat) : Nat → Nat → Located
  | 0, _ => failAt "Unterminated string starting at" begin
  | fuel + 1, i =>
    if i ≥ cs.size then failAt "Unterminated string starting at" begin
    else
      let c := charAt cs i
      if c == '"' then .ok (i + 1)
      else if c == '\\' then
        if i + 1 ≥ cs.size then failAt "Unterminated string starting at" begin
        else
          let e := charAt cs (i + 1)
          if e == 'u' then
            let next := i + 2
            if next + 4 ≥ cs.size then failAt "Invalid \\uXXXX escape" (next - 1)
            else if !((List.range 4).all fun k => (hexValue (charAt cs (next + k))).isSome) then
              failAt "Invalid \\uXXXX escape" (next - 1)
            else stringEnd cs begin fuel (next + 4)
          else if "\"\\/bfnrt".contains e then stringEnd cs begin fuel (i + 2)
          else failAt "Invalid \\escape" i
      else if c.toNat ≤ 0x1f then failAt "Invalid control character at" i
      else stringEnd cs begin fuel (i + 1)

/-- The fault of a number from `start` to `stop` whose integer part ends at `intEnd`: an
integer (no fraction or exponent) with more digits than the integer constructor converts. -/
def numberFault (cs : Array Char) (start intEnd stop : Nat) : Option Fault :=
  let digits := intEnd - (if charAt cs start == '-' then start + 1 else start)
  if stop == intEnd && digits > NumberText.maxIntDigits then some (.tooLong digits) else none

def intPartEnd (cs : Array Char) (start : Nat) : Nat :=
  let i := if charAt cs start == '-' then start + 1 else start
  if charAt cs i == '0' then i + 1 else digitsEnd cs i

mutual
/-- The end of a value starting at a position, inside `depth` arrays and objects. -/
def valueEnd (cs : Array Char) : Nat → Nat → Nat → Located
  | 0, _, i => failAt "Expecting value" i
  | fuel + 1, depth, i =>
    let c := charAt cs i
    if i ≥ cs.size then failAt "Expecting value" i
    else if c == '"' then stringEnd cs i (cs.size + 1) (i + 1)
    else if c == '\x7b' then
      if depth ≥ maxDepth then .error (.tooDeep "object")
      else objectEnd cs fuel (depth + 1) (skipBlank cs (i + 1)) true
    else if c == '[' then
      if depth ≥ maxDepth then .error (.tooDeep "array")
      else arrayEnd cs fuel (depth + 1) (skipBlank cs (i + 1)) true
    else if wordAt cs i "null" || wordAt cs i "true" then .ok (i + 4)
    else if wordAt cs i "false" then .ok (i + 5)
    else if wordAt cs i "NaN" then .ok (i + 3)
    else if wordAt cs i "Infinity" then .ok (i + 8)
    else if wordAt cs i "-Infinity" then .ok (i + 9)
    else
      match numberEnd cs i with
      | some j =>
        match numberFault cs i (intPartEnd cs i) j with
        | some f => .error f
        | none => .ok j
      | none => failAt "Expecting value" i

def objectEnd (cs : Array Char) : Nat → Nat → Nat → Bool → Located
  | 0, _, i, _ => failAt "Expecting value" i
  | fuel + 1, depth, i, first =>
    if first && charAt cs i == '\x7d' && i < cs.size then .ok (i + 1)
    else if charAt cs i != '"' || i ≥ cs.size then
      failAt "Expecting property name enclosed in double quotes" i
    else do
      let afterKey ← stringEnd cs i (cs.size + 1) (i + 1)
      let colon := skipBlank cs afterKey
      if charAt cs colon != ':' || colon ≥ cs.size then failAt "Expecting ':' delimiter" colon
      else
        let afterValue ← valueEnd cs fuel depth (skipBlank cs (colon + 1))
        let j := skipBlank cs afterValue
        if j < cs.size && charAt cs j == '\x7d' then .ok (j + 1)
        else if j ≥ cs.size || charAt cs j != ',' then failAt "Expecting ',' delimiter" j
        else objectEnd cs fuel depth (skipBlank cs (j + 1)) false

def arrayEnd (cs : Array Char) : Nat → Nat → Nat → Bool → Located
  | 0, _, i, _ => failAt "Expecting value" i
  | fuel + 1, depth, i, first =>
    if first && i < cs.size && charAt cs i == ']' then .ok (i + 1)
    else do
      let afterValue ← valueEnd cs fuel depth i
      let j := skipBlank cs afterValue
      if j < cs.size && charAt cs j == ']' then .ok (j + 1)
      else if j ≥ cs.size || charAt cs j != ',' then failAt "Expecting ',' delimiter" j
      else arrayEnd cs fuel depth (skipBlank cs (j + 1)) false
end

def faultOf (s : String) : Option Fault :=
  let cs := s.toList.toArray
  if charAt cs 0 == '\uFEFF' && cs.size > 0 then
    some (.decode "Unexpected UTF-8 BOM (decode using utf-8-sig)" 0)
  else
    match valueEnd cs (cs.size + 1) 0 (skipBlank cs 0) with
    | .error e => some e
    | .ok j =>
      let k := skipBlank cs j
      if k != cs.size then some (.decode "Extra data" k) else none

def describeAt (s : String) (msg : String) (pos : Nat) : String :=
  let before := s.toList.take pos
  let line := (before.filter (· == '\n')).length + 1
  let column := match before.reverse.findIdx? (· == '\n') with
    | some r => r + 1
    | none => pos + 1
  s!"{msg}: line {line} column {column} (char {pos})"

def Fault.report (s : String) : Fault → String × String
  | .decode msg pos => ("JSONDecodeError", describeAt s msg pos)
  | .tooDeep container =>
    ("RecursionError", "maximum recursion depth exceeded while decoding a JSON " ++ container ++
      " from a unicode string")
  | .tooLong n => ("ValueError", NumberText.intMessage "" 10 (.tooLong n))

end Json

end Cyclomatic
