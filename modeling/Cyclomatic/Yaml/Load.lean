import Cyclomatic.Yaml.Node
import Cyclomatic.Value.Notation
import Cyclomatic.Number.Reading
import Cyclomatic.Text.Base64

/-!
Values of YAML documents, for the standard tags a safe reader knows. A scalar becomes a value by
its tag, a sequence a list, and a mapping a mapping in entry order, a later equal key replacing
an earlier one's value in place. A `<<` key merges other mappings into its own. A text that
passes the tag's form and still gives no value, such as the date `2020-13-01`, fails as the
value's own type does.
-/

namespace Cyclomatic

namespace Yaml

/-- Why a YAML text gives no value: a YAML problem, or the failure of a value's own type with
the name of that failure and its message. -/
inductive LoadError where
  | problem (p : Problem)
  | failure (kind : String) (message : String)
deriving Repr, Inhabited

def Node.describe : Node → String
  | .scalar _ _ _ _ => "scalar"
  | .seq _ _ _ => "sequence"
  | .map _ _ _ => "mapping"

def constructProblem (context : Option String) (contextMark : Option Mark) (what : String)
    (m : Mark) : LoadError :=
  .problem (.marked context contextMark what (some m))

def daysIn (year month : Nat) : Nat :=
  if month == 2 then
    if year % 4 == 0 && (year % 100 != 0 || year % 400 == 0) then 29 else 28
  else if month == 4 || month == 6 || month == 9 || month == 11 then 30
  else 31

/-- Why the parts of a date are not one, checked in order: year, month, day. -/
def dateFault (year month day : Nat) : Option String :=
  if year < 1 || year > 9999 then some s!"year {year} is out of range"
  else if month < 1 || month > 12 then some "month must be in 1..12"
  else if day < 1 || day > daysIn year month then some "day is out of range for month"
  else none

def dateValue (year month day : Nat) : Except LoadError Value :=
  match dateFault year month day with
  | some why => .error (.failure "ValueError" why)
  | none => .ok (.date year month day)

def Zone.minutes : Zone → Int
  | .utc => 0
  | .offset negative hours minutes =>
    let m : Int := ((digitsIn 10 hours).getD 0 * 60 + (digitsIn 10 minutes).getD 0 : Nat)
    if negative then -m else m

def microsOf (fraction : List Char) : Nat :=
  let six := fraction.take 6
  (digitsIn 10 (six ++ List.replicate (6 - six.length) '0')).getD 0

/-- A moment from its parts, or why they are not one. The zone is checked first (its offset must
be less than a day either way), then the date, then the hour, minute and second. -/
def momentValue (year month day : Nat) (t : TimeParts) : Except LoadError Value :=
  let num (cs : List Char) : Nat := (digitsIn 10 cs).getD 0
  let offset := t.zone.map Zone.minutes
  let hour := num t.hour
  let minute := num t.minute
  let second := num t.second
  match offset with
  | some o =>
    if o.natAbs ≥ 24 * 60 then
      .error (.failure "ValueError" ("offset must be a timedelta strictly between " ++
        "-timedelta(hours=24) and timedelta(hours=24), not " ++ Value.spanLiteral (o * 60) ++ "."))
    else check offset hour minute second
  | none => check offset hour minute second
where
  check (offset : Option Int) (hour minute second : Nat) : Except LoadError Value :=
    match dateFault year month day with
    | some why => .error (.failure "ValueError" why)
    | none =>
      if hour > 23 then .error (.failure "ValueError" "hour must be in 0..23")
      else if minute > 59 then .error (.failure "ValueError" "minute must be in 0..59")
      else if second > 59 then .error (.failure "ValueError" "second must be in 0..59")
      else .ok (.moment ⟨year, month, day, hour, minute, second, microsOf t.fraction, offset⟩)

/-- The value of a timestamp scalar: a date, or a moment when a time follows the date. -/
def timestampValue (text : String) : Except LoadError Value :=
  let num (cs : List Char) : Nat := (digitsIn 10 cs).getD 0
  match dateParts true text.toList with
  | some (y, m, d, []) => dateValue (num y) (num m) (num d)
  | some (y, m, d, rest) =>
    match timeParts rest with
    | some t => momentValue (num y) (num m) (num d) t
    | none => .error (.failure "AttributeError" "'NoneType' object has no attribute 'groupdict'")
  | none => .error (.failure "AttributeError" "'NoneType' object has no attribute 'groupdict'")

def boolValue (text : String) : Option Bool :=
  match Unicode.lower text with
  | "yes" | "true" | "on" => some true
  | "no" | "false" | "off" => some false
  | _ => none

def indexFailure : LoadError := .failure "IndexError" "string index out of range"

def readIntIn (cs : List Char) (base : Nat) : Except LoadError Int :=
  let s := String.ofList cs
  match NumberText.readInt s base with
  | .ok n => .ok n
  | .error e => .error (.failure "ValueError" (NumberText.intMessage (Value.literal (.str s)) base e))

def readFloatOf (cs : List Char) : Except LoadError Binary64 :=
  let s := String.ofList cs
  match NumberText.readFloat s with
  | some x => .ok x
  | none => .error (.failure "ValueError" (NumberText.floatMessage (Value.literal (.str s))))

/-- The integer of a scalar with the integer tag. Underscores are dropped and a sign is taken
off; then `0` is zero, `0b` and `0x` start binary and hexadecimal digits, another leading `0`
starts octal digits, colons separate base-60 parts, and anything else is decimal. -/
def intScalar (text : String) : Except LoadError Int := do
  let value := text.toList.filter (· != '_')
  let some first := value.head? | .error indexFailure
  let neg := first == '-'
  let value := if first == '-' || first == '+' then value.tail else value
  let signed (n : Int) : Int := if neg then -n else n
  match value with
  | ['0'] => pure 0
  | '0' :: 'b' :: rest => signed <$> readIntIn rest 2
  | '0' :: 'x' :: rest => signed <$> readIntIn rest 16
  | '0' :: _ => signed <$> readIntIn value 8
  | [] => .error indexFailure
  | _ =>
    if value.contains ':' then
      let parts ← (value.splitOn ':').mapM (readIntIn · 10)
      pure (signed (parts.foldl (fun acc d => acc * 60 + d) 0))
    else signed <$> readIntIn value 10

/-- The float of a scalar with the float tag. Underscores are dropped, the text is lowercased
and a sign is taken off; then `.inf` and `.nan` are the special values, colons separate base-60
parts, summed from the last one up in float arithmetic, and anything else is a decimal float.
Each part is multiplied by its power of 60 made a float, which fails once that power is beyond
the float range. -/
def floatScalar (text : String) : Except LoadError Binary64 := do
  let value := (Unicode.lower (String.ofList (text.toList.filter (· != '_')))).toList
  let some first := value.head? | .error indexFailure
  let neg := first == '-'
  let value := if first == '-' || first == '+' then value.tail else value
  let signed (x : Binary64) : Binary64 := if neg then x.neg else x
  if value == ".inf".toList then pure (.inf neg)
  else if value == ".nan".toList then pure .nan
  else if value.contains ':' then
    let parts ← (value.splitOn ':').mapM readFloatOf
    let (sum, _) ← parts.reverse.foldlM
      (fun (acc : Binary64 × Nat) d => do
        let base ← (Num.toFloat (.int acc.2)).mapError fun e => LoadError.failure e.kind e.message
        pure (Binary64.add acc.1 (Binary64.mul d base), acc.2 * 60))
      (Binary64.ofInt 0, 1)
    pure (signed sum)
  else signed <$> readFloatOf value

/-- Why a text has no ASCII encoding: the first run of characters beyond ASCII, by position. -/
def asciiFault (text : String) : Option String :=
  let cs := text.toList
  let start := (cs.takeWhile (·.toNat < 128)).length
  let run := (cs.drop start).takeWhile (·.toNat ≥ 128)
  let reason := ": ordinal not in range(128)"
  match run with
  | [] => none
  | [c] =>
    let n := c.toNat
    let shown := if n ≤ 0xff then "\\x" ++ Value.hexPad 2 n
      else if n ≤ 0xffff then "\\u" ++ Value.hexPad 4 n else "\\U" ++ Value.hexPad 8 n
    some ("'ascii' codec can't encode character '" ++ shown ++ "' in position " ++
      toString start ++ reason)
  | _ =>
    some ("'ascii' codec can't encode characters in position " ++ toString start ++ "-" ++
      toString (start + run.length - 1) ++ reason)

/-- The value of a scalar by its tag; a string keeps the code points it was given with, when
some are surrogates. -/
def scalarValue (tag text : String) (codes : Option (List Nat)) (m : Mark) :
    Except LoadError Value :=
  if tag == standard "str" then .ok (match codes with
    | some ps => .codes ps
    | none => .str text)
  else if tag == standard "null" then .ok .null
  else if tag == standard "bool" then
    match boolValue text with
    | some b => .ok (.bool b)
    | none => .error (.failure "KeyError" (Value.literal (.str (Unicode.lower text))))
  else if tag == standard "int" then .int <$> intScalar text
  else if tag == standard "float" then .float <$> floatScalar text
  else if tag == standard "timestamp" then timestampValue text
  else if tag == standard "binary" then
    match asciiFault text with
    | some why =>
      .error (constructProblem none none ("failed to convert base64 data into ascii: " ++ why) m)
    | none =>
      match Base64.decode text with
      | .ok bs => .ok (.bytes bs)
      | .error why => .error (constructProblem none none ("failed to decode base64 data: " ++ why) m)
  else .error (constructProblem none none
    ("could not determine a constructor for the tag " ++ Value.literal (.str tag)) m)

/-- The entries of a mapping with its `<<` keys merged in, and `=` keys read as strings. -/
def flatten (start : Mark) : Nat → List (Node × Node) → Except LoadError (List (Node × Node))
  | 0, es => .ok es
  | fuel + 1, es => do
    let context := some "while constructing a mapping"
    let step (acc : List (Node × Node) × List (Node × Node)) (e : Node × Node) :
        Except LoadError (List (Node × Node) × List (Node × Node)) := do
      let (merged, own) := acc
      let (k, v) := e
      if k.tag == standard "merge" then
        match v with
        | .map _ inner m => pure (merged ++ (← flatten m fuel inner), own)
        | .seq _ items _ =>
          let parts ← items.mapM fun item =>
            match item with
            | .map _ inner m => flatten m fuel inner
            | other => .error (constructProblem context (some start)
                ("expected a mapping for merging, but found " ++ other.describe) other.start)
          pure (merged ++ parts.reverse.flatten, own)
        | other =>
          .error (constructProblem context (some start)
            ("expected a mapping or list of mappings for merging, but found " ++ other.describe)
            other.start)
      else if k.tag == standard "value" then
        match k with
        | .scalar _ t cs m => pure (merged, own ++ [(.scalar (standard "str") t cs m, v)])
        | _ => pure (merged, own ++ [e])
      else pure (merged, own ++ [e])
    let (merged, own) ← es.foldlM step ([], [])
    pure (merged ++ own)

/-- Whether a value may be a mapping key: not a list, a set or a mapping, nor a tuple holding
one. -/
def isHashable : Value → Bool
  | .seq _ => false
  | .map _ => false
  | .set _ => false
  | .tuple xs => isHashableAll xs
  | _ => true
where
  isHashableAll : List Value → Bool
    | [] => true
    | x :: xs => isHashable x && isHashableAll xs

def construct : Nat → Node → Except LoadError Value
  | 0, n => .error (constructProblem none none "nesting too deep" n.start)
  | fuel + 1, n =>
    let mismatch (what : String) : Except LoadError Value :=
      .error (constructProblem none none ("expected a " ++ what ++ " node, but found " ++ n.describe) n.start)
    let scalarTags := ["str", "null", "bool", "int", "float", "timestamp", "binary"].map standard
    if scalarTags.contains n.tag then
      match n with
      | .scalar tag text codes m => scalarValue tag text codes m
      | _ => mismatch "scalar"
    else if n.tag == standard "seq" then
      match n with
      | .seq _ items _ => do pure (.seq (← items.mapM (construct fuel)))
      | _ => mismatch "sequence"
    else if n.tag == standard "map" || n.tag == standard "set" then
      match n with
      | .map _ es m => do
        let es ← flatten m fuel es
        let pairs ← es.foldlM (fun (acc : Value.Entries) (k, v) => do
          let key ← construct fuel k
          if !isHashable key then
            .error (constructProblem (some "while constructing a mapping") (some m)
              "found unhashable key" k.start)
          else
            let value ← construct fuel v
            pure (acc.insert key value)) []
        if n.tag == standard "set" then pure (.set (pairs.map (·.1))) else pure (.map pairs)
      | _ => mismatch "mapping"
    else if n.tag == standard "omap" || n.tag == standard "pairs" then
      let context := some (if n.tag == standard "omap" then "while constructing an ordered map"
        else "while constructing pairs")
      match n with
      | .seq _ items m => do
        let pairs ← items.mapM fun item =>
          match item with
          | .map _ [(k, v)] _ => do
            let key ← construct fuel k
            let value ← construct fuel v
            pure (Value.tuple [key, value])
          | .map _ es im =>
            .error (constructProblem context (some m)
              ("expected a single mapping item, but found " ++ toString es.length ++ " items") im)
          | other =>
            .error (constructProblem context (some m)
              ("expected a mapping of length 1, but found " ++ other.describe) other.start)
        pure (.seq pairs)
      | _ => .error (constructProblem context (some n.start)
          ("expected a sequence, but found " ++ n.describe) n.start)
    else .error (constructProblem none none
      ("could not determine a constructor for the tag " ++ Value.literal (.str n.tag)) n.start)

def load (text : String) : Except LoadError Value :=
  match compose text with
  | .error .beyondUnicode => .error (.failure "ValueError" (Problem.beyondUnicode.message #[]))
  | .error p => .error (.problem p)
  | .ok none => .ok .null
  | .ok (some n) => construct (text.length + 2) n

end Yaml

end Cyclomatic
