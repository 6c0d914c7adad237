import Cyclomatic.Number.Num

/-!
Document values: what a configuration file or a request holds. A string that holds lone
surrogates is kept as its code points. A mapping keeps its entries in insertion order, writing a
present key replaces its value in place, and keys are compared by numeric value across booleans,
integers and binary64 numbers; two moments with offsets are one key when they are one instant.
-/

namespace Cyclomatic

/-- A date with a time of day to the microsecond, and its offset from UTC in minutes when it has
one. -/
structure Moment where
  year : Nat
  month : Nat
  day : Nat
  hour : Nat
  minute : Nat
  second : Nat
  micro : Nat
  offset : Option Int
deriving Repr, Inhabited, DecidableEq

namespace Moment

def dayNumber (t : Moment) : Nat :=
  let y := t.year - 1
  let leap := t.year % 4 == 0 && (t.year % 100 != 0 || t.year % 400 == 0)
  let before := [31, if leap then 29 else 28, 31, 30, 31, 30, 31, 31, 30, 31, 30, 31]
  y * 365 + y / 4 - y / 100 + y / 400 + (before.take (t.month - 1)).foldr (· + ·) 0 + (t.day - 1)

/-- The microseconds from the start of year 1 to a moment, read in UTC when it has an offset. -/
def instant (t : Moment) : Int :=
  let wall : Nat :=
    (((t.dayNumber * 24 + t.hour) * 60 + t.minute) * 60 + t.second) * 1000000 + t.micro
  (wall : Int) - (t.offset.getD 0) * 60000000

/-- Whether two moments are one key: the same fields when neither has an offset, the same instant
when both have one. -/
def same (a b : Moment) : Bool :=
  match a.offset, b.offset with
  | none, none => a == b
  | some _, some _ => a.instant == b.instant
  | _, _ => false

end Moment

inductive Value where
  | null
  | bool (b : Bool)
  | int (n : Int)
  | float (x : Binary64)
  | str (s : String)
  | seq (items : List Value)
  | map (entries : List (Value × Value))
  | date (year month day : Nat)
  | moment (t : Moment)
  | bytes (data : List UInt8)
  | set (items : List Value)
  | tuple (items : List Value)
  /-- A string holding code points that no character stands for (lone surrogates, which a
  `\u` escape can write), given by its code points. -/
  | codes (points : List Nat)
deriving Repr, Inhabited

namespace Value

def isSurrogate (n : Nat) : Bool := 0xD800 ≤ n && n < 0xE000

def ofPoints (points : List Nat) : Value :=
  if points.any isSurrogate then .codes points else .str (String.ofList (points.map Char.ofNat))

/-- Whether a value counts as true: null, `false`, zero, empty strings and empty collections do
not. -/
def truthy : Value → Bool
  | .null => false
  | .bool b => b
  | .int n => n != 0
  | .float x => !x.isZero
  | .str s => !s.isEmpty
  | .seq xs => !xs.isEmpty
  | .map es => !es.isEmpty
  | .date _ _ _ => true
  | .moment _ => true
  | .bytes bs => !bs.isEmpty
  | .set xs => !xs.isEmpty
  | .tuple xs => !xs.isEmpty
  | .codes ps => !ps.isEmpty

/-- The text of a string as UTF-8 encoding with replacement gives it, which is how source text
reaches the parser: a surrogate, which has no encoding, becomes a question mark. None for a
value that is not a string. -/
def encodedText? : Value → Option String
  | .str s => some s
  | .codes ps => some (String.ofList (ps.map fun n => if isSurrogate n then '?' else Char.ofNat n))
  | _ => none

/-- The number a value stands for in arithmetic: booleans count as 0 and 1. -/
def toNum? : Value → Option Num
  | .bool b => some (.int (if b then 1 else 0))
  | .int n => some (.int n)
  | .float x => some (.float x)
  | _ => none

mutual
/-- Equality of mapping keys: numbers (booleans included) by value, strings by text, byte
strings by content, tuples item by item. Sequences, sets and mappings are never keys. -/
def sameKey : Value → Value → Bool
  | .null, .null => true
  | .str a, .str b => a == b
  | .date y m d, .date y' m' d' => y == y' && m == m' && d == d'
  | .moment a, .moment b => a.same b
  | .bytes a, .bytes b => a == b
  | .tuple xs, .tuple ys => sameKeys xs ys
  | .codes a, .codes b => a == b
  | a, b =>
    match a.toNum?, b.toNum? with
    | some (.int x), some (.int y) => x == y
    | some (.int x), some (.float y) => Num.compareIntFloat x y == some 0
    | some (.float x), some (.int y) => Num.compareIntFloat y x == some 0
    | some (.float x), some (.float y) => Binary64.eq x y
    | _, _ => false

def sameKeys : List Value → List Value → Bool
  | [], [] => true
  | x :: xs, y :: ys => sameKey x y && sameKeys xs ys
  | _, _ => false
end

abbrev Entries := List (Value × Value)

namespace Entries

def find? (es : Entries) (k : Value) : Option Value :=
  (List.find? (fun e => sameKey e.1 k) es).map (·.2)

def get? (es : Entries) (k : String) : Option Value := Entries.find? es (.str k)

def contains (es : Entries) (k : Value) : Bool := List.any es fun e => sameKey e.1 k

/-- Stores a value: in place (keeping the first key) when the key is present, at the end
otherwise. -/
def insert (es : Entries) (k v : Value) : Entries :=
  if Entries.contains es k then List.map (fun e => if sameKey e.1 k then (e.1, v) else e) es
  else es ++ [(k, v)]

def update (es more : Entries) : Entries :=
  List.foldl (fun acc e => Entries.insert acc e.1 e.2) es more

def erase (es : Entries) (k : Value) : Entries :=
  List.filter (fun e => !sameKey e.1 k) es

/-- Builds a mapping from pairs, a later duplicate key replacing the value in place. -/
def ofList (pairs : List (Value × Value)) : Entries :=
  update [] pairs

end Entries

def entries? : Value → Option Entries
  | .map es => some es
  | _ => none

def typeName : Value → String
  | .null => "NoneType"
  | .bool _ => "bool"
  | .int _ => "int"
  | .float _ => "float"
  | .str _ => "str"
  | .seq _ => "list"
  | .map _ => "dict"
  | .date _ _ _ => "datetime.date"
  | .moment _ => "datetime.datetime"
  | .bytes _ => "bytes"
  | .set _ => "set"
  | .tuple _ => "tuple"
  | .codes _ => "str"

end Value

end Cyclomatic
