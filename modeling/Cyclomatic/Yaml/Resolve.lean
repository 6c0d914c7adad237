import Cyclomatic.Number.Decimal

/-!
What a plain YAML scalar stands for, by the rules of YAML 1.1: the tag of the first form its
whole text has, among booleans, floats (with a point), integers (binary, octal, decimal,
hexadecimal, sexagesimal), the merge key, null, dates and the value key, and a string otherwise.
So `1e3` and `0o17` are strings, `017` is the octal 15 and `1_000` is 1000.
-/

namespace Cyclomatic

namespace Yaml

def standard (name : String) : String := "tag:yaml.org,2002:" ++ name

def isDigitChar (c : Char) : Bool := '0' ≤ c && c ≤ '9'

def isDigitOrLine (c : Char) : Bool := isDigitChar c || c == '_'

def unsigned : List Char → List Char
  | '-' :: rest => rest
  | '+' :: rest => rest
  | rest => rest

def boolWords : List String :=
  ["yes", "Yes", "YES", "no", "No", "NO", "true", "True", "TRUE", "false", "False", "FALSE",
   "on", "On", "ON", "off", "Off", "OFF"]

def nullWords : List String := ["~", "null", "Null", "NULL", ""]

/-- An optional exponent `[eE][-+][0-9]+` and nothing after it. -/
def exponentRest : List Char → Bool
  | [] => true
  | e :: s :: ds => (e == 'e' || e == 'E') && (s == '-' || s == '+') && !ds.isEmpty && ds.all isDigitChar
  | _ => false

/-- Sexagesimal groups `(:[0-5]?[0-9])+`: the text after them, when there is at least one. -/
def sexagesimalGroups : List Char → Nat → Option (List Char)
  | _, 0 => none
  | ':' :: a :: rest, fuel + 1 =>
    if !isDigitChar a then none
    else
      let after : Option (List Char) := match rest with
        | b :: more => if isDigitChar b then (if a ≤ '5' then some more else none) else some rest
        | [] => some []
      match after with
      | some (':' :: more) =>
        match sexagesimalGroups (':' :: more) fuel with
        | some r => some r
        | none => some (':' :: more)
      | r => r
  | _, _ => none

/-- A decimal float after its sign: `[0-9][0-9_]*\.[0-9_]*` and an optional exponent. -/
def isPointFloat : List Char → Bool
  | c :: rest =>
    isDigitChar c &&
      match rest.dropWhile isDigitOrLine with
      | '.' :: more => exponentRest (more.dropWhile isDigitOrLine)
      | _ => false
  | [] => false

/-- A float starting at its point: `\.[0-9][0-9_]*` and an optional exponent. -/
def isLeadingPointFloat : List Char → Bool
  | '.' :: c :: rest => isDigitChar c && exponentRest (rest.dropWhile isDigitOrLine)
  | _ => false

/-- A sexagesimal float after its sign: `[0-9][0-9_]*(:[0-5]?[0-9])+\.[0-9_]*`. -/
def isSexagesimalFloat : List Char → Bool
  | c :: rest =>
    isDigitChar c &&
      match sexagesimalGroups (rest.dropWhile isDigitOrLine) (rest.length + 1) with
      | some ('.' :: more) => more.all isDigitOrLine
      | _ => false
  | [] => false

def isFloat (cs : List Char) : Bool :=
  let body := unsigned cs
  isPointFloat body || isLeadingPointFloat cs || isSexagesimalFloat body ||
    ["inf", "Inf", "INF"].any (fun w => body == '.' :: w.toList) ||
    ["nan", "NaN", "NAN"].any (fun w => cs == '.' :: w.toList)

def isInt (cs : List Char) : Bool :=
  match unsigned cs with
  | '0' :: 'b' :: rest => !rest.isEmpty && rest.all (fun c => c == '0' || c == '1' || c == '_')
  | '0' :: 'x' :: rest =>
    !rest.isEmpty && rest.all (fun c => isDigitChar c || ('a' ≤ c && c ≤ 'f') || ('A' ≤ c && c ≤ 'F') || c == '_')
  | ['0'] => true
  | '0' :: rest => rest.all (fun c => ('0' ≤ c && c ≤ '7') || c == '_')
  | c :: rest =>
    ('1' ≤ c && c ≤ '9') &&
      (rest.all isDigitOrLine ||
        sexagesimalGroups (rest.dropWhile isDigitOrLine) (rest.length + 1) == some [])
  | [] => false

def digitsOf (n : Nat) (cs : List Char) : Bool := cs.length == n && cs.all isDigitChar

/-- The parts of a date `YYYY-MM-DD` with one- or two-digit month and day allowed when `loose`:
year, month, day and the text after them. -/
def dateParts (loose : Bool) (cs : List Char) : Option (List Char × List Char × List Char × List Char) :=
  let year := cs.take 4
  match cs.drop 4 with
  | '-' :: rest =>
    let month := rest.takeWhile isDigitChar
    match rest.dropWhile isDigitChar with
    | '-' :: more =>
      let day := more.takeWhile isDigitChar
      let after := more.dropWhile isDigitChar
      let fits (part : List Char) : Bool :=
        if loose then part.length == 1 || part.length == 2 else part.length == 2
      if digitsOf 4 year && fits month && fits day then some (year, month, day, after) else none
    | _ => none
  | _ => none

/-- The zone after a time: `Z`, or an offset with its sign and the digits of its hours and
minutes. -/
inductive Zone where
  | utc
  | offset (negative : Bool) (hours minutes : List Char)

structure TimeParts where
  hour : List Char
  minute : List Char
  second : List Char
  fraction : List Char
  zone : Option Zone

/-- The zone at the end of a time: nothing, `Z`, or `[-+][0-9][0-9]?(:[0-9][0-9])?`. None when
the text is none of these. -/
def zoneOf : List Char → Option (Option Zone)
  | [] => some none
  | ['Z'] => some (some .utc)
  | s :: more =>
    let h := more.takeWhile isDigitChar
    if (s == '-' || s == '+') && (h.length == 1 || h.length == 2) then
      match more.dropWhile isDigitChar with
      | [] => some (some (.offset (s == '-') h []))
      | [':', a, b] =>
        if isDigitChar a && isDigitChar b then some (some (.offset (s == '-') h [a, b])) else none
      | _ => none
    else none

/-- The parts of a time after a date: `([Tt]|[ \t]+)[0-9][0-9]?:[0-9][0-9]:[0-9][0-9]`, an
optional fraction `\.[0-9]*` and an optional zone after blanks. -/
def timeParts (cs : List Char) : Option TimeParts := do
  let isBlank (c : Char) : Bool := c == ' ' || c == '\t'
  let r ← match cs with
    | 'T' :: r => some r
    | 't' :: r => some r
    | c :: r => if isBlank c then some (r.dropWhile isBlank) else none
    | [] => none
  let hour := r.takeWhile isDigitChar
  match r.dropWhile isDigitChar with
  | ':' :: m1 :: m2 :: ':' :: s1 :: s2 :: rest =>
    if !((hour.length == 1 || hour.length == 2) && [m1, m2, s1, s2].all isDigitChar) then none
    else
      let (fraction, afterFraction) := match rest with
        | '.' :: more => (more.takeWhile isDigitChar, more.dropWhile isDigitChar)
        | _ => ([], rest)
      let zoneText := afterFraction.dropWhile isBlank
      let zone ← if zoneText.isEmpty && !afterFraction.isEmpty then none else zoneOf zoneText
      pure ⟨hour, [m1, m2], [s1, s2], fraction, zone⟩
  | _ => none

def isDate (cs : List Char) : Bool :=
  match dateParts false cs with
  | some (_, _, _, []) => true
  | _ => false

def isDateTime (cs : List Char) : Bool :=
  match dateParts true cs with
  | some (_, _, _, rest) => (timeParts rest).isSome
  | none => false

/-- The tag of a plain scalar with no tag of its own. -/
def implicitTag (text : String) : String :=
  let cs := text.toList
  if boolWords.contains text then standard "bool"
  else if isFloat cs then standard "float"
  else if isInt cs then standard "int"
  else if text == "<<" then standard "merge"
  else if nullWords.contains text then standard "null"
  else if isDate cs || isDateTime cs then standard "timestamp"
  else if text == "=" then standard "value"
  else standard "str"

/-- The value of digits in a base, none when a character is not a digit of it or there are
none. -/
def digitsIn (base : Nat) (cs : List Char) : Option Nat :=
  if cs.isEmpty then none
  else cs.foldlM (fun n c =>
    let d := if isDigitChar c then c.toNat - '0'.toNat
      else if 'a' ≤ c && c ≤ 'z' then c.toNat - 'a'.toNat + 10
      else if 'A' ≤ c && c ≤ 'Z' then c.toNat - 'A'.toNat + 10
      else 99
    if d < base then some (n * base + d) else none) 0

def sexagesimal (parts : List Nat) : Nat := parts.foldl (fun acc p => acc * 60 + p) 0

/-- The integer of an integer scalar: `_` dropped, then by its prefix. None when the digits are
not digits of the base. -/
def intValue (text : String) : Option Int :=
  let cs := text.toList.filter (· != '_')
  let neg := cs.head? == some '-'
  let body := unsigned cs
  let magnitude : Option Nat := match body with
    | ['0'] => some 0
    | '0' :: 'b' :: rest => digitsIn 2 rest
    | '0' :: 'x' :: rest => digitsIn 16 rest
    | '0' :: rest => digitsIn 8 ('0' :: rest)
    | _ =>
      if body.contains ':' then
        ((body.splitOn ':').mapM (digitsIn 10)).map sexagesimal
      else digitsIn 10 body
  magnitude.map fun n => if neg then -(n : Int) else n

/-- The decimal digits and power of ten of `[0-9]*\.[0-9]*` with an optional exponent. -/
def decimalParts (cs : List Char) : Option (Nat × Int) :=
  let whole := cs.takeWhile isDigitChar
  let rest := cs.dropWhile isDigitChar
  let (frac, rest) : List Char × List Char := match rest with
    | '.' :: more => (more.takeWhile isDigitChar, more.dropWhile isDigitChar)
    | _ => ([], rest)
  let expo : Option Int := match rest with
    | [] => some 0
    | e :: more =>
      if e == 'e' || e == 'E' then
        match more with
        | '-' :: ds => (digitsIn 10 ds).map fun n => -(n : Int)
        | '+' :: ds => (digitsIn 10 ds).map fun n => (n : Int)
        | ds => (digitsIn 10 ds).map fun n => (n : Int)
      else none
  if whole.isEmpty && frac.isEmpty then none
  else
    expo.map fun e =>
      ((digitsIn 10 (whole ++ frac)).getD 0, e - frac.length)

/-- The float of a float scalar: `_` dropped, lowercased, then infinity, not-a-number,
sexagesimal or decimal. None when the text is none of these. -/
def floatValue (text : String) : Option Binary64 :=
  let cs := (text.toList.filter (· != '_')).map Char.toLower
  let neg := cs.head? == some '-'
  let body := unsigned cs
  let signed (x : Binary64) : Binary64 := if neg then x.neg else x
  if body == ".inf".toList then some (.inf neg)
  else if body == ".nan".toList then some .nan
  else if body.contains ':' then
    let parts := body.splitOn ':'
    let values := parts.mapM fun p => (decimalParts p).map fun (m, e) => Binary64.ofDecimal false m e
    values.map fun xs =>
      signed (xs.foldl (fun acc x => Binary64.add (Binary64.mul acc (Binary64.ofInt 60)) x) (Binary64.ofInt 0))
  else (decimalParts body).map fun (m, e) => Binary64.ofDecimal neg m e

end Yaml

end Cyclomatic
