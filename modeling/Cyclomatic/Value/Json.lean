import Cyclomatic.Value.Notation

/-!
JSON text of document values. A number with a fraction or an exponent is read as a binary64
number, any other as an integer of any size; `NaN` and the infinities are numbers. A key that
occurs twice keeps its first place and its last value. Writing follows a `JsonStyle`: compact
or indented, with or without escaping every character outside printable ASCII.
-/

namespace Cyclomatic

namespace Json

def isSpace (c : Char) : Bool := c == ' ' || c == '\t' || c == '\n' || c == '\r'

def skipSpace (cs : List Char) : List Char := cs.dropWhile isSpace

def hexValue (c : Char) : Option Nat :=
  if '0' ≤ c && c ≤ '9' then some (c.toNat - '0'.toNat)
  else if 'a' ≤ c && c ≤ 'f' then some (c.toNat - 'a'.toNat + 10)
  else if 'A' ≤ c && c ≤ 'F' then some (c.toNat - 'A'.toNat + 10)
  else none

def hex4 : List Char → Option (Nat × List Char)
  | a :: b :: c :: d :: rest => do
    let x ← hexValue a
    let y ← hexValue b
    let z ← hexValue c
    let w ← hexValue d
    pure (((x * 16 + y) * 16 + z) * 16 + w, rest)
  | _ => none

/-- The body of a string after its opening quote, up to and without the closing quote: its
code points. A `\u` escape of a high surrogate followed at once by one of a low surrogate
stands for the character of the pair; any other surrogate stays as it is. -/
def readString : Nat → List Nat → List Char → Option (List Nat × List Char)
  | 0, _, _ => none
  | _ + 1, _, [] => none
  | fuel + 1, acc, c :: rest =>
    if c == '"' then some (acc.reverse, rest)
    else if c.toNat < 0x20 then none
    else if c == '\\' then
      match rest with
      | 'u' :: more => do
        let (hi, after) ← hex4 more
        if 0xd800 ≤ hi && hi ≤ 0xdbff then
          match after with
          | '\\' :: 'u' :: more2 =>
            match hex4 more2 with
            | some (lo, after2) =>
              if 0xdc00 ≤ lo && lo ≤ 0xdfff then
                readString fuel ((0x10000 + (hi - 0xd800) * 0x400 + (lo - 0xdc00)) :: acc) after2
              else readString fuel (hi :: acc) after
            | none => readString fuel (hi :: acc) after
          | _ => readString fuel (hi :: acc) after
        else readString fuel (hi :: acc) after
      | e :: more =>
        let simple : Option Char :=
          if e == '"' then some '"' else if e == '\\' then some '\\' else if e == '/' then some '/'
          else if e == 'b' then some (Char.ofNat 8) else if e == 'f' then some (Char.ofNat 12)
          else if e == 'n' then some '\n' else if e == 'r' then some '\r'
          else if e == 't' then some '\t' else none
        match simple with
        | some x => readString fuel (x.toNat :: acc) more
        | none => none
      | [] => none
    else readString fuel (c.toNat :: acc) rest

def spanDigits (cs : List Char) : List Char × List Char :=
  (cs.takeWhile Char.isDigit, cs.dropWhile Char.isDigit)

def digitsValue (ds : List Char) : Nat :=
  ds.foldl (fun n c => n * 10 + (c.toNat - '0'.toNat)) 0

/-- A number: `-?(0|[1-9][0-9]*)(\.[0-9]+)?([eE][-+]?[0-9]+)?`, the optional parts taken only
when complete. -/
def readNumber (cs : List Char) : Option (Value × List Char) :=
  let (neg, body) := match cs with
    | '-' :: rest => (true, rest)
    | _ => (false, cs)
  let intPart : Option (List Char × List Char) :=
    match body with
    | '0' :: rest => some (['0'], rest)
    | c :: _ => if '1' ≤ c && c ≤ '9' then some (spanDigits body) else none
    | [] => none
  match intPart with
  | none => none
  | some (whole, rest) =>
    let (frac, rest) : List Char × List Char :=
      match rest with
      | '.' :: more =>
        let (ds, after) := spanDigits more
        if ds.isEmpty then ([], rest) else (ds, after)
      | _ => ([], rest)
    let (expo, rest) : Option Int × List Char :=
      match rest with
      | e :: more =>
        if e == 'e' || e == 'E' then
          let (sign, digitsPart) : Int × List Char := match more with
            | '+' :: m => (1, m)
            | '-' :: m => (-1, m)
            | m => (1, m)
          let (ds, after) := spanDigits digitsPart
          if ds.isEmpty then (none, rest) else (some (sign * (digitsValue ds : Int)), after)
        else (none, rest)
      | [] => (none, rest)
    if frac.isEmpty && expo.isNone then
      let n : Int := digitsValue whole
      some (.int (if neg then -n else n), rest)
    else
      let mant := digitsValue (whole ++ frac)
      let e10 : Int := expo.getD 0 - frac.length
      some (.float (Binary64.ofDecimal neg mant e10), rest)

def startsWith (cs : List Char) (w : String) : Bool := w.toList.isPrefixOf cs

mutual
def readValue : Nat → List Char → Option (Value × List Char)
  | 0, _ => none
  | fuel + 1, cs =>
    match skipSpace cs with
    | '{' :: rest => readObject fuel [] true rest
    | '[' :: rest => readArray fuel [] true rest
    | '"' :: rest => (readString (rest.length + 1) [] rest).map fun (s, r) => (Value.ofPoints s, r)
    | cs' =>
      if startsWith cs' "null" then some (.null, cs'.drop 4)
      else if startsWith cs' "true" then some (.bool true, cs'.drop 4)
      else if startsWith cs' "false" then some (.bool false, cs'.drop 5)
      else if startsWith cs' "NaN" then some (.float .nan, cs'.drop 3)
      else if startsWith cs' "Infinity" then some (.float (.inf false), cs'.drop 8)
      else if startsWith cs' "-Infinity" then some (.float (.inf true), cs'.drop 9)
      else readNumber cs'

/-- Members of an object after `{`, or after a member and its comma when `first` is false. -/
def readObject : Nat → Value.Entries → Bool → List Char → Option (Value × List Char)
  | 0, _, _, _ => none
  | fuel + 1, acc, first, cs =>
    match skipSpace cs with
    | '}' :: rest => if first then some (.map acc, rest) else none
    | '"' :: rest => do
      let (key, afterKey) ← readString (rest.length + 1) [] rest
      match skipSpace afterKey with
      | ':' :: afterColon => do
        let (v, afterValue) ← readValue fuel afterColon
        match skipSpace afterValue with
        | ',' :: more => readObject fuel (Value.Entries.insert acc (Value.ofPoints key) v) false more
        | '}' :: more => some (.map (Value.Entries.insert acc (Value.ofPoints key) v), more)
        | _ => none
      | _ => none
    | _ => none

/-- Items of an array after `[`, or after an item and its comma when `first` is false. -/
def readArray : Nat → List Value → Bool → List Char → Option (Value × List Char)
  | 0, _, _, _ => none
  | fuel + 1, acc, first, cs =>
    match skipSpace cs with
    | ']' :: rest => if first then some (.seq acc.reverse, rest) else none
    | cs' => do
      let (v, afterValue) ← readValue fuel cs'
      match skipSpace afterValue with
      | ',' :: more => readArray fuel (v :: acc) false more
      | ']' :: more => some (.seq (v :: acc).reverse, more)
      | _ => none
end

/-- A whole JSON text: one value with only whitespace around it. -/
def parse (s : String) : Option Value := do
  let cs := s.toList
  let (v, rest) ← readValue (cs.length + 1) cs
  if (skipSpace rest).isEmpty then some v else none

structure JsonStyle where
  /-- Spaces per level, or `none` for one line. -/
  indent : Option Nat
  /-- Whether every character outside printable ASCII is escaped. -/
  asciiOnly : Bool

/-- Binary64 numbers in JSON: as in value notation, with the special values spelled `NaN`,
`Infinity` and `-Infinity`. -/
def floatLayout : FloatLayout :=
  { Value.floatLayout with infText := "Infinity", nanText := "NaN" }

def unitEscape (n : Nat) : String := "\\u" ++ Value.hexPad 4 n

def escapeChar (asciiOnly : Bool) (c : Char) : String :=
  if c == '"' then "\\\"" else if c == '\\' then "\\\\"
  else if c == '\n' then "\\n" else if c == '\r' then "\\r" else if c == '\t' then "\\t"
  else if c.toNat == 8 then "\\b" else if c.toNat == 12 then "\\f"
  else if c.toNat < 0x20 then unitEscape c.toNat
  else if asciiOnly && c.toNat ≥ 0x7f then
    if c.toNat ≥ 0x10000 then
      let v := c.toNat - 0x10000
      unitEscape (0xd800 + v / 0x400) ++ unitEscape (0xdc00 + v % 0x400)
    else unitEscape c.toNat
  else String.singleton c

def quote (asciiOnly : Bool) (s : String) : String :=
  "\"" ++ String.join (s.toList.map (escapeChar asciiOnly)) ++ "\""

/-- A JSON string literal of code points, a surrogate written as its `\u` escape. -/
def quotePoints (asciiOnly : Bool) (points : List Nat) : String :=
  let one (n : Nat) : String :=
    if Value.isSurrogate n then unitEscape n else escapeChar asciiOnly (Char.ofNat n)
  "\"" ++ String.join (points.map one) ++ "\""

/-- The text of a mapping key: strings as they are, other keys by their JSON spelling. -/
def keyText : Value → String
  | .str s => s
  | .null => "null"
  | .bool b => if b then "true" else "false"
  | .int n => toString n
  | .float x => x.render floatLayout
  | v => v.plainText

def quoteKey (asciiOnly : Bool) : Value → String
  | .codes ps => quotePoints asciiOnly ps
  | k => quote asciiOnly (keyText k)

def breakAt (style : JsonStyle) (depth : Nat) : String :=
  match style.indent with
  | some n => "\n" ++ String.ofList (List.replicate (n * depth) ' ')
  | none => ""

def sep (style : JsonStyle) : String := if style.indent.isSome then ": " else ":"

mutual
def write (style : JsonStyle) (depth : Nat) : Value → String
  | .null => "null"
  | .bool b => if b then "true" else "false"
  | .int n => toString n
  | .float x => x.render floatLayout
  | .str s => quote style.asciiOnly s
  | .date y m d => quote style.asciiOnly (Value.date y m d).plainText
  | .moment t => quote style.asciiOnly (Value.moment t).plainText
  | .bytes bs => quote style.asciiOnly (Value.bytes bs).plainText
  | .set xs => quote style.asciiOnly (Value.set xs).plainText
  | .codes ps => quotePoints style.asciiOnly ps
  | .seq [] => "[]"
  | .seq xs => "[" ++ writeItems style (depth + 1) xs ++ breakAt style depth ++ "]"
  | .tuple [] => "[]"
  | .tuple xs => "[" ++ writeItems style (depth + 1) xs ++ breakAt style depth ++ "]"
  | .map [] => "\x7b\x7d"
  | .map es => "\x7b" ++ writeEntries style (depth + 1) es ++ breakAt style depth ++ "\x7d"

def writeItems (style : JsonStyle) (depth : Nat) : List Value → String
  | [] => ""
  | [x] => breakAt style depth ++ write style depth x
  | x :: xs => breakAt style depth ++ write style depth x ++ "," ++ writeItems style depth xs

def writeEntries (style : JsonStyle) (depth : Nat) : List (Value × Value) → String
  | [] => ""
  | [(k, v)] => breakAt style depth ++ quoteKey style.asciiOnly k ++ sep style ++ write style depth v
  | (k, v) :: es =>
    breakAt style depth ++ quoteKey style.asciiOnly k ++ sep style ++ write style depth v ++ "," ++
      writeEntries style depth es
end

/-- One-line JSON with every non-ASCII character escaped. -/
def compact : JsonStyle := ⟨none, true⟩

/-- JSON indented by two spaces per level, every non-ASCII character escaped. -/
def pretty : JsonStyle := ⟨some 2, true⟩

def render (style : JsonStyle) (v : Value) : String := write style 0 v

end Json

end Cyclomatic
