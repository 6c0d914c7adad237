import Cyclomatic.Number.Decimal
import Cyclomatic.Text.Unicode

/-!
Numbers read from text as the integer and float constructors of the settings language read
them. White space and decimal digits beyond ASCII are first read as their ASCII forms, and
white space at either end is dropped. An integer is a sign, an optional base prefix and digits
with single underscores between them; a base-10 integer of more than `maxIntDigits` digits is
refused as too long. A float is a sign and `inf`, `infinity` or `nan` in any case, or digits with
an optional point and exponent.
-/

namespace Cyclomatic

namespace NumberText

def maxIntDigits : Nat := 4300

/-- Why a text is not an integer: it is not one, or it is one with more decimal digits than
`maxIntDigits` (their count is given). -/
inductive IntError where
  | invalid
  | tooLong (digits : Nat)
deriving Repr, DecidableEq

/-- A character as the readers see it: white space beyond ASCII becomes a space, a decimal
digit of another script its ASCII digit, and any other character beyond ASCII a question mark,
which no number holds. -/
def asciiOf (c : Char) : Char :=
  if c.toNat < 127 then c
  else if Unicode.isBlank c then ' '
  else match Unicode.digitValue c with
    | some d => Char.ofNat (48 + d)
    | none => '?'

def isAsciiSpace (c : Char) : Bool := c == ' ' || (9 ≤ c.toNat && c.toNat ≤ 13)

def prepared (s : String) : List Char :=
  ((s.toList.map asciiOf |>.dropWhile isAsciiSpace).reverse.dropWhile isAsciiSpace).reverse

def digitOf (c : Char) : Nat :=
  if c.isDigit then c.toNat - 48
  else if 'a' ≤ c && c ≤ 'z' then c.toNat - 87
  else if 'A' ≤ c && c ≤ 'Z' then c.toNat - 55
  else 36

def splitSign : List Char → Bool × List Char
  | '-' :: rest => (true, rest)
  | '+' :: rest => (false, rest)
  | cs => (false, cs)

/-- The run of digits of a base at the start of some characters, single underscores between
them: its value, its number of digits and the characters after it. None when an underscore is
doubled or ends the run. -/
def digitRun (base : Nat) : List Char → Nat → Nat → Bool → Option (Nat × Nat × List Char)
  | c :: rest, value, count, afterUnderscore =>
    if c == '_' then
      if afterUnderscore then none else digitRun base rest value count true
    else if digitOf c < base then digitRun base rest (value * base + digitOf c) (count + 1) false
    else if afterUnderscore then none
    else some (value, count, c :: rest)
  | [], value, count, afterUnderscore =>
    if afterUnderscore then none else some (value, count, [])

/-- The characters after a base prefix of the base, and one underscore after it. -/
def dropPrefix (base : Nat) (cs : List Char) : List Char :=
  let marks : List Char := if base == 16 then ['x', 'X'] else if base == 8 then ['o', 'O']
    else if base == 2 then ['b', 'B'] else []
  match cs with
  | '0' :: m :: rest =>
    if marks.contains m then
      match rest with
      | '_' :: more => more
      | _ => rest
    else cs
  | _ => cs

/-- The integer a text writes in a base (2, 8, 10 or 16), or why it writes none. -/
def readInt (s : String) (base : Nat) : Except IntError Int :=
  let (neg, body) := splitSign (prepared s)
  let body := dropPrefix base body
  if body.head? == some '_' then .error .invalid
  else
    match digitRun base body 0 0 false with
    | none => .error .invalid
    | some (value, count, rest) =>
      if base == 10 && count > maxIntDigits then .error (.tooLong count)
      else if count == 0 || !rest.isEmpty then .error .invalid
      else .ok (if neg then -(value : Int) else value)

def underscoresBetweenDigits : List Char → Bool
  | a :: '_' :: b :: rest =>
    a.isDigit && b.isDigit && underscoresBetweenDigits (b :: rest)
  | '_' :: _ => false
  | _ :: rest => underscoresBetweenDigits rest
  | [] => true

def digitsPrefix (cs : List Char) : List Char × List Char :=
  (cs.takeWhile Char.isDigit, cs.dropWhile Char.isDigit)

def digitsValue (ds : List Char) : Nat :=
  ds.foldl (fun n c => n * 10 + (c.toNat - 48)) 0

def exponentOf (cs : List Char) : Option Int :=
  let (neg, rest) := splitSign cs
  let (ds, after) := digitsPrefix rest
  if ds.isEmpty || !after.isEmpty then none
  else some (if neg then -(digitsValue ds : Int) else digitsValue ds)

def readFloat (s : String) : Option Binary64 :=
  let cs := prepared s
  if !underscoresBetweenDigits cs then none
  else
    let (neg, body) := splitSign (cs.filter (· != '_'))
    let word := String.ofList (body.map Char.toLower)
    if word == "inf" || word == "infinity" then some (.inf neg)
    else if word == "nan" then some .nan
    else
      let (whole, rest) := digitsPrefix body
      let (frac, rest) := match rest with
        | '.' :: more => digitsPrefix more
        | _ => ([], rest)
      let expo : Option Int := match rest with
        | [] => some 0
        | e :: more => if e == 'e' || e == 'E' then exponentOf more else none
      if whole.isEmpty && frac.isEmpty then none
      else expo.map fun e =>
        Binary64.ofDecimal neg (digitsValue (whole ++ frac)) (e - frac.length)

/-- The message of a text refused as an integer of a base; the quoted text is cut to 200
characters. -/
def intMessage (quoted : String) (base : Nat) : IntError → String
  | .invalid =>
    "invalid literal for int() with base " ++ toString base ++ ": " ++
      String.ofList (quoted.toList.take 200)
  | .tooLong n =>
    "Exceeds the limit (" ++ toString maxIntDigits ++
      " digits) for integer string conversion: value has " ++ toString n ++
      " digits; use sys.set_int_max_str_digits() to increase the limit"

def floatMessage (quoted : String) : String :=
  "could not convert string to float: " ++ quoted

end NumberText

end Cyclomatic
