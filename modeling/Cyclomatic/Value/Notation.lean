import Cyclomatic.Value.Basic
import Cyclomatic.Number.Decimal
import Cyclomatic.Text.Unicode

/-!
The literal notation of document values, as error messages quote them. A string is quoted with
single quotes, or double quotes when it holds a single quote and no double quote, and characters
that are not printable are escaped by size. Numbers are written as themselves, booleans as `True`
and `False`, null as `None`, and collections in their brackets.
-/

namespace Cyclomatic

namespace Value

/-- Binary64 numbers in value notation: positional from `1e-4` up to `1e16`, a whole number
keeps `.0`, and an exponent is written `e+XX` / `e-XX`. -/
def floatLayout : FloatLayout :=
  { positionalLow := -4, positionalHigh := 16, pointZero := true, mark := "e", expDigits := 2,
    infText := "inf", nanText := "nan" }

def hexPad (width : Nat) (n : Nat) : String :=
  padZeros width (String.ofList (Nat.toDigits 16 n))

def quoteChar (quote : Char) (c : Char) : String :=
  if c == quote || c == '\\' then String.ofList ['\\', c]
  else if c == '\t' then "\\t"
  else if c == '\n' then "\\n"
  else if c == '\r' then "\\r"
  else if Unicode.isPrintable c then String.singleton c
  else if c.toNat ≤ 0xff then "\\x" ++ hexPad 2 c.toNat
  else if c.toNat ≤ 0xffff then "\\u" ++ hexPad 4 c.toNat
  else "\\U" ++ hexPad 8 c.toNat

def quote (s : String) : String :=
  let q := if s.contains '\'' && !s.contains '"' then '"' else '\''
  String.singleton q ++ String.join (s.toList.map (quoteChar q)) ++ String.singleton q

/-- A string given by its code points in quotes, as `quote` writes it; a surrogate is not
printable and is written `\u....`. -/
def quotePoints (points : List Nat) : String :=
  let q := if points.contains 39 && !points.contains 34 then '"' else '\''
  let one (n : Nat) : String :=
    if isSurrogate n then "\\u" ++ hexPad 4 n else quoteChar q (Char.ofNat n)
  String.singleton q ++ String.join (points.map one) ++ String.singleton q

def twoDigits (n : Nat) : String := padZeros 2 (toString n)

/-- The literal notation of a span of seconds: its whole days (floored) and the seconds left,
each written only when it is not zero. -/
def spanLiteral (seconds : Int) : String :=
  let days := seconds / 86400
  let rest := seconds - days * 86400
  let parts := (if days != 0 then [s!"days={days}"] else []) ++
    (if rest != 0 then [s!"seconds={rest}"] else [])
  "datetime.timedelta(" ++ (if parts.isEmpty then "0" else ", ".intercalate parts) ++ ")"

def zoneLiteral (offset : Int) : String :=
  if offset == 0 then "datetime.timezone.utc"
  else "datetime.timezone(" ++ spanLiteral (offset * 60) ++ ")"

/-- The literal notation of a moment: the fields down to the last that is not zero among the
second and the microsecond, then its zone. -/
def momentLiteral (t : Moment) : String :=
  let fields := [t.year, t.month, t.day, t.hour, t.minute] ++
    (if t.micro != 0 then [t.second, t.micro] else if t.second != 0 then [t.second] else [])
  let zone := match t.offset with
    | some o => ", tzinfo=" ++ zoneLiteral o
    | none => ""
  "datetime.datetime(" ++ ", ".intercalate (fields.map toString) ++ zone ++ ")"

/-- A moment as text: `YYYY-MM-DD HH:MM:SS`, then `.ffffff` when there are microseconds, then the
offset as `+HH:MM` or `-HH:MM`. -/
def momentText (t : Moment) : String :=
  let date := padZeros 4 (toString t.year) ++ "-" ++ twoDigits t.month ++ "-" ++ twoDigits t.day
  let time := twoDigits t.hour ++ ":" ++ twoDigits t.minute ++ ":" ++ twoDigits t.second
  let micro := if t.micro != 0 then "." ++ padZeros 6 (toString t.micro) else ""
  let zone := match t.offset with
    | some o =>
      let a := o.natAbs
      (if o < 0 then "-" else "+") ++ twoDigits (a / 60) ++ ":" ++ twoDigits (a % 60)
    | none => ""
  date ++ " " ++ time ++ micro ++ zone

def quoteByte (quote : Char) (b : UInt8) : String :=
  let c := Char.ofNat b.toNat
  if c == quote || c == '\\' then String.ofList ['\\', c]
  else if c == '\t' then "\\t"
  else if c == '\n' then "\\n"
  else if c == '\r' then "\\r"
  else if b < 0x20 || b ≥ 0x7f then "\\x" ++ hexPad 2 b.toNat
  else String.singleton c

/-- A byte string in its literal notation: `b` and the bytes quoted as a string is, bytes
outside printable ASCII written `\x..`. -/
def bytesLiteral (bs : List UInt8) : String :=
  let q := if bs.contains 39 && !bs.contains 34 then '"' else '\''
  "b" ++ String.singleton q ++ String.join (bs.map (quoteByte q)) ++ String.singleton q

mutual
def literal : Value → String
  | .null => "None"
  | .bool b => if b then "True" else "False"
  | .int n => toString n
  | .float x => x.render floatLayout
  | .str s => quote s
  | .seq xs => "[" ++ literalItems xs ++ "]"
  | .map es => "\x7b" ++ literalEntries es ++ "\x7d"
  | .date y m d => s!"datetime.date({y}, {m}, {d})"
  | .moment t => momentLiteral t
  | .bytes bs => bytesLiteral bs
  | .set [] => "set()"
  | .set xs => "\x7b" ++ literalItems xs ++ "\x7d"
  | .tuple [x] => "(" ++ literal x ++ ",)"
  | .tuple xs => "(" ++ literalItems xs ++ ")"
  | .codes ps => quotePoints ps

def literalItems : List Value → String
  | [] => ""
  | [x] => literal x
  | x :: xs => literal x ++ ", " ++ literalItems xs

def literalEntries : List (Value × Value) → String
  | [] => ""
  | [(k, v)] => literal k ++ ": " ++ literal v
  | (k, v) :: es => literal k ++ ": " ++ literal v ++ ", " ++ literalEntries es
end

/-- The plain text of a value where text is needed: a date as `YYYY-MM-DD`, a moment as
`momentText` writes it, a string as itself (a surrogate, which text cannot hold, as the
replacement character), anything else in literal notation. -/
def plainText : Value → String
  | .date y m d => padZeros 4 (toString y) ++ "-" ++ twoDigits m ++ "-" ++ twoDigits d
  | .moment t => momentText t
  | .str s => s
  | .codes ps => String.ofList (ps.map fun n => if isSurrogate n then '\uFFFD' else Char.ofNat n)
  | v => v.literal

end Value

end Cyclomatic
