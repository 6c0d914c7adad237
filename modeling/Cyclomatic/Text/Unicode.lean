import Cyclomatic.Text.CharData

/-!
Character classes and case mapping beyond ASCII. `isBlank` is what trimming removes; `lower`
maps a text to its full lowercase form, a capital sigma that ends a word becoming the final
small sigma; `isPrintable` leaves out controls, format characters, separators other than the
space, surrogates, private-use characters and unassigned code points.
-/

namespace Cyclomatic

namespace Unicode

/-- Characters removed by trimming. -/
def isBlank (c : Char) : Bool :=
  let n := c.toNat
  (9 ≤ n && n ≤ 13) || (0x1c ≤ n && n ≤ 0x20) || n == 0x85 || n == 0xa0 || n == 0x1680 ||
    (0x2000 ≤ n && n ≤ 0x200a) || n == 0x2028 || n == 0x2029 || n == 0x202f || n == 0x205f ||
    n == 0x3000

def digitValue (c : Char) : Option Nat :=
  let n := c.toNat
  (digitZeros.find? fun z => z ≤ n && n < z + 10).map fun z => n - z

def isDecimal (c : Char) : Bool := (digitValue c).isSome

def trim (s : String) : String :=
  String.ofList ((s.toList.dropWhile isBlank).reverse.dropWhile isBlank).reverse

def inRanges (rs : List (Nat × Nat)) (n : Nat) : Bool :=
  rs.any fun (lo, hi) => lo ≤ n && n ≤ hi

/-- The lowercase code point of one character whose lowercase form is one character. -/
def lowerCode (n : Nat) : Nat :=
  match lowerRuns.find? fun (lo, hi, step, _) => lo ≤ n && n ≤ hi && (n - lo) % step == 0 with
  | some (_, _, _, shift) => (n + shift).toNat
  | none => n

def isCased (c : Char) : Bool := inRanges casedRanges c.toNat

def isCaseIgnorable (c : Char) : Bool := inRanges caseIgnorableRanges c.toNat

/-- Whether a character is alphabetic in the wide-character classes of the C library. -/
def isAlphabetic (c : Char) : Bool :=
  c.isAlpha || (c.toNat ≥ 0x80 && inRanges alphabeticRanges c.toNat)

def toLowerFull (c : Char) : List Char :=
  if c.toNat == 0x130 then ['i', Char.ofNat 0x307]
  else [Char.ofNat (lowerCode c.toNat)]

/-- Whether a capital sigma between two stretches of text takes its final form: a cased
character comes before it and none after it, case-ignorable characters skipped both ways. -/
def finalSigma (before after : List Char) : Bool :=
  match before.dropWhile isCaseIgnorable with
  | c :: _ =>
    isCased c &&
      match after.dropWhile isCaseIgnorable with
      | [] => true
      | d :: _ => !isCased d
  | [] => false

/-- The full lowercase form of a text; a capital sigma at the end of a word becomes the final
small sigma. -/
def lower (s : String) : String :=
  let rec go (before : List Char) : List Char → List Char
    | [] => []
    | c :: after =>
      let mapped :=
        if c.toNat == 0x3A3 then [if finalSigma before after then '\u03c2' else '\u03c3']
        else toLowerFull c
      mapped ++ go (c :: before) after
  String.ofList (go [] s.toList)

/-- Whether a character is shown as itself in quoted text. -/
def isPrintable (c : Char) : Bool :=
  !inRanges unprintableRanges c.toNat

end Unicode

end Cyclomatic
