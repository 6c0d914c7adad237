/-!
Source text as the parser reads it: an array of characters, the dialect of the grammar, and
the character classes of the lexical grammar.

Positions are character indices. A line starts after each `\n` only, so a lone `\r` does not
end a line; a column is counted in UTF-8 bytes from the start of its line.
-/

namespace Cyclomatic

namespace Syntax

/-- The three grammars: plain with markup, typed without markup, typed with markup. -/
inductive Dialect where
  | javascript
  | typescript
  | tsx
deriving DecidableEq, Repr, Inhabited

namespace Dialect

def typed : Dialect → Bool
  | .javascript => false
  | _ => true

def markup : Dialect → Bool
  | .typescript => false
  | _ => true

end Dialect

def openBrace : String := "\x7b"

def closeBrace : String := "\x7d"

/-- Text to be parsed, with the start of every line. -/
structure Source where
  chars : Array Char
  dialect : Dialect
  lineStarts : Array Nat

namespace Source

def lineStartsOf (chars : Array Char) : Array Nat :=
  (chars.toList.zipIdx.foldl (fun acc (c, i) => if c == '\n' then acc.push (i + 1) else acc)
    #[0])

def ofString (text : String) (dialect : Dialect) : Source :=
  let chars := text.toList.toArray
  { chars, dialect, lineStarts := lineStartsOf chars }

def size (s : Source) : Nat := s.chars.size

/-- The character at a position; NUL past the end, which the lexical rules read as the end. -/
def get (s : Source) (i : Nat) : Char := s.chars.getD i '\x00'

def slice (s : Source) (a b : Nat) : String := String.ofList (s.chars.extract a b).toList

def hasAt (s : Source) (i : Nat) (lit : String) : Bool :=
  let (same, n) :=
    lit.toList.foldl (fun (same, k) c => (same && s.get (i + k) == c, k + 1)) (true, 0)
  same && i + n ≤ s.size

/-- The line (from 0) of a position: the number of line starts at or before it, less one. -/
def line (s : Source) (p : Nat) : Nat :=
  let rec search (lo hi : Nat) : Nat → Nat
    | 0 => lo
    | fuel + 1 =>
      if hi ≤ lo + 1 then lo
      else
        let mid := (lo + hi) / 2
        if s.lineStarts.getD mid 0 ≤ p then search mid hi fuel else search lo mid fuel
  search 0 s.lineStarts.size 64

def byteColumn (s : Source) (p : Nat) : Nat :=
  let start := s.lineStarts.getD (s.line p) 0
  ((s.chars.extract start p).toList.map Char.utf8Size).foldr (· + ·) 0

end Source

/-- Blank characters between tokens: white space, space separators and the invisible
spaces U+FEFF, U+2060, U+200B. -/
def isBlank (c : Char) : Bool :=
  let n := c.toNat
  (9 ≤ n && n ≤ 13) || n == 32 || n == 0xA0 || n == 0x1680 ||
    (0x2000 ≤ n && n ≤ 0x200B) || n == 0x2028 || n == 0x2029 || n == 0x202F || n == 0x205F ||
    n == 0x2060 || n == 0x3000 || n == 0xFEFF

/-- White space as the hand-written scanners test it: ASCII white space and the Unicode
spaces of the C library's character class, which leaves out the no-break spaces. -/
def isScannerSpace (c : Char) : Bool :=
  let n := c.toNat
  (9 ≤ n && n ≤ 13) || n == 32 || n == 0x1680 || (0x2000 ≤ n && n ≤ 0x2006) ||
    (0x2008 ≤ n && n ≤ 0x200A) || n == 0x2028 || n == 0x2029 || n == 0x205F || n == 0x3000

def isLineBreak (c : Char) : Bool := c == '\n' || c == '\u2028' || c == '\u2029'

def nameStops : List Char :=
  [':', ';', '`', '"', '\'', '@', '#', '.', ',', '|', '^', '&', '<', '=', '>', '+', '-', '*',
   '/', '\\', '%', '?', '!', '~', '(', ')', '[', ']', '{', '}']

/-- Characters that may continue a name: anything but control characters, blanks and
punctuation. -/
def isNamePart (c : Char) : Bool :=
  c.toNat > 0x1F && !isBlank c && !nameStops.contains c

/-- Characters that may start a name: those that continue one, digits apart. -/
def isNameStart (c : Char) : Bool := isNamePart c && !c.isDigit

def isHexDigit (c : Char) : Bool :=
  c.isDigit || ('a' ≤ c && c ≤ 'f') || ('A' ≤ c && c ≤ 'F')

end Syntax

end Cyclomatic
