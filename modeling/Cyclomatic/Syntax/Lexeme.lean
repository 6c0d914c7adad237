import Cyclomatic.Syntax.Source
import Cyclomatic.Text.Unicode
import Cyclomatic.Syntax.Tree

/-!
The lexical grammar: where names, numbers, strings, comments, regular expressions, template
text, markup text and punctuation end, read from a position where one of them starts; `none`
when no token of the kind starts there. `automaticSemicolon` decides where a statement may end
without a semicolon: at the end of the text, before `}`, and after a line break unless the next
line continues the expression.
-/

namespace Cyclomatic

namespace Syntax

namespace Source

def skipWhile (s : Source) (p : Nat) (ok : Char → Bool) : Nat :=
  let rec go (q : Nat) : Nat → Nat
    | 0 => q
    | fuel + 1 => if q < s.size && ok (s.get q) then go (q + 1) fuel else q
  go p (s.size - p)

def skipAtMost (s : Source) (p : Nat) (most : Nat) (ok : Char → Bool) : Nat :=
  let rec go (q : Nat) : Nat → Nat
    | 0 => q
    | fuel + 1 => if q < s.size && ok (s.get q) then go (q + 1) fuel else q
  go p most

def unicodeEscapeEnd (s : Source) (p : Nat) : Option Nat :=
  if s.get p == '\\' && s.get (p + 1) == 'u' then
    if s.get (p + 2) == '{' then
      let q := s.skipWhile (p + 3) isHexDigit
      if q > p + 3 && s.get q == '}' then some (q + 1) else none
    else if (List.range 4).all fun k => isHexDigit (s.get (p + 2 + k)) then some (p + 6)
    else none
  else none

def nameRunEnd (s : Source) (p : Nat) : Nat :=
  let rec go (q : Nat) : Nat → Nat
    | 0 => q
    | fuel + 1 =>
      if q < s.size && isNamePart (s.get q) then go (q + 1) fuel
      else match s.unicodeEscapeEnd q with
        | some r => go r fuel
        | none => q
  go p (s.size - p + 1)

def nameEnd (s : Source) (p : Nat) : Option Nat :=
  if p < s.size && isNameStart (s.get p) then some (s.nameRunEnd (p + 1))
  else (s.unicodeEscapeEnd p).map s.nameRunEnd

def digitRunEnd (s : Source) (p : Nat) (digit : Char → Bool) : Option Nat :=
  if !digit (s.get p) then none
  else
    let rec go (q : Nat) : Nat → Nat
      | 0 => q
      | fuel + 1 =>
        if digit (s.get q) then go (q + 1) fuel
        else if s.get q == '_' && digit (s.get (q + 1)) then go (q + 2) fuel
        else q
    some (go (p + 1) (s.size - p + 1))

def exponentEnd (s : Source) (p : Nat) : Option Nat :=
  if s.get p == 'e' || s.get p == 'E' then
    let q := if s.get (p + 1) == '+' || s.get (p + 1) == '-' then p + 2 else p + 1
    s.digitRunEnd q Char.isDigit
  else none

/-- The end of a number: hexadecimal, binary, octal or decimal, with a fraction, an exponent
or a big-integer suffix `n`. -/
def numberEnd (s : Source) (p : Nat) : Option Nat :=
  let suffix (q : Nat) : Nat := if s.get q == 'n' then q + 1 else q
  let radix (marks : List Char) (digit : Char → Bool) : Option Nat :=
    if s.get p == '0' && marks.contains (s.get (p + 1)) then
      (s.digitRunEnd (p + 2) digit).map suffix
    else none
  let octal (c : Char) : Bool := '0' ≤ c && c ≤ '7'
  let binary (c : Char) : Bool := c == '0' || c == '1'
  match radix ['x', 'X'] isHexDigit with
  | some e => some e
  | none =>
  match radix ['b', 'B'] binary with
  | some e => some e
  | none =>
  match radix ['o', 'O'] octal with
  | some e => some e
  | none =>
    if s.get p == '.' then
      (s.digitRunEnd (p + 1) Char.isDigit).map fun q => (s.exponentEnd q).getD q
    else
      match s.digitRunEnd p Char.isDigit with
      | none => none
      | some q =>
        if s.get q == '.' then
          let r := (s.digitRunEnd (q + 1) Char.isDigit).getD (q + 1)
          some ((s.exponentEnd r).getD r)
        else match s.exponentEnd q with
          | some r => some r
          | none => some (suffix q)

def escapeEnd (s : Source) (p : Nat) : Option Nat :=
  let c := s.get (p + 1)
  let lineEnd (d : Char) : Bool := d == '\n' || d == '\u2028' || d == '\u2029'
  if p + 1 ≥ s.size then none
  else if c == 'x' then
    if isHexDigit (s.get (p + 2)) && isHexDigit (s.get (p + 3)) then some (p + 4) else none
  else if c == 'u' then s.unicodeEscapeEnd p
  else if '0' ≤ c && c ≤ '7' then
    let octal (d : Char) : Bool := '0' ≤ d && d ≤ '7'
    if octal (s.get (p + 2)) then
      if octal (s.get (p + 3)) then some (p + 4) else some (p + 3)
    else some (p + 2)
  else if (c == '\r' || c == '?') && lineEnd (s.get (p + 2)) then some (p + 3)
  else some (p + 2)

/-- The parts of a quoted string: runs of plain characters become `string_fragment` nodes,
escapes become `escape_sequence` nodes. The string ends at the closing quote and may not
hold a line break. -/
def stringParts (s : Source) (p : Nat) : Option (List Node × Nat) :=
  let quote := s.get p
  let plain (c : Char) : Bool := c != quote && c != '\\' && c != '\n' && c != '\r'
  let rec go (q : Nat) (acc : List Node) : Nat → Option (List Node × Nat)
    | 0 => none
    | fuel + 1 =>
      if q ≥ s.size then none
      else
        let c := s.get q
        if c == quote then some (acc.reverse, q + 1)
        else if c == '\\' then
          match s.escapeEnd q with
          | some r => go r (Node.leaf "escape_sequence" q r :: acc) fuel
          | none => none
        else if plain c then
          let r := s.skipWhile q plain
          go r (Node.leaf "string_fragment" q r :: acc) fuel
        else none
  go (p + 1) [] (s.size - p + 1)

def commentEnd (s : Source) (p : Nat) : Option Nat :=
  if s.get p != '/' then none
  else if s.get (p + 1) == '/' then
    some (s.skipWhile (p + 2) fun c => !(isLineBreak c || c == '\r'))
  else if s.get (p + 1) == '*' then
    let rec close (q : Nat) : Nat → Option Nat
      | 0 => none
      | fuel + 1 =>
        if q + 1 ≥ s.size then none
        else if s.get q == '*' && s.get (q + 1) == '/' then some (q + 2)
        else close (q + 1) fuel
    close (p + 2) (s.size - p)
  else none

def hashBangEnd (s : Source) : Option Nat :=
  if s.get 0 == '#' && s.get 1 == '!' then some (s.skipWhile 0 (· != '\n')) else none

/-- Whether a statement may start at the end `p` of a token: the token is `;`, `{` or `}`, or
the `#!` line, or there is none. -/
def statementMayStart (s : Source) (p : Nat) : Bool :=
  p == 0 || s.hashBangEnd == some p || [';', '{', '}'].contains (s.get (p - 1))

/-- Whether an HTML-like comment, `<!--` or `-->` to the end of its line, starts at `q` after
the blanks and comments from the end `p` of a token: where a statement may start, and for
`-->` also at the start of a line. -/
def htmlCommentAt (s : Source) (p q : Nat) : Bool :=
  let closes := s.hasAt q "-->"
  (s.hasAt q "<!--" || closes) &&
    (s.statementMayStart p || (closes && (s.chars.extract p q).any isLineBreak))

/-- Blanks and comments from a position: where the next token starts and how many comments
were passed. -/
def blankEnd (s : Source) (p : Nat) : Nat × Nat :=
  let rec go (q count : Nat) : Nat → Nat × Nat
    | 0 => (q, count)
    | fuel + 1 =>
      if q < s.size && isBlank (s.get q) then go (q + 1) count fuel
      else match s.commentEnd q with
        | some r => go r (count + 1) fuel
        | none =>
          if s.htmlCommentAt p q then
            go (s.skipWhile q fun c => !isLineBreak c) (count + 1) fuel
          else (q, count)
  go p 0 (s.size - p + 1)

/-- The end of the last comment among the blanks and comments from a position, or the
position itself when there is none. -/
def lastCommentEnd (s : Source) (p : Nat) : Nat :=
  let rec go (q last : Nat) : Nat → Nat
    | 0 => last
    | fuel + 1 =>
      if q < s.size && isBlank (s.get q) then go (q + 1) last fuel
      else match s.commentEnd q with
        | some r => go r r fuel
        | none =>
          if s.htmlCommentAt p q then
            let r := s.skipWhile q fun c => !isLineBreak c
            go r r fuel
          else last
  go p p (s.size - p + 1)

/-- The end of the body of a regular expression after its opening slash: character classes in
brackets, escapes, and any character but a slash or a line break. -/
def regexBodyEnd (s : Source) (p : Nat) : Option Nat :=
  let rec go (q : Nat) (inClass : Bool) : Nat → Option Nat
    | 0 => none
    | fuel + 1 =>
      let c := s.get q
      if q ≥ s.size || c == '\n' then none
      else if c == '\\' then
        if q + 1 < s.size && s.get (q + 1) != '\n' then go (q + 2) inClass fuel else none
      else if inClass then go (q + 1) (c != ']') fuel
      else if c == '[' then go (q + 1) true fuel
      else if c == '/' then some q
      else go (q + 1) false fuel
  match go p false (s.size - p + 1) with
  | some q => if q > p then some q else none
  | none => none

/-- The end of the pattern token of a regular expression after its opening slash: the longest
run of escapes, character classes closed in brackets and characters other than a slash, a
bracket or a line break. An escape of a line break and a class left open end no run, so the
token stops before them. -/
def regexPatternEnd (s : Source) (p : Nat) : Nat :=
  let rec go (q last : Nat) (inClass : Bool) : Nat → Nat
    | 0 => last
    | fuel + 1 =>
      let c := s.get q
      if q ≥ s.size || c == '\n' then last
      else if c == '\\' then
        if q + 1 < s.size && s.get (q + 1) != '\n' then
          go (q + 2) (if inClass then last else q + 2) inClass fuel
        else last
      else if inClass then
        if c == ']' then go (q + 1) (q + 1) false fuel else go (q + 1) last true fuel
      else if c == '[' then go (q + 1) last true fuel
      else if c == '/' then last
      else go (q + 1) (q + 1) false fuel
  go p p false (s.size - p + 1)

def lowerRunEnd (s : Source) (p : Nat) : Nat :=
  s.skipWhile p fun c => 'a' ≤ c && c ≤ 'z'

/-- The end of template text: anything up to a backquote, a backslash or `${`. Text that runs
into the end of the source, or into a NUL character, is no token at all. -/
def templateTextEnd (s : Source) (p : Nat) : Option Nat :=
  let rec go (q : Nat) : Nat → Option Nat
    | 0 => none
    | fuel + 1 =>
      let c := s.get q
      if q ≥ s.size || c == '\x00' then none
      else if c == '`' || c == '\\' || (c == '$' && s.get (q + 1) == '{') then some q
      else go (q + 1) fuel
  go p (s.size - p + 1)

/-- Text between markup tags: it runs to the next `<`, `>`, `{`, `}` or `&`, and is only a
token if it holds a character other than the indentation that follows a line break. -/
def markupTextEnd (s : Source) (p : Nat) : Option Nat :=
  let stop (c : Char) : Bool := c == '<' || c == '>' || c == '{' || c == '}' || c == '&'
  let rec go (q : Nat) (sawText atNewline : Bool) : Nat → Nat × Bool
    | 0 => (q, sawText)
    | fuel + 1 =>
      let c := s.get q
      if q ≥ s.size || c == '\x00' || stop c then (q, sawText)
      else if c == '\n' then go (q + 1) sawText true fuel
      else
        let nl := atNewline && isScannerSpace c
        go (q + 1) (sawText || !nl) nl fuel
  match go p false false (s.size - p + 1) with
  | (q, true) => some q
  | _ => none

def characterReferenceEnd (s : Source) (p : Nat) : Option Nat :=
  if s.get p != '&' then none
  else
    let run (q : Nat) (ok : Char → Bool) (most : Nat) : Nat := s.skipAtMost q most ok - q
    let close (q : Nat) : Option Nat := if s.get q == ';' then some (q + 1) else none
    if s.get (p + 1) == '#' then
      if s.get (p + 2) == 'x' || s.get (p + 2) == 'X' then
        let n := run (p + 3) isHexDigit 6
        if n > 0 then close (p + 3 + n) else none
      else
        let n := run (p + 2) Char.isDigit 5
        if n > 0 then close (p + 2 + n) else none
    else
      let n := run (p + 1) Char.isAlpha 30
      if n > 0 then close (p + 1 + n) else none

def punctuators : List String :=
  [">>>=", "...", "===", "!==", "**=", "<<=", ">>=", ">>>", "&&=", "||=", "??=", "=>", "==",
   "!=", "<=", ">=", "&&", "||", "??", "?.", "++", "--", "+=", "-=", "*=", "/=", "%=", "&=",
   "|=", "^=", "**", "<<", ">>", openBrace, closeBrace, "(", ")", "[", "]", ";", ",", "<", ">", "+", "-",
   "*", "/", "%", "&", "|", "^", "!", "~", "?", ":", "=", ".", "@", "#"]

/-- The punctuation tokens that start with each ASCII character, longest first: the entry at a
character code is `punctuators` filtered by first character. -/
def punctuatorsByFirst : Array (List String) :=
  (List.range 128).toArray.map fun k => punctuators.filter fun t => t.front == Char.ofNat k

/-- The longest punctuation token at a position; `?.` before a digit is a question mark. Only
the tokens that start with the character at the position are compared. -/
def punctuatorAt (s : Source) (p : Nat) : Option String :=
  match (punctuatorsByFirst.getD (s.get p).toNat []).find? fun t => s.hasAt p t with
  | some "?." => if (s.get (p + 2)).isDigit then some "?" else some "?."
  | r => r

/-- Blanks and comments as the semicolon scanner passes them: the position reached, whether
it reached a token that is not a slash, and whether a comment was passed. With `early`, a
block comment on its own is enough. -/
def scanBlanksAndComments (s : Source) (p : Nat) (early : Bool) : Nat × Bool × Bool :=
  let rec go (q : Nat) (seen : Bool) : Nat → Nat × Bool × Bool
    | 0 => (q, true, seen)
    | fuel + 1 =>
      if q < s.size && isScannerSpace (s.get q) then go (q + 1) seen fuel
      else if s.get q == '/' then
        if s.get (q + 1) == '/' then
          go (s.skipWhile (q + 2) fun d => !isLineBreak d) true fuel
        else if s.get (q + 1) == '*' then
          match s.commentEnd q with
          | some r => if early && s.get r != '/' then (r, true, true) else go r true fuel
          | none => (s.size, true, true)
        else (q, false, seen)
      else (q, true, seen)
  go p false (s.size - p + 1)

/-- Whether a statement may end at a position without a semicolon, as the scanner of the
grammar decides it. `afterComment` is set where no binary operator could follow; there a
comment on the same line also ends the statement. The typed dialects keep a line break
before `.` and let one before a backquote end the statement. -/
def automaticSemicolon (s : Source) (p : Nat) (afterComment : Bool) : Bool :=
  let typed := s.dialect.typed
  let continues (q : Nat) : Bool :=
    let c := s.get q
    if [',', ':', ';', '*', '%', '>', '<', '=', '[', '(', '?', '^', '|', '&', '/'].contains c then
      false
    else if c == '`' then typed
    else if c == '.' then !typed && (s.get (q + 1)).isDigit
    else if c == '+' then s.get (q + 1) == '+'
    else if c == '-' then s.get (q + 1) == '-'
    else if c == '!' then s.get (q + 1) != '='
    else if c == 'i' then
      if s.get (q + 1) != 'n' then true
      else if !Unicode.isAlphabetic (s.get (q + 2)) then false
      else if !s.hasAt (q + 2) "stanceof" then true
      else Unicode.isAlphabetic (s.get (q + 10))
    else true
  let rec go (q : Nat) : Nat → Bool
    | 0 => true
    | fuel + 1 =>
      if q ≥ s.size then true
      else
        -- a comment on the same line is passed first
        let afterScan : Sum Bool Nat :=
          if s.get q == '/' then
            match s.scanBlanksAndComments q true with
            | (_, false, _) => .inl false
            | (r, true, _) =>
              if afterComment && s.get r != ',' && s.get r != '=' then .inl true else .inr r
          else .inr q
        match afterScan with
        | .inl b => b
        | .inr r =>
          let d := s.get r
          if r ≥ s.size || d == '}' then true
          else if isLineBreak d then
            match s.scanBlanksAndComments (r + 1) false with
            | (_, false, _) => false
            | (t, true, _) => continues t
          else if !isScannerSpace d then false
          else go (r + 1) fuel
  go p (s.size - p + 2)

/-- Where a semicolon may be left out, trying again after each comment on the same line that
the scanner stops at. -/
def semicolonMayEnd (s : Source) (p : Nat) (afterComment : Bool) : Bool :=
  let rec go (q : Nat) : Nat → Bool
    | 0 => false
    | fuel + 1 =>
      if s.automaticSemicolon q afterComment then true
      else
        let r := s.skipWhile q fun c => isBlank c && !isLineBreak c
        match s.commentEnd r with
        | some e => go e fuel
        | none => false
  go p (s.size - p + 1)

/-- Whether a question mark at a position is the one of a conditional expression rather than
`??` or `?.`. -/
def conditionalMark (s : Source) (p : Nat) : Bool :=
  if s.get p != '?' then false
  else
    let c := s.get (p + 1)
    if c == '?' then false
    else if s.dialect.typed then
      if c == '.' then false
      else
        let q := s.skipWhile (p + 1) isScannerSpace
        let d := s.get q
        if d == ':' || d == ')' || d == ',' then false
        else if d == '.' then (s.get (q + 1)).isDigit
        else true
    else if c == '.' then (s.get (p + 2)).isDigit
    else true

end Source

end Syntax

end Cyclomatic
