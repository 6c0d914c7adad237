import Cyclomatic.Yaml.Problem
import Cyclomatic.Text.Utf8

/-!
The tokens of a YAML text. Indentation is made explicit: a block collection opens with a start
token when a line goes deeper than the current indentation and closes with an end token when a
line comes back out. A mapping key written without `?` is found late: when a `:` follows, a key
token is put back in front of what began at the last place a key could begin. Such a place is
forgotten at the end of its line or 1024 characters on. Scalars are read here with their line
folding, escapes and block indicators; what they stand for is decided later.
-/

namespace Cyclomatic

namespace Yaml

/-- What a directive says: the YAML version, a tag handle with the prefix it stands for, or
nothing that is read (a directive of another name). -/
inductive DirectiveValue where
  | version (major minor : Nat)
  | tagPrefix (handle pfx : String)
  | other
deriving Repr, Inhabited

inductive Token where
  | streamEnd
  | directive (name : String) (value : DirectiveValue)
  | documentStart
  | documentEnd
  | blockSequenceStart
  | blockMappingStart
  | blockEnd
  | flowSequenceStart
  | flowMappingStart
  | flowSequenceEnd
  | flowMappingEnd
  | blockEntry
  | flowEntry
  | key
  | value
  | alias (name : String)
  | anchor (name : String)
  | tag (handle : Option String) (suffix : String)
  /-- A scalar: its text, whether it was plain, and its code points when some of them are
  surrogates, which the text shows as the replacement character. -/
  | scalar (text : String) (plain : Bool) (codes : Option (List Nat))
deriving Repr, Inhabited

def Token.describe : Token → String
  | .streamEnd => "<stream end>"
  | .directive _ _ => "<directive>"
  | .documentStart => "<document start>"
  | .documentEnd => "<document end>"
  | .blockSequenceStart => "<block sequence start>"
  | .blockMappingStart => "<block mapping start>"
  | .blockEnd => "<block end>"
  | .flowSequenceStart => "["
  | .flowMappingStart => "\x7b"
  | .flowSequenceEnd => "]"
  | .flowMappingEnd => "\x7d"
  | .blockEntry => "-"
  | .flowEntry => ","
  | .key => "?"
  | .value => ":"
  | .alias _ => "<alias>"
  | .anchor _ => "<anchor>"
  | .tag _ _ => "<tag>"
  | .scalar _ _ _ => "<scalar>"

structure Placed where
  token : Token
  start : Mark
deriving Repr, Inhabited

/-- A place where a mapping key may have begun: the number of the token it begins with, whether
a key must stand there, and where it is. -/
structure SimpleKey where
  tokenNumber : Nat
  required : Bool
  mark : Mark
deriving Repr, Inhabited

structure Reading where
  text : Array Char
  index : Nat := 0
  line : Nat := 0
  column : Nat := 0
  flowLevel : Int := 0
  tokens : Array Placed := #[]
  indent : Int := -1
  indents : List Int := []
  allowSimpleKey : Bool := true
  keys : List (Int × SimpleKey) := []
  done : Bool := false

abbrev Lex := StateT Reading (Except Problem)

namespace Lex

def isBlankOrEnd (c : Char) : Bool := c == ' ' || c == '\t' || isLineEnd c

/-- Whether a character is an ASCII letter or digit, `-` or `_`: a character of anchor names
and tag handles. -/
def isWordChar (c : Char) : Bool :=
  ('0' ≤ c && c ≤ '9') || ('A' ≤ c && c ≤ 'Z') || ('a' ≤ c && c ≤ 'z') || c == '-' || c == '_'

def isHexDigit (c : Char) : Bool :=
  ('0' ≤ c && c ≤ '9') || ('A' ≤ c && c ≤ 'F') || ('a' ≤ c && c ≤ 'f')

def hexValue (s : String) : Nat :=
  s.foldl (fun n c =>
    n * 16 + (if c ≤ '9' then c.toNat - '0'.toNat
      else if c ≤ 'F' then c.toNat - 'A'.toNat + 10 else c.toNat - 'a'.toNat + 10)) 0

def peekAt (k : Nat) : Lex Char := do
  let s ← get
  pure (charAt s.text (s.index + k))

def peek : Lex Char := peekAt 0

def mark : Lex Mark := do
  let s ← get
  pure ⟨s.index, s.line, s.column⟩

def ahead (n : Nat) : Lex String := do
  let s ← get
  pure (String.ofList ((s.text.extract s.index (s.index + n)).toList))

/-- A bound on the steps of any loop: one more than the characters left. -/
def budget : Lex Nat := do
  let s ← get
  pure (s.text.size - s.index + 2)

def forward1 : Lex Unit := modify fun s =>
  let c := charAt s.text s.index
  let next := charAt s.text (s.index + 1)
  if c == '\n' || c == '\x85' || c == '\u2028' || c == '\u2029' || (c == '\r' && next != '\n') then
    { s with index := s.index + 1, line := s.line + 1, column := 0 }
  else if c != '\uFEFF' then { s with index := s.index + 1, column := s.column + 1 }
  else { s with index := s.index + 1 }

def forward : Nat → Lex Unit
  | 0 => pure ()
  | n + 1 => do forward1; forward n

def repeatWhile (step : Lex Bool) : Nat → Lex Unit
  | 0 => pure ()
  | fuel + 1 => do if ← step then repeatWhile step fuel

def skipWhile (p : Char → Bool) : Lex Unit := do
  repeatWhile (do if p (← peek) then forward1; pure true else pure false) (← budget)

def spanFrom (p : Char → Bool) (k : Nat) : Lex Nat := do
  let s ← get
  let rec go (n : Nat) : Nat → Nat
    | 0 => n
    | fuel + 1 => if p (charAt s.text (s.index + k + n)) then go (n + 1) fuel else n
  pure (go 0 (s.text.size + 1))

def problem (context : Option String) (contextMark : Option Mark) (what : String) : Lex α := do
  throw (.marked context contextMark what (some (← mark)))

def push (t : Token) (m : Mark) : Lex Unit :=
  modify fun s => { s with tokens := s.tokens.push ⟨t, m⟩ }

/-- Reads a line break: `\r\n`, `\r`, `\n` and `\x85` as `\n`, the line and paragraph
separators as themselves; nothing when there is none. -/
def lineBreak : Lex String := do
  let c ← peek
  if c == '\r' || c == '\n' || c == '\x85' then
    if c == '\r' && (← peekAt 1) == '\n' then forward 2 else forward1
    pure "\n"
  else if c == '\u2028' || c == '\u2029' then
    forward1
    pure (String.singleton c)
  else pure ""

def atBreak : Lex Bool := do
  let c ← peek
  pure (c != '\x00' && isLineEnd c)

def atSeparator : Lex Bool := do
  let p ← ahead 3
  pure ((p == "---" || p == "...") && isBlankOrEnd (← peekAt 3))

/-- Moves past spaces, comments and line breaks to the next token. A line break in block
context lets a key begin again. -/
def toNextToken : Lex Unit := do
  if (← get).index == 0 && (← peek) == '\uFEFF' then forward1
  repeatWhile (do
    skipWhile (· == ' ')
    if (← peek) == '#' then skipWhile (fun c => !isLineEnd c)
    if (← lineBreak).isEmpty then pure false
    else
      if (← get).flowLevel == 0 then modify fun s => { s with allowSimpleKey := true }
      pure true) (← budget)

def keyProblem (k : SimpleKey) : Lex α :=
  problem (some "while scanning a simple key") (some k.mark) "could not find expected ':'"

/-- Forgets key places that are no longer on the current line or are too far back; a place
where a key must stand fails. -/
def dropStaleKeys : Lex Unit := do
  let s ← get
  let stale (k : SimpleKey) : Bool := k.mark.line != s.line || s.index - k.mark.index > 1024
  match (s.keys.find? fun e => stale e.2 && e.2.required) with
  | some (_, k) => keyProblem k
  | none => set { s with keys := s.keys.filter fun e => !stale e.2 }

def removeKey : Lex Unit := do
  let s ← get
  match s.keys.lookup s.flowLevel with
  | some k =>
    if k.required then keyProblem k
    else set { s with keys := s.keys.filter fun e => e.1 != s.flowLevel }
  | none => pure ()

def saveKey : Lex Unit := do
  let s ← get
  let required := s.flowLevel == 0 && s.indent == (s.column : Int)
  if s.allowSimpleKey then
    removeKey
    let s ← get
    let k : SimpleKey := { tokenNumber := s.tokens.size, required, mark := ⟨s.index, s.line, s.column⟩ }
    let others : List (Int × SimpleKey) := s.keys.filter fun e => e.1 != s.flowLevel
    set { s with keys := others ++ [(s.flowLevel, k)] }

def unwindIndent (column : Int) : Lex Unit := do
  if (← get).flowLevel != 0 then return
  let step : Lex Bool := do
    let s ← get
    if s.indent > column then
      let m ← mark
      set { s with indent := s.indents.headD (-1), indents := s.indents.tail }
      push .blockEnd m
      pure true
    else pure false
  repeatWhile step ((← get).indents.length + 1)

def addIndent (column : Int) : Lex Bool := do
  let s ← get
  if s.indent < column then
    set { s with indents := s.indent :: s.indents, indent := column }
    pure true
  else pure false

def anchorOrAlias (isAlias : Bool) : Lex Unit := do
  let m ← mark
  let what := if isAlias then "alias" else "anchor"
  forward1
  let n ← spanFrom isWordChar 0
  if n == 0 then
    problem (some ("while scanning an " ++ what)) (some m)
      ("expected alphabetic or numeric character, but found " ++ quoteChar (← peek))
  let name ← ahead n
  forward n
  let c ← peek
  if !(isBlankOrEnd c || "?:,]\x7d%@\x60".contains c) then
    problem (some ("while scanning an " ++ what)) (some m)
      ("expected alphabetic or numeric character, but found " ++ quoteChar c)
  push (if isAlias then .alias name else .anchor name) m

def isUriChar (c : Char) : Bool := isWordChar c || "-;/?:@&=+$,_.!~*'()[]%".contains c

/-- Reads `%` escapes of a URI, each `%` and two hexadecimal digits, as the UTF-8 text of their
bytes. `what` names the construct for messages. -/
def uriEscapes (what : String) (m : Mark) : Lex String := do
  let start ← mark
  let rec go (acc : List UInt8) : Nat → Lex (List UInt8)
    | 0 => pure acc.reverse
    | fuel + 1 => do
      if (← peek) != '%' then return acc.reverse
      forward1
      for k in [0, 1] do
        let c ← peekAt k
        if !isHexDigit c then
          problem (some ("while scanning a " ++ what)) (some m)
            ("expected URI escape sequence of 2 hexadecimal numbers, but found " ++ quoteChar c)
      let byte := hexValue (← ahead 2)
      forward 2
      go (byte.toUInt8 :: acc) fuel
  let bytes ← go [] (← budget)
  match Utf8.decode bytes with
  | .ok text => pure text
  | .error f => throw (.marked (some ("while scanning a " ++ what)) (some m) f.message (some start))

/-- Reads the URI part of a tag or of a tag directive, `%` escapes decoded. `what` names the
construct for messages. -/
def tagUri (what : String) (m : Mark) : Lex String := do
  let rec go (acc : String) (any : Bool) : Nat → Lex (String × Bool)
    | 0 => pure (acc, any)
    | fuel + 1 => do
      let n ← spanFrom (fun c => isUriChar c && c != '%') 0
      let part ← ahead n
      forward n
      if (← peek) == '%' then
        let decoded ← uriEscapes what m
        go (acc ++ part ++ decoded) true fuel
      else pure (acc ++ part, any || n > 0)
  let (uri, any) ← go "" false (← budget)
  if !any then
    problem (some ("while parsing a " ++ what)) (some m) ("expected URI, but found " ++ quoteChar (← peek))
  pure uri

def tagHandle (what : String) (m : Mark) : Lex String := do
  if (← peek) != '!' then
    problem (some ("while scanning a " ++ what)) (some m) ("expected '!', but found " ++ quoteChar (← peek))
  if (← peekAt 1) == ' ' then
    forward1
    pure "!"
  else
    let n ← spanFrom isWordChar 1
    if (← peekAt (n + 1)) != '!' then
      let c ← peekAt (n + 1)
      forward (n + 1)
      problem (some ("while scanning a " ++ what)) (some m) ("expected '!', but found " ++ quoteChar c)
    let h ← ahead (n + 2)
    forward (n + 2)
    pure h

/-- Whether a character may end a directive's name or value: a space, a line end or the end
of the text. -/
def endsDirectiveWord (c : Char) : Bool := c == ' ' || isLineEnd c

def directiveProblem (m : Mark) (what : String) : Lex α :=
  problem (some "while scanning a directive") (some m) what

def versionNumber (m : Mark) : Lex Nat := do
  let c ← peek
  if !c.isDigit then directiveProblem m ("expected a digit, but found " ++ quoteChar c)
  let n ← spanFrom Char.isDigit 0
  let digits ← ahead n
  forward n
  pure (digits.foldl (fun v d => v * 10 + (d.toNat - 48)) 0)

/-- Reads a directive line: its name, then for `%YAML` the version and for `%TAG` the handle
and prefix; anything after them must be a comment. The line break is read with the line, so a
key cannot begin on the next line. -/
def directive : Lex Unit := do
  let m ← mark
  forward1
  let n ← spanFrom isWordChar 0
  if n == 0 then
    directiveProblem m ("expected alphabetic or numeric character, but found " ++ quoteChar (← peek))
  let name ← ahead n
  forward n
  if !endsDirectiveWord (← peek) then
    directiveProblem m ("expected alphabetic or numeric character, but found " ++ quoteChar (← peek))
  let value ← if name == "YAML" then do
      skipWhile (· == ' ')
      let major ← versionNumber m
      if (← peek) != '.' then
        directiveProblem m ("expected a digit or '.', but found " ++ quoteChar (← peek))
      forward1
      let minor ← versionNumber m
      if !endsDirectiveWord (← peek) then
        directiveProblem m ("expected a digit or ' ', but found " ++ quoteChar (← peek))
      pure (DirectiveValue.version major minor)
    else if name == "TAG" then do
      skipWhile (· == ' ')
      let handle ← tagHandle "directive" m
      if (← peek) != ' ' then
        directiveProblem m ("expected ' ', but found " ++ quoteChar (← peek))
      skipWhile (· == ' ')
      let pfx ← tagUri "directive" m
      if !endsDirectiveWord (← peek) then
        directiveProblem m ("expected ' ', but found " ++ quoteChar (← peek))
      pure (DirectiveValue.tagPrefix handle pfx)
    else do
      skipWhile (fun c => !isLineEnd c)
      pure DirectiveValue.other
  push (.directive name value) m
  skipWhile (· == ' ')
  if (← peek) == '#' then skipWhile (fun c => !isLineEnd c)
  if !isLineEnd (← peek) then
    directiveProblem m ("expected a comment or a line break, but found " ++ quoteChar (← peek))
  let _ ← lineBreak

def tag : Lex Unit := do
  let m ← mark
  let c ← peekAt 1
  let (handle, suffix) ← if c == '<' then do
      forward 2
      let suffix ← tagUri "tag" m
      if (← peek) != '>' then
        problem (some "while parsing a tag") (some m) ("expected '>', but found " ++ quoteChar (← peek))
      forward1
      pure (none, suffix)
    else if isBlankOrEnd c then do
      forward1
      pure (none, "!")
    else do
      let n ← spanFrom (fun c => !(c == '!' || c == ' ' || isLineEnd c)) 1
      if (← peekAt (n + 1)) == '!' then
        let h ← tagHandle "tag" m
        pure (some h, ← tagUri "tag" m)
      else
        forward1
        pure (some "!", ← tagUri "tag" m)
  let c ← peek
  if !(c == ' ' || isLineEnd c) then
    problem (some "while scanning a tag") (some m) ("expected ' ', but found " ++ quoteChar c)
  push (.tag handle suffix) m

/-- Reads the indicators after `|` or `>`: keep or strip the final breaks, and an explicit
indentation step from 1 to 9. -/
def blockIndicators (m : Mark) : Lex (Option Bool × Option Nat) := do
  let context := some "while scanning a block scalar"
  let digit (c : Char) : Lex (Option Nat) := do
    if '0' ≤ c && c ≤ '9' then
      if c == '0' then
        problem context (some m) "expected indentation indicator in the range 1-9, but found 0"
      forward1
      pure (some (c.toNat - '0'.toNat))
    else pure none
  let c ← peek
  let (chomp, step) ← if c == '+' || c == '-' then do
      forward1
      let d ← digit (← peek)
      pure (some (c == '+'), d)
    else if '0' ≤ c && c ≤ '9' then do
      let d ← digit c
      let c ← peek
      if c == '+' || c == '-' then
        forward1
        pure (some (c == '+'), d)
      else pure (none, d)
    else pure (none, none)
  let c ← peek
  if !(c == ' ' || isLineEnd c) then
    problem context (some m) ("expected chomping or indentation indicators, but found " ++ quoteChar c)
  pure (chomp, step)

def blockIgnoredLine (m : Mark) : Lex Unit := do
  skipWhile (· == ' ')
  if (← peek) == '#' then skipWhile (fun c => !isLineEnd c)
  let c ← peek
  if !isLineEnd c then
    problem (some "while scanning a block scalar") (some m)
      ("expected a comment or a line break, but found " ++ quoteChar c)
  let _ ← lineBreak

/-- Reads the empty lines before a block scalar's first line, and gives them with the deepest
column reached. -/
def blockIndentation : Lex (List String × Nat) := do
  let step (acc : List String × Nat) : Lex (Option (List String × Nat)) := do
    let c ← peek
    if c == ' ' then
      forward1
      let col := (← get).column
      pure (some (acc.1, max acc.2 col))
    else if ← atBreak then
      let b ← lineBreak
      pure (some (acc.1 ++ [b], acc.2))
    else pure none
  let rec go (acc : List String × Nat) : Nat → Lex (List String × Nat)
    | 0 => pure acc
    | fuel + 1 => do
      match ← step acc with
      | some acc' => go acc' fuel
      | none => pure acc
  go ([], 0) (← budget)

/-- Reads the line breaks between lines of a block scalar, moving past indentation up to a
column. -/
def blockBreaks (indent : Nat) : Lex (List String) := do
  let skipIndent : Lex Unit := do
    repeatWhile (do
      if (← get).column < indent && (← peek) == ' ' then forward1; pure true else pure false)
      (← budget)
  skipIndent
  let rec go (acc : List String) : Nat → Lex (List String)
    | 0 => pure acc
    | fuel + 1 => do
      if ← atBreak then
        let b ← lineBreak
        skipIndent
        go (acc ++ [b]) fuel
      else pure acc
  go [] (← budget)

def blockScalar (folded : Bool) : Lex Unit := do
  let m ← mark
  forward1
  let (chomp, step) ← blockIndicators m
  blockIgnoredLine m
  let minIndent : Nat := max ((← get).indent + 1) 1 |>.toNat
  let (breaks, indent) ← match step with
    | none => do
      let (bs, deepest) ← blockIndentation
      pure (bs, max minIndent deepest)
    | some k => do
      let indent := minIndent + k - 1
      pure (← blockBreaks indent, indent)
  let lineOf : Lex (String × String × List String × Bool) := do
    let c0 ← peek
    let leading := !(c0 == ' ' || c0 == '\t')
    let n ← spanFrom (fun c => !isLineEnd c) 0
    let body ← ahead n
    forward n
    let lb ← lineBreak
    let bs ← blockBreaks indent
    pure (body, lb, bs, leading)
  let rec go (chunks : String) (breaks : List String) (lastBreak : String) :
      Nat → Lex (String × List String × String)
    | 0 => pure (chunks, breaks, lastBreak)
    | fuel + 1 => do
      if (← get).column == indent && (← peek) != '\x00' then
        let chunks := chunks ++ String.join breaks
        let (body, lb, bs, leading) ← lineOf
        let chunks := chunks ++ body
        if (← get).column == indent && (← peek) != '\x00' then
          let joined :=
            if folded && lb == "\n" && leading && !((← peek) == ' ' || (← peek) == '\t') then
              if bs.isEmpty then " " else ""
            else lb
          go (chunks ++ joined) bs lb fuel
        else pure (chunks, bs, lb)
      else pure (chunks, breaks, lastBreak)
  let (chunks, breaks, lastBreak) ← go "" breaks "" (← budget)
  let text := match chomp with
    | some false => chunks
    | none => chunks ++ lastBreak
    | some true => chunks ++ lastBreak ++ String.join breaks
  push (.scalar text false none) m

/-- The character an escape letter in a double-quoted scalar stands for. -/
def escapeOf (c : Char) : Option Char :=
  match c with
  | '0' => some '\x00'
  | 'a' => some '\x07'
  | 'b' => some '\x08'
  | 't' => some '\t'
  | '\t' => some '\t'
  | 'n' => some '\n'
  | 'v' => some '\x0b'
  | 'f' => some '\x0c'
  | 'r' => some '\r'
  | 'e' => some '\x1b'
  | ' ' => some ' '
  | '"' => some '"'
  | '\\' => some '\\'
  | '/' => some '/'
  | 'N' => some '\x85'
  | '_' => some '\xa0'
  | 'L' => some '\u2028'
  | 'P' => some '\u2029'
  | _ => none

def escapeWidth (c : Char) : Option Nat :=
  match c with
  | 'x' => some 2
  | 'u' => some 4
  | 'U' => some 8
  | _ => none

/-- Line breaks inside a quoted scalar, each line's leading blanks dropped; a document
separator there fails. -/
def quotedBreaks (m : Mark) : Lex (List String) := do
  let rec go (acc : List String) : Nat → Lex (List String)
    | 0 => pure acc
    | fuel + 1 => do
      if ← atSeparator then
        problem (some "while scanning a quoted scalar") (some m) "found unexpected document separator"
      skipWhile (fun c => c == ' ' || c == '\t')
      if ← atBreak then
        let b ← lineBreak
        go (acc ++ [b]) fuel
      else pure acc
  go [] (← budget)

def pushText (acc : Array Nat) (s : String) : Array Nat := s.foldl (fun a c => a.push c.toNat) acc

/-- Reads the part of a quoted scalar up to blanks or its end, as code points: an escape
writes the code point it names, a surrogate included, and one beyond the last code point
fails. -/
def quotedText (double : Bool) (m : Mark) : Lex (Array Nat) := do
  let rec go (acc : Array Nat) : Nat → Lex (Array Nat)
    | 0 => pure acc
    | fuel + 1 => do
      let n ← spanFrom (fun c => !(c == '\'' || c == '"' || c == '\\' || isBlankOrEnd c)) 0
      let acc := pushText acc (← ahead n)
      forward n
      let c ← peek
      if !double && c == '\'' && (← peekAt 1) == '\'' then
        forward 2
        go (acc.push '\''.toNat) fuel
      else if (double && c == '\'') || (!double && (c == '"' || c == '\\')) then
        forward1
        go (acc.push c.toNat) fuel
      else if double && c == '\\' then
        forward1
        let e ← peek
        match escapeOf e, escapeWidth e with
        | some r, _ =>
          forward1
          go (acc.push r.toNat) fuel
        | none, some w =>
          forward1
          let digits ← ahead w
          let s ← get
          let bad := (List.range w).find? fun k => !isHexDigit (charAt s.text (s.index + k))
          match bad with
          | some k =>
            let c ← peekAt k
            problem (some "while scanning a double-quoted scalar") (some m)
              s!"expected escape sequence of {w} hexadecimal numbers, but found {quoteChar c}"
          | none =>
            let code := hexValue digits
            if code > 0x10FFFF then throw .beyondUnicode
            forward w
            go (acc.push code) fuel
        | none, none =>
          if ← atBreak then
            let _ ← lineBreak
            let bs ← quotedBreaks m
            go (pushText acc (String.join bs)) fuel
          else
            problem (some "while scanning a double-quoted scalar") (some m)
              ("found unknown escape character " ++ quoteChar e)
      else pure acc
  go #[] (← budget)

def quotedSpaces (m : Mark) : Lex String := do
  let n ← spanFrom (fun c => c == ' ' || c == '\t') 0
  let blanks ← ahead n
  forward n
  let c ← peek
  if c == '\x00' then
    problem (some "while scanning a quoted scalar") (some m) "found unexpected end of stream"
  else if isLineEnd c then
    let lb ← lineBreak
    let bs ← quotedBreaks m
    let joined := if lb != "\n" then lb else if bs.isEmpty then " " else ""
    pure (joined ++ String.join bs)
  else pure blanks

def quoted (double : Bool) : Lex Unit := do
  let m ← mark
  let q ← peek
  forward1
  let first ← quotedText double m
  let rec go (acc : Array Nat) : Nat → Lex (Array Nat)
    | 0 => pure acc
    | fuel + 1 => do
      if (← peek) == q then pure acc
      else
        let sp ← quotedSpaces m
        let t ← quotedText double m
        go (pushText acc sp ++ t) fuel
  let points := (← go first (← budget)).toList
  forward1
  let text := String.ofList (points.map fun n => if Value.isSurrogate n then '\uFFFD' else Char.ofNat n)
  push (.scalar text false (if points.any Value.isSurrogate then some points else none)) m

/-- Reads blanks after a part of a plain scalar: kept on one line, folded across lines; none
when a document separator follows a break. -/
def plainSpaces : Lex (Option (List String)) := do
  let n ← spanFrom (· == ' ') 0
  let blanks ← ahead n
  forward n
  if ← atBreak then
    let lb ← lineBreak
    modify fun s => { s with allowSimpleKey := true }
    if ← atSeparator then return none
    let rec go (acc : List String) : Nat → Lex (Option (List String))
      | 0 => pure (some acc)
      | fuel + 1 => do
        let c ← peek
        if c == ' ' then
          forward1
          go acc fuel
        else if ← atBreak then
          let b ← lineBreak
          if ← atSeparator then return none
          go (acc ++ [b]) fuel
        else pure (some acc)
    match ← go [] (← budget) with
    | none => pure none
    | some bs =>
      let joined := if lb != "\n" then [lb] else if bs.isEmpty then [" "] else []
      pure (some (joined ++ bs))
  else if blanks.isEmpty then pure (some [])
  else pure (some [blanks])

/-- Reads a plain scalar: parts separated by blanks and folded lines, ending at `: `, ` #`, a
line less indented than the current block, or in flow context a flow indicator. -/
def plain : Lex Unit := do
  let m ← mark
  let indent := (← get).indent + 1
  let partLength : Lex Nat := do
    let s ← get
    let flow := s.flowLevel != 0
    let stops (c next : Char) : Bool :=
      isBlankOrEnd c ||
        (c == ':' && (isBlankOrEnd next || (flow && ",[]{}".contains next))) ||
        (flow && ",?[]{}".contains c)
    let rec go (n : Nat) : Nat → Nat
      | 0 => n
      | fuel + 1 =>
        if stops (charAt s.text (s.index + n)) (charAt s.text (s.index + n + 1)) then n
        else go (n + 1) fuel
    pure (go 0 (s.text.size + 1))
  let rec parts (acc : String) (spaces : List String) : Nat → Lex String
    | 0 => pure acc
    | fuel + 1 => do
      if (← peek) == '#' then return acc
      let n ← partLength
      if n == 0 then return acc
      modify fun s => { s with allowSimpleKey := false }
      let acc := acc ++ String.join spaces ++ (← ahead n)
      forward n
      match ← plainSpaces with
      | none => pure acc
      | some sp =>
        let s ← get
        if sp.isEmpty || (← peek) == '#' || (s.flowLevel == 0 && (s.column : Int) < indent) then
          pure acc
        else parts acc sp fuel
  let text ← parts "" [] (← budget)
  push (.scalar text true none) m

/-- Reads the next token, closing what the indentation closes first. -/
def fetch : Lex Unit := do
  toNextToken
  dropStaleKeys
  unwindIndent (← get).column
  let c ← peek
  let s ← get
  let blockContext := s.flowLevel == 0
  let next ← peekAt 1
  if c == '\x00' then
    unwindIndent (-1)
    removeKey
    modify fun s => { s with allowSimpleKey := false, keys := [] }
    push .streamEnd (← mark)
    modify fun s => { s with done := true }
  else if c == '%' && s.column == 0 then
    unwindIndent (-1)
    removeKey
    modify fun s => { s with allowSimpleKey := false }
    directive
  else if s.column == 0 && (c == '-' || c == '.') && (← atSeparator) &&
      (← ahead 3) == String.ofList [c, c, c] then
    unwindIndent (-1)
    removeKey
    modify fun s => { s with allowSimpleKey := false }
    let m ← mark
    forward 3
    push (if c == '-' then .documentStart else .documentEnd) m
  else if c == '[' || c == '\x7b' then
    saveKey
    modify fun s => { s with flowLevel := s.flowLevel + 1, allowSimpleKey := true }
    let m ← mark
    forward1
    push (if c == '[' then .flowSequenceStart else .flowMappingStart) m
  else if c == ']' || c == '\x7d' then
    removeKey
    modify fun s => { s with flowLevel := s.flowLevel - 1, allowSimpleKey := false }
    let m ← mark
    forward1
    push (if c == ']' then .flowSequenceEnd else .flowMappingEnd) m
  else if c == ',' then
    modify fun s => { s with allowSimpleKey := true }
    removeKey
    let m ← mark
    forward1
    push .flowEntry m
  else if c == '-' && isBlankOrEnd next then
    if blockContext then
      if !s.allowSimpleKey then problem none none "sequence entries are not allowed here"
      if ← addIndent s.column then push .blockSequenceStart (← mark)
    modify fun s => { s with allowSimpleKey := true }
    removeKey
    let m ← mark
    forward1
    push .blockEntry m
  else if c == '?' && (!blockContext || isBlankOrEnd next) then
    if blockContext then
      if !s.allowSimpleKey then problem none none "mapping keys are not allowed here"
      if ← addIndent s.column then push .blockMappingStart (← mark)
    modify fun s => { s with allowSimpleKey := blockContext }
    removeKey
    let m ← mark
    forward1
    push .key m
  else if c == ':' && (!blockContext || isBlankOrEnd next) then
    match s.keys.lookup s.flowLevel with
    | some k =>
      modify fun s => { s with keys := s.keys.filter fun e => e.1 != s.flowLevel }
      let s ← get
      let tokens := s.tokens.insertIdxIfInBounds k.tokenNumber ⟨.key, k.mark⟩
      set { s with tokens }
      if blockContext then
        if ← addIndent k.mark.column then
          let s ← get
          set { s with tokens := s.tokens.insertIdxIfInBounds k.tokenNumber ⟨.blockMappingStart, k.mark⟩ }
      modify fun s => { s with allowSimpleKey := false }
    | none =>
      if blockContext then
        if !s.allowSimpleKey then problem none none "mapping values are not allowed here"
        if ← addIndent s.column then push .blockMappingStart (← mark)
      modify fun s => { s with allowSimpleKey := blockContext }
      removeKey
    let m ← mark
    forward1
    push .value m
  else if c == '*' || c == '&' then
    saveKey
    modify fun s => { s with allowSimpleKey := false }
    anchorOrAlias (c == '*')
  else if c == '!' then
    saveKey
    modify fun s => { s with allowSimpleKey := false }
    tag
  else if (c == '|' || c == '>') && blockContext then
    modify fun s => { s with allowSimpleKey := true }
    removeKey
    blockScalar (c == '>')
  else if c == '\'' || c == '"' then
    saveKey
    modify fun s => { s with allowSimpleKey := false }
    quoted (c == '"')
  else if !(isBlankOrEnd c || "-?:,[]{}#&*!|>'\"%@`".contains c) ||
      (!isBlankOrEnd next && (c == '-' || (blockContext && (c == '?' || c == ':')))) then
    saveKey
    modify fun s => { s with allowSimpleKey := false }
    plain
  else
    problem (some "while scanning for the next token") none
      ("found character " ++ quoteChar c ++ " that cannot start any token")

end Lex

/-- Whether a character may stand in YAML text: tab, line feed, carriage return, printable
ASCII, next line, and the rest of Unicode but for the controls, surrogates and `U+FFFE`,
`U+FFFF`. -/
def isAcceptable (c : Char) : Bool :=
  let n := c.toNat
  n == 9 || n == 10 || n == 13 || (0x20 ≤ n && n ≤ 0x7e) || n == 0x85 ||
    (0xa0 ≤ n && n ≤ 0xd7ff) || (0xe000 ≤ n && n ≤ 0xfffd) || (0x10000 ≤ n && n ≤ 0x10ffff)

/-- The tokens of a text, ending with the end of the stream, or the tokens before the first
problem and the problem. Tokens from the last place where a key may begin are left out then,
since whether a key token goes before them is not known. -/
def tokens (text : String) : Array Placed × Option Problem :=
  let chars := text.toList.toArray
  match (chars.toList.zipIdx.find? fun (c, _) => !isAcceptable c) with
  | some (c, i) => (#[], some (.unacceptable c.toNat i))
  | none =>
    let rec go (s : Reading) : Nat → Array Placed × Option Problem
      | 0 => (s.tokens, none)
      | fuel + 1 =>
        if s.done then (s.tokens, none)
        else
          match Lex.fetch.run s with
          | .ok (_, s') => go s' fuel
          | .error p =>
            let cut := s.keys.foldl (fun m e => min m e.2.tokenNumber) s.tokens.size
            (s.tokens.extract 0 cut, some p)
    go { text := chars } (chars.size + 2)

end Yaml

end Cyclomatic
