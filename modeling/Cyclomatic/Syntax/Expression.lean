import Cyclomatic.Syntax.Markup

/-!
Expressions, from sequences down to primary expressions. Binary operators are read by
precedence climbing over the levels of `binaryLevel`, every level grouping to the left but `**`.
An arrow function is tried before a parenthesized expression only when the closing parenthesis
is followed by `=>`, or in the typed dialects by `:` (`parenLeadsToArrow`).
-/

namespace Cyclomatic

namespace Syntax

namespace Expression

open Parse

/-- The binding level of a binary operator: higher levels bind more tightly. -/
def binaryLevel (d : Dialect) (op : String) : Option Nat :=
  if op == "??" then some 1
  else if op == "||" then some 2
  else if op == "&&" then some 3
  else if op == "|" then some 4
  else if op == "^" then some 5
  else if op == "&" then some 6
  else if op == "==" || op == "!=" || op == "===" || op == "!==" then some 7
  else if op == "<" || op == ">" || op == "<=" || op == ">=" || op == "instanceof" || op == "in" then
    some 8
  else if d.typed && (op == "as" || op == "satisfies") then some 8
  else if op == "<<" || op == ">>" || op == ">>>" then some 9
  else if op == "+" || op == "-" then some 10
  else if op == "*" || op == "/" || op == "%" then some 11
  else if op == "**" then some 12
  else none

def augmentedOperators : List String :=
  ["+=", "-=", "*=", "/=", "%=", "^=", "&=", "|=", ">>=", ">>>=", "<<=", "**=", "&&=", "||=",
   "??="]

/-- The end of a quoted string from its opening quote: after the closing quote, or at the line
break or the end of the text that leaves it open. -/
def quotedEnd (s : Source) (p : Nat) : Nat :=
  let quote := s.get p
  let rec go (q : Nat) : Nat → Nat
    | 0 => q
    | fuel + 1 =>
      let c := s.get q
      if q ≥ s.size || c == '\n' then q
      else if c == quote then q + 1
      else if c == '\\' then go (q + 2) fuel
      else go (q + 1) fuel
  go (p + 1) (s.size - p + 1)

/-- The end of a template from its opening backquote: after the closing one, or at the end of
the text. Substitutions are passed over by counting their braces. -/
def templateEnd (s : Source) (p : Nat) : Nat :=
  let rec go (q braces : Nat) : Nat → Nat
    | 0 => q
    | fuel + 1 =>
      let c := s.get q
      if q ≥ s.size then q
      else if c == '\\' then go (q + 2) braces fuel
      else if braces == 0 then
        if c == '`' then q + 1
        else if c == '$' && s.get (q + 1) == '{' then go (q + 2) 1 fuel
        else go (q + 1) 0 fuel
      else if c == '{' then go (q + 1) (braces + 1) fuel
      else if c == '}' then go (q + 1) (braces - 1) fuel
      else go (q + 1) braces fuel
  go (p + 1) 0 (s.size - p + 1)

/-- Words after which an expression starts, so that a slash after them opens a regular
expression. -/
def wordsBeforeExpression : List String :=
  ["return", "typeof", "instanceof", "in", "of", "new", "delete", "void", "throw", "case", "do",
   "else", "yield", "await"]

/-- Whether the parenthesis at a position is closed by one that is followed by `=>`, or in
the typed dialects by `:`. Strings, templates, regular expressions and comments are passed
over; a slash opens a regular expression where no value ends just before it. Where the text
ends first, the answer is yes when no bracket opened after this parenthesis is left open, so
that the arrow function is still tried for the innermost parenthesis left open. -/
def parenLeadsToArrow (s : Source) (p : Nat) : Bool :=
  let rec go (q depth : Nat) (afterValue : Bool) : Nat → Bool
    | 0 => true
    | fuel + 1 =>
      let c := s.get q
      if q ≥ s.size then depth ≤ 1
      else if isBlank c then go (q + 1) depth afterValue fuel
      else match s.commentEnd q with
      | some r => go r depth afterValue fuel
      | none =>
        if c == '(' || c == '[' || c == '{' then go (q + 1) (depth + 1) false fuel
        else if c == ')' || c == ']' || c == '}' then
          if depth ≤ 1 then
            let r := (s.blankEnd (q + 1)).1
            (s.get r == '=' && s.get (r + 1) == '>') || (s.dialect.typed && s.get r == ':')
          else go (q + 1) (depth - 1) true fuel
        else if c == '"' || c == '\'' then
          let r := quotedEnd s q
          if r ≥ s.size then depth ≤ 1 else go r depth true fuel
        else if c == '`' then
          let r := templateEnd s q
          if r ≥ s.size then depth ≤ 1 else go r depth true fuel
        else if c == '/' && !afterValue then
          match s.regexBodyEnd (q + 1) with
          | some r => go (s.lowerRunEnd (r + 1)) depth true fuel
          | none => go (q + 1) depth false fuel
        else match s.nameEnd q with
          | some r => go r depth (!wordsBeforeExpression.contains (s.slice q r)) fuel
          | none =>
            match (if c.isDigit then s.numberEnd q else none) with
            | some r => go r depth true fuel
            | none => go (q + 1) depth false fuel
  go p 0 false (s.size - p + 1)

/-- The end of a quoted string token from its opening quote, read as the string is read:
runs of plain characters and escapes up to the closing quote. None where the string cannot be
read so, at a line break or at the end of the text. -/
def quotedTokenEnd (s : Source) (p : Nat) : Option Nat :=
  let quote := s.get p
  let plain (c : Char) : Bool := c != quote && c != '\\' && c != '\n' && c != '\r'
  let rec go (q : Nat) : Nat → Option Nat
    | 0 => none
    | fuel + 1 =>
      let c := s.get q
      if q ≥ s.size then none
      else if c == quote then some (q + 1)
      else if c == '\\' then
        match s.escapeEnd q with
        | some r => go r fuel
        | none => none
      else if plain c then go (s.skipWhile q plain) fuel
      else none
  go (p + 1) (s.size - p + 1)

/-- Whether the text under a repair leaves a bracket, a template or a template substitution
open at its end, or closes one that is not open, so that no reading of it gets to the end. Tokens are found as the reader finds them:
blanks, comments and skipped ranges are passed over, zero-width tokens stand where they are
placed, strings and template text are read as the reader reads them, a substitution `${` is
open until its closing brace, and a slash opens a regular expression where no value ends just
before it. The stack `open_` holds what is open, latest first: `true` for a substitution,
`false` for a bracket. Where this view of the text could go astray the answer is no: with a
zero-width quote, backquote, slash or `<`; at a string not read to its end or a character
that stops template text; at a skipped range inside a string or a zero-width token inside
template text; and in the dialects with markup at a `<` that may open an element, whose text
may hold any bracket. -/
def textLeftOpen (e : Env) : Bool :=
  let s := e.src
  let odd (k : String) : Bool :=
    k == "\"" || k == "'" || k == "`" || k == "/" || k == "<"
  let skipInside (a b : Nat) : Bool := e.repair.skips.any fun (x, _) => a < x && x < b
  let rec go (q : Nat) (open_ : List Bool) (inText afterValue afterClose : Bool)
      (extra : List (Nat × String)) : Nat → Bool
    | 0 => false
    | fuel + 1 =>
      if inText then
        let c := s.get q
        if q ≥ s.size then true
        else if c == '\x00' then false
        else if extra.head?.any (·.1 ≤ q) then false
        else match e.repairedFrom q with
        | some b => if b > q then go b open_ true false false extra fuel else false
        | none =>
        if c == '`' then go (q + 1) open_ false true false extra fuel
        else if c == '\\' then
          match s.escapeEnd q with
          | some r => go r open_ true false false extra fuel
          | none => false
        else if c == '$' && s.get (q + 1) == '{' then
          go (q + 2) (true :: open_) false false false extra fuel
        else go (q + 1) open_ true false false extra fuel
      else
        match extra.head?.filter (·.1 ≤ q) with
        | some (m, k) =>
          let ch := if k.length == 1 then k.front else 'a'
          if m < q then false
          else if ch == ')' || ch == ']' || ch == '}' then
            match open_ with
            | true :: rest => if ch == '}' then go q rest true false false extra.tail fuel else true
            | false :: rest => go q rest false true (ch != ']') extra.tail fuel
            | [] => true
          else if ch == '(' || ch == '[' || ch == '{' then
            go q (false :: open_) false false false extra.tail fuel
          else
            go q open_ false (k.toList.all fun ch => ch.isAlphanum || ch == '_' || ch == '$') false
              extra.tail fuel
        | none =>
          let r := (e.skipTrivia q).1
          let c := s.get r
          if r ≥ s.size then !open_.isEmpty
          else if c == '(' || c == '[' || c == '{' then
            go (r + 1) (false :: open_) false false false extra fuel
          else if c == ')' || c == ']' || c == '}' then
            match open_ with
            | true :: rest => if c == '}' then go (r + 1) rest true false false extra fuel else true
            | false :: rest => go (r + 1) rest false true (c != ']') extra fuel
            | [] => true
          else if c == '"' || c == '\'' then
            match quotedTokenEnd s r with
            | some t => if skipInside r t then false else go t open_ false true false extra fuel
            | none => false
          else if c == '`' then go (r + 1) open_ true false false extra fuel
          else if c == '<' && s.dialect.markup && (!afterValue || afterClose) then false
          else if c == '/' && !afterValue then
            match s.regexBodyEnd (r + 1) with
            | some t => go (s.lowerRunEnd (t + 1)) open_ false true false extra fuel
            | none => go (r + 1) open_ false false false extra fuel
          else match s.nameEnd r with
            | some t =>
              go t open_ false (!wordsBeforeExpression.contains (s.slice r t)) false extra fuel
            | none =>
              match (if c.isDigit then s.numberEnd r else none) with
              | some t => go t open_ false true false extra fuel
              | none => go (r + 1) open_ false false false extra fuel
  let start := if s.get 0 == '#' && s.get 1 == '!' then s.skipWhile 0 fun c => c != '\n' else 0
  !(e.repair.missing.any fun (_, k) => odd k) &&
    go start [] false false false e.repair.missing (s.size + e.repair.missing.length + 2)

def arrowAhead : Parse Bool := do
  let s ← source
  let p ← peekStart
  pure (s.get p == '(' && parenLeadsToArrow s p)

def arrowBody (g : Grammar) : Parse Node := do
  if (← peekChar) == '{' then g .block else g .expression

def signature (g : Grammar) : Parse (List Node) := do
  if (← dialect).typed then Typing.callSignature g
  else
    let ps ← g .parameters
    pure [ps.withField "parameters"]

/-- An arrow function `(a, b) => body`, `a => body`, or with `async` and, in the typed
dialects, type parameters and a return type. A line break may follow `async` before a
parenthesis, but not before a single parameter, where it ends the statement. -/
def arrow (g : Grammar) : Parse Node :=
  node "arrow_function" do
    let isAsync ← succeeds (do
      keyword "async"
      let c ← peekChar
      guard (c == '(' || c == '<' || ((← peekName).isSome && !(← lineBreakBefore))))
    if isAsync then keyword "async"
    let c ← peekChar
    let head ← if c == '(' || c == '<' then signature g
      else do
        let n ← identifier
        pure [n.withField "parameter"]
    punct "=>"
    let b ← arrowBody g
    pure (head ++ [b.withField "body"])

/-- A function expression `function name(params) { body }`, possibly `async` or a
generator. -/
def function (g : Grammar) : Parse Node :=
  nodeWith do
    if (← isWord "async") then keyword "async"
    keyword "function"
    let star ← if (← isPunct "*") then do punct "*"; pure true else pure false
    let n ← if (← peekChar) == '(' || (← peekChar) == '<' then pure none else some <$> identifier
    let sig ← signature g
    let b ← g .block
    let kind := if star then "generator_function" else "function_expression"
    pure (kind, (n.map (·.withField "name")).toList ++ sig ++ [b.withField "body"])

/-- A template string with its text, escapes and substitutions. Text that runs into the end of
the source is no token, so reading stops at its first token; repaired ranges inside the
template are passed over, as in a quoted string. -/
def template (g : Grammar) : Parse Node :=
  node "template_string" do
    lit "`"
    let s ← source
    let e ← env
    let rec parts (acc : List Node) : Nat → Parse (List Node)
      | 0 => pure acc
      | fuel + 1 => do
        let p ← lastEnd
        if (← placeKind "`").isSome then pure acc else
        match e.repairedFrom p with
        | some b => do skipTo b; parts acc fuel
        | none =>
          let resume : Parse (List Node) :=
            match e.resumeAfterRepair p with
            | some r => do skipTo r; parts acc fuel
            | none => fail
          let c := s.get p
          if p ≥ s.size then resume
          else if c == '`' then do advanceRaw (p + 1); pure acc
          else if c == '\\' then
            match s.escapeEnd p with
            | some q => do advanceRaw q; parts (acc ++ [Node.leaf "escape_sequence" p q]) fuel
            | none => resume
          else if c == '$' && s.get (p + 1) == '{' then do
            let t ← node "template_substitution" do
              advanceRaw (p + 2)
              let e ← g .expressions
              punct closeBrace
              pure [e]
            parts (acc ++ [t]) fuel
          else
            match s.templateTextEnd p with
            | some q =>
              if q == p then resume
              else
                let q := match e.nextRepairAfter p with
                  | some a => min a q
                  | none => q
                do advanceRaw q; parts (acc ++ [Node.leaf "string_fragment" p q]) fuel
            | none => resume
    parts [] (s.size + 1)

/-- A regular expression `/pattern/flags`. The pattern is one token, which a line break
ends, and the closing slash must follow it at once. A slash met where reading resumes after
passed-over text was read as a token before the reading resumed, and opens no expression. -/
def regex : Parse Node :=
  node "regex" do
    let s ← source
    let e ← env
    let p ← peekStart
    guard (s.get p == '/' && (← peekPending).isNone &&
      !e.repair.skips.any fun (_, b) => (e.skipTrivia b).1 == p)
    let q := s.regexPatternEnd (p + 1)
    guard (q > p + 1)
    advance p (p + 1)
    advanceRaw q
    let pattern := Node.leaf "regex_pattern" (p + 1) q
    if (← placeKind "/").isSome then pure [pattern] else
    guard (s.get q == '/')
    advanceRaw (q + 1)
    let f := s.lowerRunEnd (q + 1)
    if f > q + 1 then do
      advanceRaw f
      pure [pattern, Node.leaf "regex_flags" (q + 1) f]
    else pure [pattern]

def spread (g : Grammar) : Parse Node :=
  node "spread_element" do
    punct "..."
    let e ← g .expression
    pure [e]

def spreadOrExpression (g : Grammar) : Parse Node := do
  if (← isPunct "...") then spread g else g .expression

/-- Call arguments `(a, ...b)`; items may be left out between commas. -/
def arguments (g : Grammar) : Parse Node :=
  node "arguments" do
    punct "("
    let items ← Pattern.holes (spreadOrExpression g) ")"
    punct ")"
    pure items

def array (g : Grammar) : Parse Node :=
  node "array" do
    punct "["
    let items ← Pattern.holes (spreadOrExpression g) "]"
    punct "]"
    pure items

/-- Whether a word is a modifier of the method that follows: something that can name a
property, or a `*`, comes after it. -/
def modifierAhead (w : String) : Parse Bool :=
  succeeds do
    keyword w
    let c ← peekChar
    guard ((← startsPropertyName) || c == '*')

/-- A method `name(params) { body }` with its modifiers: `static`, `async`, `get`, `set`
and `*`, and in the typed dialects accessibility, `override`, `readonly`, `abstract`, an
optional mark, type parameters and a return type. Without a body it is a signature. -/
def methodParts (g : Grammar) (inClass : Bool) : Parse (String × List Node) := do
  let typed := (← dialect).typed
  let allowed := if inClass then
      (if typed then ["public", "private", "protected", "static", "override", "readonly",
        "abstract", "declare", "async", "get", "set"] else ["static", "async", "get", "set"])
    else ["async", "get", "set"]
  let rec mods (acc : List Node) (abstract : Bool) : Nat → Parse (List Node × Bool)
    | 0 => pure (acc, abstract)
    | fuel + 1 => do
      let w ← peekWord
      if allowed.contains w && (← modifierAhead w) then
        let m ← Typing.modifierNode w
        mods (acc ++ m) (abstract || w == "abstract") fuel
      else pure (acc, abstract)
  let (ms, abstract) ← mods [] false 8
  if (← isPunct "*") then punct "*"
  let n ← propertyName g
  if typed && (← isPunct "?") then punct "?"
  let sig ← signature g
  if (← peekChar) == '{' then
    let b ← g .block
    pure ("method_definition", ms ++ [n.withField "name"] ++ sig ++ [b.withField "body"])
  else if inClass && typed then
    let kind := if abstract then "abstract_method_signature" else "method_signature"
    pure (kind, ms ++ [n.withField "name"] ++ sig)
  else fail

def method (g : Grammar) (inClass : Bool) : Parse Node := nodeWith (methodParts g inClass)

/-- A member of an object literal: a spread, a method, `key: value` or a shorthand name. -/
def objectMember (g : Grammar) : Parse Node := do
  if (← isPunct "...") then spread g
  else
    orElse (method g false) fun _ => do
      if (← succeeds (do let _ ← propertyName g; punct ":")) then
        node "pair" do
          let k ← propertyName g
          punct ":"
          let v ← g .expression
          pure [k.withField "key", v.withField "value"]
      else
        let n ← identifierAs "shorthand_property_identifier"
        let c ← peekChar
        let k ← peekPending
        guard (c == ',' || c == '}' || k == some "," || k == some closeBrace)
        pure n

def object (g : Grammar) : Parse Node :=
  node "object" do
    punct openBrace
    let items ← Pattern.holes (objectMember g) closeBrace
    punct closeBrace
    pure items

/-- What a class extends or implements. In the typed dialects: an `extends` clause of values
with type arguments, then an `implements` clause of types. -/
def heritage (g : Grammar) : Parse Node := do
  if !(← dialect).typed then
    node "class_heritage" do
      keyword "extends"
      let e ← g .leftSide
      pure [e]
  else
    node "class_heritage" do
      let ext ← if (← isWord "extends") then
          (fun n => [n]) <$> node "extends_clause" do
            keyword "extends"
            let one : Parse (List Node) := do
              let v ← g .leftSide
              let a ← if (← peekChar) == '<' then (fun t => [t]) <$> g .typeArguments else pure []
              pure (v :: a)
            sepBy one (punct ",") false
        else pure []
      let imp ← if (← isWord "implements") then
          (fun n => [n]) <$> node "implements_clause" do
            keyword "implements"
            sepBy ((fun t => [t]) <$> g .type) (punct ",") false
        else pure []
      guard (!ext.isEmpty || !imp.isEmpty)
      pure (ext ++ imp)

/-- The parts of a class after its decorators and `class`: name, type parameters, heritage
and body. `named` requires the name. -/
def classRest (g : Grammar) (named : Bool) : Parse (List Node) := do
  let typed := (← dialect).typed
  let nameKind := if typed then "type_identifier" else "identifier"
  let w ← peekWord
  let n ← if w == "" || w == "extends" || (typed && w == "implements") then
      (if named then fail else pure none)
    else some <$> identifierAs nameKind
  let tps ← if typed && (← peekChar) == '<' then (fun t => [t]) <$> g .typeParameters else pure []
  let h ← if (← isWord "extends") || (typed && (← isWord "implements")) then
      (fun t => [t]) <$> heritage g
    else pure []
  let b ← g .classBody
  pure ((n.map (·.withField "name")).toList ++ tps ++ h ++ [b.withField "body"])

def classExpression (g : Grammar) : Parse Node :=
  node "class" do
    let ds ← many (do guard ((← peekChar) == '@'); let d ← g .decorator; pure [d])
    keyword "class"
    let rest ← classRest g false
    pure (ds ++ rest)

/-- A parenthesized expression; in the typed dialects it may carry a type annotation. -/
def parenthesized (g : Grammar) : Parse Node :=
  node "parenthesized_expression" do
    punct "("
    let e ← g .expressions
    let t ← if (← dialect).typed && e.kind != "sequence_expression" && (← isPunct ":") then
        (fun a => [a]) <$> Typing.ascription g
      else pure []
    punct ")"
    pure (e :: t)

def literalWords : List String := ["this", "super", "true", "false", "null"]

/-- A primary expression: a literal, a name, a parenthesized expression, an array, an object,
a function, a class, a template, a markup element or an arrow function. -/
def primary (g : Grammar) : Parse Node := do
  let c ← peekChar
  let w ← peekWord
  let d ← dialect
  if c == '(' then
    if (← arrowAhead) then orElse (arrow g) fun _ => parenthesized g
    else parenthesized g
  else if c == '[' then array g
  else if c == '{' then object g
  else if c == '"' || c == '\'' then string
  else if c.isDigit || (c == '.' && ((← source).get ((← peekStart) + 1)).isDigit) then number
  else if c == '`' then template g
  else if c == '/' then regex
  else if c == '<' then
    if d.typed then
      if d.markup then orElse (arrow g) fun _ => g .markup else arrow g
    else g .markup
  else if c == '#' then privateName
  else if c == '@' then classExpression g
  else if w == "function" then function g
  else if w == "async" then
    if (← succeeds (do keyword "async"; guard !(← lineBreakBefore); keyword "function")) then
      function g
    else if (← succeeds (do
        keyword "async"
        if d.typed && (← peekChar) == '<' then
          let _ ← g .typeParameters
        guard ((← peekChar) == '(' && !(← arrowAhead)))) then
      identifier
    else orElse (arrow g) fun _ => identifier
  else if w == "class" then classExpression g
  else if literalWords.contains w then keywordNode w w
  else if w == "import" then
    if (← succeeds (do keyword "import"; punct ".")) then
      node "meta_property" do keyword "import"; punct "."; keyword "meta"; pure []
    else do
      -- Alone, `import` only names what a call loads.
      guard (← succeeds (do keyword "import"; punct "("))
      keywordNode "import" "import"
  else if w == "new" then
    node "meta_property" do keyword "new"; punct "."; keyword "target"; pure []
  else if (← succeeds (do let _ ← valueName; punct "=>")) then
    node "arrow_function" do
      let p ← valueName
      punct "=>"
      let b ← arrowBody g
      pure [p.withField "parameter", b.withField "body"]
  else valueName

/-- The optional-chaining mark `?.` as a node. A mark taken as present ends the node it
stands for, which holds nothing else. -/
def optionalChain : Parse Node := do
  let p ← peekStart
  match ← placeLeaf "?." with
  | some () => pure (Node.leaf "optional_chain" p p)
  | none => do punct "?."; pure (Node.leaf "optional_chain" p (p + 2))

/-- Member accesses `.name` and `[index]` after an expression, also after `?.`, without
calls. -/
def members (g : Grammar) (d : Nat) (first : Node) : Parse Node := do
  let rec go (acc : Node) : Nat → Parse Node
    | 0 => pure acc
    | fuel + 1 => do
      if (← isPunct ".") then
        punct "."
        let p ← if (← peekChar) == '#' then privateName else anyName "property_identifier"
        let m ← finish "member_expression" d acc.start [acc.withField "object", p.withField "property"]
        go m fuel
      else if (← isPunct "[") then
        punct "["
        let i ← g .expressions
        punct "]"
        let m ← finish "subscript_expression" d acc.start [acc.withField "object", i.withField "index"]
        go m fuel
      else if (← isPunct "?.") && !(← succeeds (do punct "?."; punct "(")) then
        let o ← optionalChain
        if (← isPunct "[") then
          punct "["
          let i ← g .expressions
          punct "]"
          let m ← finish "subscript_expression" d acc.start
            [acc.withField "object", o, i.withField "index"]
          go m fuel
        else
          let p ← if (← peekChar) == '#' then privateName else anyName "property_identifier"
          let m ← finish "member_expression" d acc.start
            [acc.withField "object", o, p.withField "property"]
          go m fuel
      else pure acc
  go first ((← source).size + 1)

/-- Whether type arguments just read end an expression of their own (an instantiation): what
follows cannot continue an expression, or a statement may end before it. -/
def instantiationEnds : Parse Bool := do
  let c ← peekChar
  let p ← peekPunct
  pure (c == '\x00' || p == some ";" || p == some ")" || p == some "]" || p == some closeBrace ||
    p == some "," || p == some ":" || p == some "." || p == some "?." ||
    ((← lineBreakBefore) && (← mayEndHere false)))

/-- A `new` expression: the constructor, type arguments in the typed dialects, and the
arguments if any. -/
def newExpression (g : Grammar) : Parse Node := do
  let s ← source
  let rec go : Nat → Parse Node
    | 0 => fail
    | fuel + 1 =>
      node "new_expression" do
        keyword "new"
        let d ← depthNow
        let nested ← if (← isWord "new") then
            succeeds (do keyword "new"; guard !(← isPunct "."))
          else pure false
        let ctor ← if nested then go fuel else do
          let p ← primary g
          members g d p
        -- A `<` after the constructor always opens its type arguments.
        let targs ← if s.dialect.typed && (← peekChar) == '<' then some <$> g .typeArguments
          else pure none
        let args ← if (← peekChar) == '(' then (fun a => [a]) <$> arguments g else pure []
        pure ([ctor.withField "constructor"] ++ targs.toList ++ args)
  go (s.size + 1)

/-- Member accesses, calls, tagged templates and, in the typed dialects, non-null assertions
and type arguments after an expression read from `d`. -/
def suffixes (g : Grammar) (d : Nat) (first : Node) : Parse Node := do
  let s ← source
  let typed := s.dialect.typed
  let rec go (acc : Node) : Nat → Parse Node
    | 0 => pure acc
    | fuel + 1 => do
      let p ← peekPunct
      let c ← peekChar
      if p == some "." then
        punct "."
        let q ← if (← peekChar) == '#' then privateName else anyName "property_identifier"
        let m ← finish "member_expression" d acc.start [acc.withField "object", q.withField "property"]
        go m fuel
      else if p == some "?." then
        let o ← optionalChain
        let c' ← peekChar
        if c' == '(' || (typed && c' == '<') then
          let t ← if c' == '<' then (fun t => [t.withField "type_arguments"]) <$> g .typeArguments
            else pure []
          let a ← arguments g
          let chain := if typed then [] else [o]
          let m ← finish "call_expression" d acc.start
            ([acc.withField "function"] ++ chain ++ t ++ [a.withField "arguments"])
          go m fuel
        else if c' == '[' then
          punct "["
          let i ← g .expressions
          punct "]"
          let m ← finish "subscript_expression" d acc.start [acc.withField "object", o, i.withField "index"]
          go m fuel
        else
          let q ← if c' == '#' then privateName else anyName "property_identifier"
          let m ← finish "member_expression" d acc.start [acc.withField "object", o, q.withField "property"]
          go m fuel
      else if p == some "[" then
        punct "["
        let i ← g .expressions
        punct "]"
        let m ← finish "subscript_expression" d acc.start [acc.withField "object", i.withField "index"]
        go m fuel
      else if p == some "(" then
        let a ← arguments g
        let m ← finish "call_expression" d acc.start [acc.withField "function", a.withField "arguments"]
        go m fuel
      else if c == '`' then
        let t ← template g
        let m ← finish "call_expression" d acc.start [acc.withField "function", t.withField "arguments"]
        go m fuel
      else if typed && p == some "!" then
        punct "!"
        let m ← finish "non_null_expression" d acc.start [acc]
        go m fuel
      else if typed && c == '<' then
        let call ← optional (do
          let t ← g .typeArguments
          let c' ← peekChar
          if c' == '(' || c' == '`' then
            let a ← if c' == '(' then arguments g else template g
            finish "call_expression" d acc.start
              [acc.withField "function", t.withField "type_arguments", a.withField "arguments"]
          else if (← instantiationEnds) then
            finish "instantiation_expression" d acc.start
              [acc.withField "function", t.withField "type_arguments"]
          else fail)
        match call with
        | some m => go m fuel
        | none => pure acc
      else pure acc
  go first (s.size + 1)

/-- A member, subscript, call or primary expression, with the typed dialects' non-null
assertions `x!`, type arguments `f<T>(x)` and instantiations `f<T>`; there `new` with nothing
to construct is a name. -/
def leftSide (g : Grammar) : Parse Node := do
  let d ← depthNow
  let typed := (← dialect).typed
  let first ← if (← isWord "new") && !(← succeeds (do keyword "new"; punct ".")) then
      if typed then orElse (newExpression g) fun _ => identifier else newExpression g
    else primary g
  if first.kind == "arrow_function" then pure first
  else suffixes g d first

def assignableLeft (d : Dialect) (kind : String) : Bool :=
  Pattern.assignable d kind || kind == "parenthesized_expression"

def augmentableLeft (d : Dialect) (kind : String) : Bool :=
  kind == "identifier" || kind == "member_expression" || kind == "subscript_expression" ||
    kind == "parenthesized_expression" || (d.typed && kind == "non_null_expression")

/-- An expression read from `d` as `e`, continued as an assignment when `=` or an operator
that assigns after combining follows and `e` may stand left of it. -/
def assignmentAfter (g : Grammar) (d : Nat) (e : Node) : Parse Node := do
  let dl ← dialect
  match ← peekPunct with
  | some op =>
    if op == "=" && assignableLeft dl e.kind then
      punct "="
      let v ← g .expression
      finish "assignment_expression" d e.start [e.withField "left", v.withField "right"]
    else if augmentedOperators.contains op && augmentableLeft dl e.kind then
      punct op
      let v ← g .expression
      finish "augmented_assignment_expression" d e.start [e.withField "left", v.withField "right"]
    else pure e
  | none => pure e

/-- A unary expression: a prefix operator and its operand, `await`, a prefix or postfix
update, a type assertion `<T>x` in the typed dialect without markup, or a member, call or
primary expression. Every operand is a whole expression, so a name or member that `=` follows
is assigned to there: `a + b = c` adds `a` to the assignment `b = c`. -/
def unary (g : Grammar) : Parse Node := do
  let p ← peekPunct
  let w ← peekWord
  let s ← source
  if p == some "!" || p == some "~" || p == some "-" || p == some "+" ||
      w == "typeof" || w == "void" || w == "delete" then
    node "unary_expression" do
      let op := if w == "" then p.getD "" else w
      if w == "" then punct op else keyword op
      let a ← g .unary
      pure [a.withField "argument"]
  else if w == "await" then
    node "await_expression" do
      keyword "await"
      let a ← g .unary
      pure [a]
  else if p == some "++" || p == some "--" then
    node "update_expression" do
      punct (p.getD "")
      let a ← g .unary
      pure [a.withField "argument"]
  else if s.dialect == .typescript && p == some "<" then
    orElse (g .leftSide) fun _ =>
      node "type_assertion" do
        let t ← g .typeArguments
        -- Type arguments that are all names read as type parameters too, and that reading,
        -- which a name cannot follow, is the one taken up when both stop here.
        if t.children.all (·.kind == "type_identifier") && (← peekPending).isSome then fail
        let a ← g .unary
        pure [t, a]
  else
    let d ← depthNow
    let e ← g .leftSide
    let q ← peekPunct
    if (q == some "++" || q == some "--") && !(← lineBreakBefore) then
      punct (q.getD "")
      finish "update_expression" d e.start [e.withField "argument"]
    else assignmentAfter g d e

def peekBinary : Parse (Option (String × Nat)) := do
  let d ← dialect
  let w ← peekWord
  if w != "" then
    pure ((binaryLevel d w).map fun l => (w, l))
  else
    match ← peekPunct with
    | some op => pure ((binaryLevel d op).map fun l => (op, l))
    | none => pure none

/-- Binary expressions whose operators are at least at a level. -/
def binary (g : Grammar) (level : Nat) : Parse Node := do
  let d ← depthNow
  let first ← g .unary
  let rec go (acc : Node) : Nat → Parse Node
    | 0 => pure acc
    | fuel + 1 => do
      match ← peekBinary with
      | some (op, l) =>
        if l < level then pure acc
        else if op == "as" || op == "satisfies" then
          keyword op
          let t ← if op == "as" && (← isWord "const") then do
              keyword "const"
              pure none
            else some <$> g .type
          let m ← finish (if op == "as" then "as_expression" else "satisfies_expression") d
            acc.start (acc :: t.toList)
          -- What the type cannot take goes on with the expression: `x as T\n(a)` is a call.
          go (← suffixes g d m) fuel
        else
          if op == "in" || op == "instanceof" then keyword op else punct op
          let r ← g (.binary (if op == "**" then l else l + 1))
          let m ← finish "binary_expression" d acc.start
            [acc.withField "left", r.withField "right"] op
          go m fuel
      | none => pure acc
  go first ((← source).size + 1)

/-- A `yield` expression, with an optional operand or `*` and a delegate. -/
def yieldExpression (g : Grammar) : Parse Node :=
  node "yield_expression" do
    keyword "yield"
    if (← isPunct "*") then
      punct "*"
      let e ← g .expression
      pure [e]
    else
      let ends ← do
        let c ← peekChar
        let p ← peekPunct
        pure (c == '\x00' || p == some ")" || p == some "]" || p == some closeBrace || p == some "," ||
          p == some ";" || p == some ":" || ((← lineBreakBefore) && (← mayEndHere false)))
      if ends then pure []
      else (fun e => [e]) <$> g .expression

/-- An expression without a top-level comma: an assignment, a conditional expression, a
`yield`, or a destructuring assignment. -/
def expression (g : Grammar) : Parse Node := do
  let c ← peekChar
  let w ← peekWord
  if w == "yield" then yieldExpression g
  else
    let destructure : Parse Node :=
      node "assignment_expression" do
        let p ← g .pattern
        punct "="
        let v ← g .expression
        pure [p.withField "left", v.withField "right"]
    let plain : Parse Node := do
      let d ← depthNow
      let cond ← binary g 1
      let s ← source
      let qp ← peekStart
      let e ← if (← peekPending).isNone && s.conditionalMark qp then do
          lit "?"
          let yes ← g .expression
          punct ":"
          let no ← g .expression
          finish "ternary_expression" d cond.start
            [cond.withField "condition", yes.withField "consequence", no.withField "alternative"]
        else pure cond
      assignmentAfter g d e
    if c == '{' || c == '[' then orElse destructure fun _ => plain
    else plain

def expressions (g : Grammar) : Parse Node := do
  let d ← depthNow
  let first ← g .expression
  if (← isPunct ",") then
    let rec more (acc : List Node) : Nat → Parse (List Node)
      | 0 => pure acc
      | fuel + 1 => do
        if (← isPunct ",") then
          punct ","
          let e ← g .expression
          more (acc ++ [e]) fuel
        else pure acc
    let rest ← more [] ((← source).size + 1)
    finish "sequence_expression" d first.start (first :: rest)
  else pure first

/-- A decorator `@name`, `@a.b`, `@a.b(args)` or `@(expression)`. -/
def decorator (g : Grammar) : Parse Node :=
  node "decorator" do
    punct "@"
    if (← peekChar) == '(' then
      let e ← parenthesized g
      pure [e]
    else
      let d ← depthNow
      let n ← identifier
      let rec dots (acc : Node) : Nat → Parse Node
        | 0 => pure acc
        | fuel + 1 => do
          if (← isPunct ".") then
            punct "."
            let p ← anyName "property_identifier"
            let m ← finish "member_expression" d acc.start [acc.withField "object", p.withField "property"]
            dots m fuel
          else pure acc
      let m ← dots n ((← source).size + 1)
      let targs ← if (← dialect).typed && (← peekChar) == '<' then
          optional (do let t ← g .typeArguments; guard ((← peekChar) == '('); pure t)
        else pure none
      if (← peekChar) == '(' then
        let a ← arguments g
        let call ← finish "call_expression" d m.start
          ([m.withField "function"] ++ targs.toList ++ [a.withField "arguments"])
        pure [call]
      else pure [m]

end Expression

end Syntax

end Cyclomatic
