import Cyclomatic.Syntax.Class

/-!
Statements and declarations, and the program.

A statement is chosen by its first word. A name followed by `:` labels a statement, and
anything else is an expression statement. A function or class without a name, which cannot be
declared, stands as an expression statement. In the typed dialects the words `type`,
`interface`, `enum`, `namespace`, `module`, `declare` and `abstract` start a declaration
only when what follows fits one; otherwise they are names.
-/

namespace Cyclomatic

namespace Syntax

namespace Statement

open Parse

def block (g : Grammar) : Parse Node :=
  node "statement_block" do
    punct openBrace
    let ss ← many do
      guard !(← isPunct closeBrace)
      let s ← g .statement
      pure [s]
    punct closeBrace
    pure ss

/-- A declarator `name = value`, with a type annotation in the typed dialects, where a name
marked definite with `!` takes a type and no value. Gives the node and whether it ends in a
value. A name taken as present ends nothing when a value, a type or the mark follows it. -/
def declarator (g : Grammar) : Parse (Node × Bool) := do
  let typed := (← dialect).typed
  let n ← node "variable_declarator" do
    let n ← Pattern.binding g
    if (← isPunct "=") || (typed && ((← isPunct ":") || (← isPunct "!"))) then keepPlacedOpen
    if typed && n.kind == "identifier" && (← isPunct "!") then
      punct "!"
      let t ← Typing.ascription g
      pure [n.withField "name", t]
    else
      let t ← if typed && (← isPunct ":") then (fun a => [a]) <$> Typing.ascription g else pure []
      let v ← if (← isPunct "=") then
          do punct "="; (fun e => [e.withField "value"]) <$> g .expression
        else pure []
      pure ([n.withField "name"] ++ t ++ v)
  pure (n, n.children.any (·.field == "value"))

def declarators (g : Grammar) : Parse (List Node × Bool) := do
  let (first, v) ← declarator g
  let rec more (acc : List Node) (last : Bool) : Nat → Parse (List Node × Bool)
    | 0 => pure (acc, last)
    | fuel + 1 => do
      if (← isPunct ",") then
        punct ","
        let (n, v') ← declarator g
        more (acc ++ [n]) v' fuel
      else pure (acc, last)
  more [first] v ((← source).size + 1)

def variableDeclaration (g : Grammar) (word : String) : Parse Node :=
  node (if word == "var" then "variable_declaration" else "lexical_declaration") do
    keyword word
    let (ds, _) ← declarators g
    semicolon false
    pure ds

/-- A declaration of resources released at the end of the block: `using` or `await using`,
then declarators as a `const` declaration has them. -/
def usingDeclaration (g : Grammar) : Parse Node :=
  node "using_declaration" do
    if (← isWord "await") then keyword "await"
    keyword "using"
    let (ds, _) ← declarators g
    semicolon false
    pure ds

/-- Whether the cursor is at `await using`, which always starts a declaration. -/
def awaitUsingAhead : Parse Bool :=
  succeeds do keyword "await"; keyword "using"

/-- Whether `let` at the cursor starts a declaration: a name other than `in` and
`instanceof`, or a pattern, follows. -/
def letDeclares : Parse Bool :=
  succeeds do
    keyword "let"
    let c ← peekChar
    let w ← peekWord
    guard (c == '[' || c == '{' || ((← peekName).isSome && w != "in" && w != "instanceof"))

/-- A function declaration, possibly `async` or a generator; in the typed dialects, without
a body it is a signature. -/
def function (g : Grammar) : Parse Node :=
  nodeWith do
    if (← isWord "async") then keyword "async"
    keyword "function"
    let star ← if (← isPunct "*") then do punct "*"; pure true else pure false
    let n ← identifier
    let sig ← Expression.signature g
    if (← dialect).typed && (← peekChar) != '{' then
      semicolon true
      pure ("function_signature", [n.withField "name"] ++ sig)
    else
      let b ← g .block
      let kind := if star then "generator_function_declaration" else "function_declaration"
      pure (kind, [n.withField "name"] ++ sig ++ [b.withField "body"])

def classDeclaration (g : Grammar) : Parse Node :=
  nodeWith do
    let ds ← Class.decorators g
    let abstract ← if (← isWord "abstract") then do keyword "abstract"; pure true else pure false
    keyword "class"
    let rest ← Expression.classRest g true
    pure (if abstract then "abstract_class_declaration" else "class_declaration", ds ++ rest)

def condition (g : Grammar) : Parse Node := Expression.parenthesized g

def ifStatement (g : Grammar) : Parse Node :=
  node "if_statement" do
    keyword "if"
    let c ← condition g
    let yes ← g .statement
    let no ← if (← isWord "else") then
        (fun n => [n]) <$> node "else_clause" do
          keyword "else"
          let s ← g .statement
          pure [s]
      else pure []
    pure ([c.withField "condition", yes.withField "consequence"] ++ no)

/-- The header of a loop over the members or the elements of a value:
`(left in right)` or `(left of right)`. -/
def loopHeader (g : Grammar) : Parse (List Node) := do
  punct "("
  let w ← peekWord
  let left ← if w == "var" then do
      keyword "var"
      let b ← Pattern.binding g
      let v ← if (← isPunct "=") then do punct "="; (fun e => [e]) <$> g .expression
        else pure []
      pure (b :: v)
    else if (w == "let" && (← letDeclares)) || w == "const" || w == "using" then do
      keyword w
      let b ← Pattern.binding g
      pure [b]
    else if w == "await" && (← awaitUsingAhead) then do
      keyword "await"
      keyword "using"
      let b ← Pattern.binding g
      pure [b]
    else do
      let c ← peekChar
      let e ← if c == '{' || c == '[' then g .pattern else g .leftSide
      guard (Expression.assignableLeft (← dialect) e.kind)
      pure [e]
  let op ← peekWord
  guard (op == "in" || op == "of")
  keyword op
  let right ← g .expressions
  punct ")"
  pure (left ++ [right])

/-- A `for` statement: a loop over members or elements, or a loop with an initializer, a
condition and an increment. -/
def forStatement (g : Grammar) : Parse Node := do
  let overValue : Parse Node :=
    node "for_in_statement" do
      keyword "for"
      if (← isWord "await") then keyword "await"
      -- The header is a part of its own: the closing parenthesis ends it.
      let h ← group (loopHeader g)
      let b ← g .statement
      pure (h ++ [b.withField "body"])
  let counted : Parse Node :=
    node "for_statement" do
      keyword "for"
      punct "("
      let w ← peekWord
      let init ← if (← isPunct ";") then
          node "empty_statement" (do punct ";"; pure [])
        else if w == "var" || w == "const" || (w == "let" && (← letDeclares)) then variableDeclaration g w
        else do
          let e ← g .expressions
          punct ";"
          pure e
      let cond ← if (← isPunct ";") then
          node "empty_statement" (do punct ";"; pure [])
        else do
          let e ← g .expressions
          punct ";"
          pure e
      let inc ← if (← isPunct ")") then pure [] else (fun e => [e]) <$> g .expressions
      punct ")"
      let b ← g .statement
      pure ([init, cond] ++ inc ++ [b.withField "body"])
  orElse overValue fun _ => counted

def caseBody (g : Grammar) : Parse (List Node) :=
  many do
    let w ← peekWord
    guard (w != "case" && w != "default" && !(← isPunct closeBrace))
    let s ← g .statement
    pure [s]

def switchStatement (g : Grammar) : Parse Node :=
  node "switch_statement" do
    keyword "switch"
    let v ← condition g
    let b ← node "switch_body" do
      punct openBrace
      let cs ← many do
        let w ← peekWord
        if w == "case" then
          (fun n => [n]) <$> node "switch_case" do
            keyword "case"
            let e ← g .expressions
            punct ":"
            let ss ← caseBody g
            pure (e :: ss)
        else if w == "default" then
          (fun n => [n]) <$> node "switch_default" do
            keyword "default"
            punct ":"
            caseBody g
        else fail
      punct closeBrace
      pure cs
    pure [v, b]

/-- A `try` statement with its `catch` and `finally` clauses, both of which may be left
out. -/
def tryStatement (g : Grammar) : Parse Node :=
  node "try_statement" do
    keyword "try"
    let b ← block g
    let handler ← if (← isWord "catch") then
        (fun n => [n]) <$> node "catch_clause" do
          keyword "catch"
          let p ← if (← isPunct "(") then do
              punct "("
              let p ← Pattern.binding g
              let t ← if (← dialect).typed && (← isPunct ":") then
                  (fun a => [a]) <$> Typing.ascription g
                else pure []
              punct ")"
              pure (p :: t)
            else pure []
          let b ← block g
          pure (p ++ [b])
      else pure []
    let final ← if (← isWord "finally") then
        (fun n => [n]) <$> node "finally_clause" do
          keyword "finally"
          let b ← block g
          pure [b]
      else pure []
    pure ([b] ++ handler ++ final)

def jump (word kind : String) : Parse Node :=
  node kind do
    keyword word
    let labelled ← do
      match ← peekName with
      | some _ => pure !((← lineBreakBefore) && (← mayEndHere true))
      | none => pure false
    if labelled then
      let l ← identifierAs "statement_identifier"
      semicolon true
      pure [l]
    else do semicolon true; pure []

def returnStatement (g : Grammar) : Parse Node :=
  node "return_statement" do
    keyword "return"
    if (← isPunct ";") || (← mayEndHere true) then do semicolon true; pure []
    else
      let e ← g .expressions
      semicolon false
      pure [e]

def moduleName : Parse Node := string

/-- The names of an import or export list `{ a, b as c }`. -/
def specifiers (kind : String) (typed : Bool) : Parse (List Node) := do
  punct openBrace
  let item : Parse Node :=
    node kind do
      if typed && (← isWord "type") && (← succeeds (do keyword "type"; let _ ← peekName; guard ((← peekName).isSome && !(← isWord "as") && !(← isPunct ",") && !(← isPunct closeBrace)))) then
        keyword "type"
      let n ← if (← peekChar) == '"' || (← peekChar) == '\'' then string else anyName "identifier"
      if (← isWord "as") then
        keyword "as"
        let a ← if (← peekChar) == '"' || (← peekChar) == '\'' then string else anyName "identifier"
        pure [n.withField "name", a.withField "alias"]
      else pure [n.withField "name"]
  let items ← orElse (sepBy ((fun n => [n]) <$> item) (punct ",") true) fun _ => pure []
  punct closeBrace
  pure items

/-- An attribute clause `with { type: "json" }`. -/
def importAttribute (g : Grammar) : Parse (List Node) := do
  let w ← peekWord
  if w == "with" || ((← dialect).typed && w == "assert") then
    (fun n => [n]) <$> node "import_attribute" do
      keyword w
      let o ← Expression.object g
      pure [o]
  else pure []

def importStatement (g : Grammar) : Parse Node :=
  node "import_statement" do
    keyword "import"
    let typed := (← dialect).typed
    if typed && ((← isWord "type") || (← isWord "typeof")) then
      let w ← peekWord
      if (← succeeds (do keyword w; let c ← peekChar; guard (c == '{' || c == '*' || ((← peekName).isSome && !(← isWord "from"))))) then
        keyword w
    let c ← peekChar
    if c == '"' || c == '\'' then
      let s ← moduleName
      let a ← importAttribute g
      semicolon true
      pure ([s.withField "source"] ++ a)
    else
      let requireForm ← succeeds (do let _ ← identifier; punct "="; keyword "require")
      if typed && requireForm then
        let r ← node "import_require_clause" do
          let n ← identifier
          punct "="
          keyword "require"
          punct "("
          let s ← string
          punct ")"
          pure [n, s.withField "source"]
        semicolon true
        pure [r]
      else
        let clause ← node "import_clause" do
          let namespaceImport : Parse Node :=
            node "namespace_import" do
              punct "*"
              keyword "as"
              let n ← identifier
              pure [n]
          let named : Parse Node :=
            node "named_imports" (specifiers "import_specifier" typed)
          let c ← peekChar
          if c == '*' then (fun n => [n]) <$> namespaceImport
          else if c == '{' then (fun n => [n]) <$> named
          else
            let d ← identifier
            if (← isPunct ",") then
              punct ","
              let more ← if (← peekChar) == '*' then namespaceImport else named
              pure [d, more]
            else pure [d]
        let s ← sealed do keyword "from"; moduleName
        let a ← importAttribute g
        semicolon true
        pure ([clause, s.withField "source"] ++ a)

/-- A `type` alias declaration `type Name<T> = Type;`. -/
def typeAlias (g : Grammar) : Parse Node :=
  node "type_alias_declaration" do
    keyword "type"
    let n ← Typing.typeName
    let tps ← if (← peekChar) == '<' then (fun t => [t]) <$> g .typeParameters else pure []
    punct "="
    let t ← g .type
    semicolon true
    pure ([n.withField "name"] ++ tps ++ [t.withField "value"])

def interface (g : Grammar) : Parse Node :=
  node "interface_declaration" do
    keyword "interface"
    let n ← Typing.typeName
    let tps ← if (← peekChar) == '<' then (fun t => [t]) <$> g .typeParameters else pure []
    let ext ← if (← isWord "extends") then
        (fun n => [n]) <$> node "extends_type_clause" do
          keyword "extends"
          sepBy ((fun t => [t]) <$> g .postfixType) (punct ",") false
      else pure []
    let b ← g (.objectType true)
    pure ([n.withField "name"] ++ tps ++ ext ++ [b.withField "body"])

/-- An enum declaration `enum Name { A, B = 1 }`, possibly `const`. -/
def enumDeclaration (g : Grammar) : Parse Node :=
  node "enum_declaration" do
    if (← isWord "const") then keyword "const"
    keyword "enum"
    let n ← identifier
    let b ← node "enum_body" do
      punct openBrace
      let item : Parse Node := do
        let d ← depthNow
        let k ← propertyName g
        if (← isPunct "=") then
          punct "="
          let v ← g .expression
          finish "enum_assignment" d k.start [k.withField "name", v.withField "value"]
        else pure k
      let items ← orElse (sepBy ((fun n => [n]) <$> item) (punct ",") true) fun _ => pure []
      punct closeBrace
      pure items
    pure [n.withField "name", b.withField "body"]

def moduleTitle : Parse Node := do
  let c ← peekChar
  if c == '"' || c == '\'' then string
  else
    let d ← depthNow
    let first ← identifier
    let rec dots (acc : Node) (n : Nat) : Nat → Parse Node
      | 0 => pure acc
      | fuel + 1 => do
        if (← isPunct ".") then
          punct "."
          let p ← anyName "property_identifier"
          let kind := "nested_identifier"
          let acc' := if n == 0 then acc else { acc with kind := "member_expression" }
          let m ← finish kind d first.start [acc'.withField "object", p.withField "property"]
          dots m (n + 1) fuel
        else pure acc
    dots first 0 ((← source).size + 1)

/-- A namespace `namespace A.B { }` or a module `module "m" { }`, with an optional body. -/
def namespaceDeclaration (g : Grammar) (word : String) : Parse Node :=
  node (if word == "namespace" then "internal_module" else "module") do
    keyword word
    let n ← moduleTitle
    let b ← if (← peekChar) == '{' then (fun b => [b.withField "body"]) <$> block g else pure []
    pure (n.withField "name" :: b)

/-- Whether a word at the cursor starts a declaration of the typed dialects. -/
def typedDeclarationAhead (w : String) : Parse Bool := do
  if w == "type" then
    succeeds (do keyword "type"; guard !(← lineBreakBefore); let _ ← Typing.typeName; guard ((← isPunct "=") || (← peekChar) == '<'))
  else if w == "interface" then
    succeeds (do keyword "interface"; let _ ← Typing.typeName)
  else if w == "enum" then
    succeeds (do keyword "enum"; let _ ← identifier)
  else if w == "namespace" || w == "module" then
    succeeds (do keyword w; guard !(← lineBreakBefore); let _ ← moduleTitle; guard ((← peekChar) == '{' || w == "module"))
  else if w == "abstract" then
    succeeds (do keyword "abstract"; keyword "class")
  else if w == "declare" then
    succeeds (do keyword "declare"; let v ← peekWord; guard (v != "" && v != "in" && v != "instanceof"))
  else pure false

/-- A declaration: a function, class, variable or `using` declaration, and in the typed dialects the
declarations of types, interfaces, enums, namespaces and modules and ambient declarations. -/
def declaration (g : Grammar) : Parse Node := do
  let w ← peekWord
  let typed := (← dialect).typed
  if w == "function" then function g
  else if w == "async" then function g
  else if w == "class" || (← peekChar) == '@' then classDeclaration g
  else if w == "var" || w == "const" && !(typed && (← succeeds (do keyword "const"; keyword "enum"))) then
    variableDeclaration g w
  else if w == "let" then variableDeclaration g w
  else if w == "using" || w == "await" then usingDeclaration g
  else if typed then
    if w == "const" || w == "enum" then enumDeclaration g
    else if w == "type" then typeAlias g
    else if w == "interface" then interface g
    else if w == "abstract" then classDeclaration g
    else if w == "namespace" || w == "module" then namespaceDeclaration g w
    else if w == "declare" then
      node "ambient_declaration" do
        keyword "declare"
        if (← isWord "global") then
          keyword "global"
          let b ← block g
          pure [b]
        else
          let d ← g .statement
          pure [d]
    else fail
  else fail

def exportStatement (g : Grammar) : Parse Node :=
  node "export_statement" do
    let ds ← Class.decorators g
    keyword "export"
    let typed := (← dialect).typed
    let c ← peekChar
    if c == '*' then
      let ns ← if (← succeeds (do punct "*"; keyword "as")) then
          (fun n => [n]) <$> node "namespace_export" do
            punct "*"
            keyword "as"
            let n ← if (← peekChar) == '"' || (← peekChar) == '\'' then string else anyName "identifier"
            pure [n]
        else do punct "*"; pure []
      let s ← sealed do keyword "from"; moduleName
      semicolon true
      pure (ds ++ ns ++ [s.withField "source"])
    else if c == '{' || (typed && (← isWord "type") && (← succeeds (do keyword "type"; punct openBrace))) then
      if (← isWord "type") then keyword "type"
      let clause ← node "export_clause" (specifiers "export_specifier" typed)
      if (← isWord "from") then
        let s ← sealed do keyword "from"; moduleName
        semicolon true
        pure (ds ++ [clause, s.withField "source"])
      else
        semicolon true
        pure (ds ++ [clause])
    else if (← isWord "default") then
      keyword "default"
      let decl ← optional (do
        let w ← peekWord
        guard (w == "function" || w == "async" || w == "class" || (← peekChar) == '@' ||
          (typed && (w == "interface" || w == "abstract")))
        declaration g)
      match decl with
      | some d => pure (ds ++ [d.withField "declaration"])
      | none =>
        let e ← g .expression
        semicolon false
        pure (ds ++ [e.withField "value"])
    else if typed && (← isPunct "=") then
      punct "="
      let e ← g .expression
      semicolon false
      pure (ds ++ [e])
    else if typed && (← isWord "as") then
      keyword "as"
      keyword "namespace"
      let n ← identifier
      semicolon true
      pure (ds ++ [n])
    else if typed && (← isWord "import") then
      let i ← node "import_alias" do
        keyword "import"
        let n ← identifier
        punct "="
        let v ← moduleTitle
        semicolon true
        pure [n, v]
      pure (ds ++ [i])
    else
      let d ← declaration g
      pure (ds ++ [d.withField "declaration"])

/-- Where the body of a function or class whose first word starts at a position opens: the
first opening brace outside brackets, strings, templates and comments, or the end of the text
when there is none. -/
def bodyStart (s : Source) (p : Nat) : Nat :=
  let rec go (q depth : Nat) : Nat → Nat
    | 0 => s.size
    | fuel + 1 =>
      if q ≥ s.size then s.size
      else
        match s.commentEnd q with
        | some r => go r depth fuel
        | none =>
          let c := s.get q
          if c == '{' && depth == 0 then q
          else if c == '(' || c == '[' || c == '{' then go (q + 1) (depth + 1) fuel
          else if c == ')' || c == ']' || c == '}' then go (q + 1) (depth - 1) fuel
          else if c == '"' || c == '\'' then go (max (Expression.quotedEnd s q) (q + 1)) depth fuel
          else if c == '`' then go (max (Expression.templateEnd s q) (q + 1)) depth fuel
          else go (q + 1) depth fuel
  go p 0 (s.size - p + 1)

/-- A declaration, or else `fallback` from the same place, which is tried only when the
declaration stopped no further than `body`, where its body opens: from there on a declaration
and the same words read as an expression read alike, so the expression would stop at the same
token and the declaration's stop would be kept. A stop that settles the reading is passed on. -/
def declarationBefore (g : Grammar) (body : Nat) (fallback : Parse Node) : Parse Node :=
  fun e c =>
    match declaration g e c with
    | .ok a c' => .ok a c'
    | .stop s =>
      if s.token > body || e.settles s then .stop s else fallback e { c with best := some s }

/-- Whether the `export` at the cursor names a value: the punctuation after it goes on with an
expression and starts no export, unlike `*`, a brace, a decorator, and `=` in the typed
dialects. -/
def exportNamesValue : Parse Bool := do
  let typed := (← dialect).typed
  succeeds do
    keyword "export"
    let p ← peekPunct
    guard (p.isSome && p != some "*" && p != some openBrace && p != some "@" &&
      !(typed && p == some "="))

/-- Whether a word may label a statement: a name that is not read as a keyword where a
statement starts. -/
def isLabelWord (w : String) : Bool :=
  w != "" && isVariableWord w && !(["yield", "await", "undefined"].contains w)

def statement (g : Grammar) : Parse Node := do
  let c ← peekChar
  let w ← peekWord
  let typed := (← dialect).typed
  let expressionStatement : Parse Node :=
    node "expression_statement" do
      let e ← g .expressions
      semicolon false
      pure [e]
  if c == '{' then block g
  else if (← isPunct ";") then node "empty_statement" (do punct ";"; pure [])
  else if c == '@' then
    orElse (classDeclaration g) fun _ => exportStatement g
  else if w == "if" then ifStatement g
  else if w == "for" then forStatement g
  else if w == "while" then
    node "while_statement" do
      keyword "while"
      let c ← condition g
      let b ← g .statement
      pure [c.withField "condition", b.withField "body"]
  else if w == "do" then
    node "do_statement" do
      keyword "do"
      let b ← g .statement
      keyword "while"
      let c ← condition g
      if (← isPunct ";") then punct ";"
      else if (← mayEndHere true) then semicolon true
      pure [b.withField "body", c.withField "condition"]
  else if w == "switch" then switchStatement g
  else if w == "try" then tryStatement g
  else if w == "with" then
    node "with_statement" do
      keyword "with"
      let o ← condition g
      let b ← g .statement
      pure [o, b]
  else if w == "break" then jump "break" "break_statement"
  else if w == "continue" then jump "continue" "continue_statement"
  else if w == "return" then returnStatement g
  else if w == "throw" then
    node "throw_statement" do
      keyword "throw"
      let e ← g .expressions
      semicolon false
      pure [e]
  else if w == "debugger" then
    node "debugger_statement" do keyword "debugger"; semicolon true; pure []
  else if w == "import" && !(← succeeds (do keyword "import"; let c ← peekChar; guard (c == '(' || c == '.'))) then
    if typed && (← succeeds (do keyword "import"; let _ ← identifier; punct "="; guard !(← isWord "require"))) then
      node "import_alias" do
        keyword "import"
        let n ← identifier
        punct "="
        let v ← moduleTitle
        semicolon true
        pure [n, v]
    else importStatement g
  else if w == "export" && !(← exportNamesValue) then exportStatement g
  else if w == "function" || w == "class" ||
      (w == "async" && (← succeeds (do keyword "async"; guard !(← lineBreakBefore); keyword "function"))) then
    declarationBefore g (bodyStart (← source) (← peekStart)) expressionStatement
  else if w == "var" || w == "const" || (w == "let" && (← letDeclares)) || w == "using" ||
      (w == "await" && (← awaitUsingAhead)) then
    declaration g
  else if typed && (← typedDeclarationAhead w) then
    if w == "namespace" then
      orElse (node "expression_statement" do
          let m ← namespaceDeclaration g w
          semicolon true
          pure [m]) fun _ => declaration g
    else declaration g
  else if (isLabelWord w || (← peekPending) == some "identifier") &&
      (← succeeds (do let _ ← anyName "statement_identifier"; punct ":")) then
    node "labeled_statement" do
      let l ← anyName "statement_identifier"
      punct ":"
      let s ← g .statement
      pure [l.withField "label", s.withField "body"]
  else expressionStatement

/-- An optional `#!` line at the start of a program, running to the first `\n`. -/
def hashBang : Parse (List Node) := do
  let s ← source
  if s.get 0 == '#' && s.get 1 == '!' then do
    let q := s.skipWhile 0 fun c => c != '\n'
    advance 0 q
    pure [Node.leaf "hash_bang_line" 0 q]
  else pure []

def programItem (g : Grammar) : Parse (List Node) := do
  let s ← source
  guard ((← peekChar) != '\x00' || (← peekStart) < s.size)
  let st ← g .statement
  pure [st]

/-- The rest of a program once some of its parts are read (given latest first), the stack
above `depth` holding them: statements to the end of the text. -/
def programFrom (g : Grammar) (depth : Nat) (rev : List Node) : Parse (List Node) := do
  let s ← source
  let ss ← manyFrom (programItem g) depth rev
  guard ((← peekStart) ≥ s.size)
  pure ss

def program (g : Grammar) : Parse (List Node) := do
  let bang ← hashBang
  programFrom g (← depthNow) bang.reverse

end Statement

end Syntax

end Cyclomatic
