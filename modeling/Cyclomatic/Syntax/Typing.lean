import Cyclomatic.Syntax.Terminal

/-!
Types of the typed dialects: annotations, unions and intersections, conditional types,
function and constructor types, generic instances, tuples, object types with their members,
and type parameters and arguments.

Unions and intersections group to the left; a conditional type groups to the right. A type
followed by `[]` is an array type and by `[T]` a lookup of a member type.
-/

namespace Cyclomatic

namespace Syntax

namespace Typing

open Parse

def predefinedTypes : List String :=
  ["any", "number", "boolean", "string", "symbol", "void", "unknown", "never", "object"]

def typeName : Parse Node := identifierAs "type_identifier"

def ascription (g : Grammar) : Parse Node :=
  node "type_annotation" do
    punct ":"
    let t ← g .type
    pure [t]

/-- The subject of a type predicate: a name, `this`, or a predefined type's word. -/
def predicateName : Parse Node := do
  let w ← peekWord
  if w == "this" then keywordNode "this" "this"
  else if predefinedTypes.contains w then anyName "identifier"
  else identifier

def predicate (g : Grammar) : Parse Node :=
  node "type_predicate" do
    let n ← predicateName
    keyword "is"
    let t ← g .type
    pure [n.withField "name", t.withField "type"]

def asserts (g : Grammar) : Parse Node :=
  node "asserts" do
    keyword "asserts"
    let p ← orElse (predicate g) fun _ => predicateName
    pure [p]

/-- The return type of a signature: an annotation, a type predicate or an assertion. The word
`asserts` there always starts an assertion. -/
def returnType (g : Grammar) : Parse Node := do
  if (← succeeds (do punct ":"; keyword "asserts")) then
    node "asserts_annotation" do punct ":"; let a ← asserts g; pure [a]
  else
    orElse (node "type_predicate_annotation" do punct ":"; let p ← predicate g; pure [p]) fun _ =>
    ascription g

def commaList1 (item : Parse Node) : Parse (List Node) :=
  sepBy ((fun n => [n]) <$> item) (punct ",") true

def typeParameter (g : Grammar) : Parse Node :=
  node "type_parameter" do
    if (← isWord "const") then keyword "const"
    let n ← typeName
    let c ← optional (node "constraint" do
      if (← isPunct ":") then punct ":" else keyword "extends"
      let t ← g .type
      pure [t])
    let d ← optional (node "default_type" do punct "="; let t ← g .type; pure [t])
    pure ([n.withField "name"] ++ (c.map (·.withField "constraint")).toList ++
      (d.map (·.withField "value")).toList)

def typeParameters (g : Grammar) : Parse Node :=
  node "type_parameters" do
    lit "<"
    let ps ← commaList1 (typeParameter g)
    lit ">"
    pure ps

def typeArguments (g : Grammar) : Parse Node :=
  node "type_arguments" do
    lit "<"
    let ts ← commaList1 (g .type)
    lit ">"
    pure ts

/-- A call signature: type parameters, parameters and a return type, as separate parts. -/
def callSignature (g : Grammar) : Parse (List Node) := do
  let tps ← if (← peekChar) == '<' then (fun n => [n.withField "type_parameters"]) <$> g .typeParameters
    else pure []
  let ps ← g .parameters
  let r ← if (← isPunct ":") then (fun n => [n.withField "return_type"]) <$> returnType g else pure []
  pure (tps ++ [ps.withField "parameters"] ++ r)

/-- A dotted type name `a.b.C`: the qualifier becomes nested identifiers. -/
def qualifiedName : Parse Node := do
  let d ← depthNow
  let first ← identifier
  if !(← isPunct ".") then
    pure { first with kind := "type_identifier" }
  else
    -- qualifier parts: all dotted names but the last
    let rec parts (acc : List Node) : Nat → Parse (List Node)
      | 0 => pure acc
      | fuel + 1 => do
        if (← isPunct ".") then
          punct "."
          let n ← anyName "property_identifier"
          parts (acc ++ [n]) fuel
        else pure acc
    let rest ← parts [] ((← source).size + 1)
    match rest.getLast? with
    | none => pure first
    | some last =>
      let quals := rest.dropLast
      let qualifier := quals.zipIdx.foldl (fun (acc : Node) (q, i) =>
        let kind := if i + 1 == quals.length then "nested_identifier" else "member_expression"
        { kind, start := acc.start, stop := q.stop, children := [acc.withField "object", q.withField "property"] })
        first
      finish "nested_type_identifier" d first.start
        [qualifier.withField "module", { last with kind := "type_identifier" }.withField "name"]

def queryArguments (g : Grammar) : Parse Node :=
  node "arguments" do
    punct "("
    let items ← if (← isPunct ")") then pure []
      else sepBy ((fun e => [e]) <$> g .expression) (punct ",") true
    punct ")"
    pure items

/-- An expression as a type query reads it: `import`, `this` or a name, then member accesses
`.name`, subscripts by a string, a number or a predefined type, and calls, but not a call of a
call. -/
def queryExpression (g : Grammar) : Parse Node := do
  let d ← depthNow
  let w ← peekWord
  let first ← if w == "import" then keywordNode "import" "import"
    else if w == "this" then keywordNode "this" "this"
    else identifier
  let rec chain (acc : Node) (called : Bool) : Nat → Parse Node
    | 0 => pure acc
    | fuel + 1 => do
      let p ← peekPunct
      if p == some "." || p == some "?." then
        punct (p.getD ".")
        let n ← if (← peekChar) == '#' then privateName else anyName "property_identifier"
        let m ← finish "member_expression" d acc.start [acc.withField "object", n.withField "property"]
        chain m false fuel
      else if p == some "[" then
        punct "["
        let c ← peekChar
        let i ← if c == '"' || c == '\'' then string
          else if c.isDigit then number
          else keywordNode (← peekWord) "predefined_type"
        punct "]"
        let m ← finish "subscript_expression" d acc.start [acc.withField "object", i.withField "index"]
        chain m false fuel
      else if p == some "(" && !called then
        let a ← queryArguments g
        let m ← finish "call_expression" d acc.start [acc.withField "function", a.withField "arguments"]
        chain m true fuel
      else pure acc
  chain first false ((← source).size + 1)

/-- A type query `typeof x.y`; type arguments at the end make an instantiation. -/
def typeQuery (g : Grammar) : Parse Node :=
  node "type_query" do
    keyword "typeof"
    let d ← depthNow
    let e ← queryExpression g
    if (← peekChar) == '<' && e.kind != "call_expression" then
      let t ← g .typeArguments
      let i ← finish "instantiation_expression" d e.start
        [e.withField "function", t.withField "type_arguments"]
      pure [i]
    else pure [e]

/-- A literal type: a string, a number with an optional sign, `true`, `false`, `null` or
`undefined`. -/
def literalType : Parse Node :=
  node "literal_type" do
    let c ← peekChar
    let w ← peekWord
    if c == '"' || c == '\'' then (fun n => [n]) <$> string
    else if c == '-' || c == '+' then
      let u ← node "unary_expression" do
        punct (String.singleton c)
        let n ← number
        pure [n.withField "argument"]
      pure [u]
    else if w == "true" || w == "false" || w == "null" || w == "undefined" then
      (fun n => [n]) <$> keywordNode w w
    else (fun n => [n]) <$> number

def templateType (g : Grammar) : Parse Node :=
  node "template_literal_type" do
    lit "`"
    let rec parts (acc : List Node) : Nat → Parse (List Node)
      | 0 => pure acc
      | fuel + 1 => do
        let s ← source
        let p ← lastEnd
        let c := s.get p
        if (← placeKind "`").isSome then pure acc
        else if c == '`' then do advanceRaw (p + 1); pure acc
        else if c == '$' && s.get (p + 1) == '{' then do
          let t ← node "template_type" do
            advanceRaw (p + 2)
            let t ← g .type
            punct closeBrace
            pure [t]
          parts (acc ++ [t]) fuel
        else
          match s.templateTextEnd p with
          | some q =>
            if q == p then fail
            else do advanceRaw q; parts (acc ++ [Node.leaf "string_fragment" p q]) fuel
          | none => fail
    parts [] ((← source).size + 1)

def tupleMember (g : Grammar) : Parse Node := do
  if (← isPunct "...") then
    let labelled ← succeeds (do punct "..."; let _ ← identifier; guard (← isPunct ":"))
    if labelled then
      node "required_parameter" do
        let r ← node "rest_pattern" do punct "..."; let n ← identifier; pure [n]
        let a ← ascription g
        pure [r.withField "name", a]
    else
      node "rest_type" do punct "..."; let t ← g .type; pure [t]
  else
    let named ← succeeds (do
      let _ ← identifier
      if (← isPunct "?") then punct "?"
      guard (← isPunct ":"))
    if named then
      nodeWith do
        let n ← identifier
        if (← isPunct "?") then
          punct "?"
          let a ← ascription g
          pure ("optional_parameter", [n, a])
        else
          let a ← ascription g
          pure ("required_parameter", [n, a])
    else
      let d ← depthNow
      let t ← g .type
      if (← isPunct "?") then do
        punct "?"
        finish "optional_type" d t.start [t]
      else pure t

def tupleType (g : Grammar) : Parse Node :=
  node "tuple_type" do
    punct "["
    let rec items (acc : List Node) : Nat → Parse (List Node)
      | 0 => pure acc
      | fuel + 1 => do
        if (← isPunct "]") then pure acc
        else
          let m ← tupleMember g
          if (← isPunct ",") then do punct ","; items (acc ++ [m]) fuel
          else pure (acc ++ [m])
    let ms ← items [] ((← source).size + 1)
    punct "]"
    pure ms

/-- A type that can stand before `[]`: a name, a literal, a parenthesized type, an object or
tuple type, a query and so on. -/
def primaryType (g : Grammar) : Parse Node := do
  let c ← peekChar
  let w ← peekWord
  if c == '(' then
    node "parenthesized_type" do punct "("; let t ← g .type; punct ")"; pure [t]
  else if c == '{' then g (.objectType false)
  else if c == '[' then tupleType g
  else if c == '`' then templateType g
  else if c == '"' || c == '\'' || c.isDigit || c == '-' || c == '+' then literalType
  else if c == '*' then node "existential_type" (do punct "*"; pure [])
  else if c == '?' then node "flow_maybe_type" (do punct "?"; let t ← g .postfixType; pure [t])
  else if w == "typeof" then typeQuery g
  else if w == "import" && (← succeeds (do keyword "import"; punct "(")) then queryExpression g
  else if w == "keyof" then
    node "index_type_query" do keyword "keyof"; let t ← g .postfixType; pure [t]
  else if w == "infer" then
    node "infer_type" do
      keyword "infer"
      let n ← typeName
      let c ← optional (do keyword "extends"; g .type)
      pure (n :: c.toList)
  else if w == "unique" then
    node "predefined_type" do
      keyword "unique"
      -- Both words are leaves of the kind `unique symbol`, the kind a missing word takes.
      if (← placeKind "unique symbol").isNone then keyword "symbol"
      pure []
  else if w == "this" then keywordNode "this" "this_type"
  else if w == "true" || w == "false" || w == "null" || w == "undefined" then literalType
  else if predefinedTypes.contains w && !(← succeeds (do keyword w; punct ".")) then
    keywordNode w "predefined_type"
  else
    let d ← depthNow
    let n ← qualifiedName
    if (← peekChar) == '<' && !(← lineBreakBefore) then do
      let args ← g .typeArguments
      finish "generic_type" d n.start [n.withField "name", args.withField "type_arguments"]
    else pure n

/-- A primary type followed by `[]` or `[T]`, repeatedly. -/
def postfixType (g : Grammar) : Parse Node := do
  let d ← depthNow
  let first ← primaryType g
  let rec loop (acc : Node) : Nat → Parse Node
    | 0 => pure acc
    | fuel + 1 => do
      if (← isPunct "[") && !(← lineBreakBefore) then
        punct "["
        if (← isPunct "]") then do
          punct "]"
          let t ← finish "array_type" d acc.start [acc]
          loop t fuel
        else do
          let i ← g .type
          punct "]"
          let t ← finish "lookup_type" d acc.start [acc, i]
          loop t fuel
      else pure acc
  loop first ((← source).size + 1)

def functionType (g : Grammar) : Parse Node :=
  node "function_type" do
    let tps ← if (← peekChar) == '<' then (fun n => [n.withField "type_parameters"]) <$> g .typeParameters
      else pure []
    let ps ← g .parameters
    punct "=>"
    let r ← if (← isWord "asserts") then asserts g
      else orElse (predicate g) fun _ => g .type
    pure (tps ++ [ps.withField "parameters", r.withField "return_type"])

def constructorType (g : Grammar) : Parse Node :=
  node "constructor_type" do
    if (← isWord "abstract") then keyword "abstract"
    keyword "new"
    let tps ← if (← peekChar) == '<' then (fun n => [n]) <$> g .typeParameters else pure []
    let ps ← g .parameters
    punct "=>"
    let r ← g .type
    pure (tps ++ [ps, r])

/-- An operand of a union or intersection: a function, constructor or readonly type, or a
postfix type. -/
def operandType (g : Grammar) : Parse Node := do
  let c ← peekChar
  let w ← peekWord
  if c == '(' || c == '<' then orElse (functionType g) fun _ => g .postfixType
  else if w == "new" || (w == "abstract" && (← succeeds (do keyword "abstract"; keyword "new"))) then
    constructorType g
  else if w == "readonly" && (← succeeds (do keyword "readonly"; let _ ← g .postfixType)) then
    node "readonly_type" do keyword "readonly"; let t ← g .type; pure [t]
  else g .postfixType

/-- Operands joined by a binary type operator, grouping to the left; a leading operator is
allowed. -/
def joined (kind op : String) (operand : Parse Node) : Parse Node := do
  let d ← depthNow
  let start ← peekStart
  let first ← if (← isPunct op) then do
      punct op
      let t ← operand
      finish kind d start [t]
    else operand
  let rec loop (acc : Node) : Nat → Parse Node
    | 0 => pure acc
    | fuel + 1 => do
      if (← isPunct op) then
        punct op
        let t ← operand
        let u ← finish kind d acc.start [acc, t]
        loop u fuel
      else pure acc
  loop first ((← source).size + 1)

def intersectionType (g : Grammar) : Parse Node := joined "intersection_type" "&" (operandType g)

def unionType (g : Grammar) : Parse Node := joined "union_type" "|" (intersectionType g)

/-- A type: a union, possibly the checked type of a conditional `A extends B ? C : D`. -/
def type (g : Grammar) : Parse Node := do
  let d ← depthNow
  let left ← g .unionType
  if (← isWord "extends") then
    keyword "extends"
    let right ← g .unionType
    punct "?"
    let yes ← g .type
    punct ":"
    let no ← g .type
    finish "conditional_type" d left.start
      [left.withField "left", right.withField "right", yes.withField "consequence",
       no.withField "alternative"]
  else pure left

def memberModifiers : List String :=
  ["public", "private", "protected", "static", "readonly", "abstract", "override", "declare",
   "accessor", "async"]

/-- An accessibility or override modifier as a node, other modifiers as plain keywords. -/
def modifierNode (w : String) : Parse (List Node) := do
  if w == "public" || w == "private" || w == "protected" then
    (fun n => [n]) <$> node "accessibility_modifier" (do keyword w; pure [])
  else if w == "override" then
    (fun n => [n]) <$> node "override_modifier" (do keyword w; pure [])
  else do keyword w; pure []

/-- Whether the word at the cursor is a modifier rather than the member's name: it is
followed, on the same line, by something that can continue a member. -/
def isModifier (w : String) : Parse Bool :=
  succeeds do
    keyword w
    guard !(← lineBreakBefore)
    let c ← peekChar
    guard (c != '(' && c != '=' && c != ';' && c != '}' && c != ',' && c != ':' && c != '?' &&
      c != '!' && c != '<' && c != ')' && c != '\x00')

def modifiers (allowed : List String) : Parse (List Node) := do
  let rec go (acc : List Node) : Nat → Parse (List Node)
    | 0 => pure acc
    | fuel + 1 => do
      let w ← peekWord
      if allowed.contains w && (← isModifier w) then
        let m ← modifierNode w
        go (acc ++ m) fuel
      else pure acc
  go [] 8

/-- An index signature `[key: string]: T`, or a mapped type clause `[K in T]: U`. -/
def indexSignature (g : Grammar) : Parse Node :=
  node "index_signature" do
    let pre ← do
      if (← isPunct "-") || (← isPunct "+") then
        if (← isPunct "-") then punct "-" else punct "+"
        keyword "readonly"
        pure ()
      else if (← isWord "readonly") then keyword "readonly"
      else pure ()
    let _ := pre
    punct "["
    let mapped ← succeeds (do let _ ← typeName; keyword "in")
    let inner ← if mapped then
        (fun n => [n]) <$> node "mapped_type_clause" do
          let n ← typeName
          keyword "in"
          let t ← g .type
          let a ← optional (do keyword "as"; g .type)
          pure ([n.withField "name", t.withField "type"] ++ (a.map (·.withField "alias")).toList)
      else do
        let n ← identifier
        punct ":"
        let t ← g .type
        pure [n.withField "name", t.withField "index_type"]
    punct "]"
    let ann ← do
      if (← isPunct "?") then
        (fun n => [n]) <$> node "opting_type_annotation" do punct "?"; punct ":"; let t ← g .type; pure [t]
      else if (← isPunct "-") then
        (fun n => [n]) <$> node "omitting_type_annotation" do punct "-"; punct "?"; punct ":"; let t ← g .type; pure [t]
      else if (← isPunct "+") then
        (fun n => [n]) <$> node "adding_type_annotation" do punct "+"; punct "?"; punct ":"; let t ← g .type; pure [t]
      else (fun n => [n]) <$> ascription g
    pure (inner ++ ann)

/-- Whether an index signature or a mapped type is ahead, after an optional `readonly`: a
bracket holding a name and then `:` or `in`. Any other bracket holds the computed name of a
property or method. -/
def indexAhead : Parse Bool :=
  succeeds do
    if (← isWord "readonly") then keyword "readonly"
    punct "["
    let _ ← anyName "identifier"
    guard ((← isPunct ":") || (← isWord "in"))

def objectTypeMember (g : Grammar) : Parse Node := do
  let c ← peekChar
  if (← indexAhead) || ((c == '-' || c == '+') && (← succeeds (indexSignature g))) then
    indexSignature g
  else if c == '(' || c == '<' then
    node "call_signature" (callSignature g)
  else if (← isWord "new") && (← succeeds (do keyword "new"; guard ((← peekChar) == '(' || (← peekChar) == '<'))) then
    node "construct_signature" do
      keyword "new"
      let s ← callSignature g
      pure s
  else
    nodeWith do
      let mods ← modifiers memberModifiers
      let accessor ← do
        let v ← peekWord
        if (v == "get" || v == "set") && (← isModifier v) then do keyword v; pure ()
        else if (← isPunct "*") then punct "*"
        else pure ()
      let _ := accessor
      let n ← propertyName g
      let opt ← if (← isPunct "?") then do punct "?"; pure () else pure ()
      let _ := opt
      let c' ← peekChar
      if c' == '(' || c' == '<' then
        let s ← callSignature g
        pure ("method_signature", mods ++ [n.withField "name"] ++ s)
      else
        let a ← optional (ascription g)
        pure ("property_signature", mods ++ [n.withField "name"] ++ (a.map (·.withField "type")).toList)

/-- An object type `{ a: A; b(): B }`; members are separated by commas, semicolons or line
breaks. -/
def objectType (g : Grammar) (interface : Bool) : Parse Node :=
  node (if interface then "interface_body" else "object_type") do
    if (← isPunct openBrace) then punct openBrace else lit "\x7b|"
    let sep : Parse Unit := do
      if (← isPunct ",") then punct ","
      else semicolon true
    let rec items (acc : List Node) : Nat → Parse (List Node)
      | 0 => pure acc
      | fuel + 1 => do
        if (← isPunct closeBrace) then pure acc
        else if (← isPunct ",") || (← isPunct ";") then do
          if (← isPunct ",") then punct "," else punct ";"
          items acc fuel
        else
          let m ← objectTypeMember g
          if (← isPunct closeBrace) then pure (acc ++ [m])
          else do sep; items (acc ++ [m]) fuel
    let ms ← items [] ((← source).size + 1)
    punct closeBrace
    pure ms

end Typing

end Syntax

end Cyclomatic
