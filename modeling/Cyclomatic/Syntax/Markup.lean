import Cyclomatic.Syntax.Pattern

/-!
Markup elements embedded in expressions: `<name attr="v">children</name>`, self-closing elements
and fragments `<>children</>`. Names may hold dashes, be dotted or carry a namespace. Children are
text, character references, nested elements and expressions in braces; text runs up to the next
`<`, `>`, `{`, `}` or `&`, unless it is only blanks that start on a new line.
-/

namespace Cyclomatic

namespace Syntax

namespace Markup

open Parse

/-- The end of a markup name: a name, then optionally a dash and more letters, digits, `_`,
`$` or `-`. -/
def nameEnd (s : Source) (p : Nat) : Option Nat :=
  match s.nameEnd p with
  | none => none
  | some q =>
    if s.get q == '-' then
      some (s.skipWhile q fun c => c.isAlphanum || c == '_' || c == '$' || c == '-')
    else some q

def name (kind : String) : Parse Node := scanned kind nameEnd

def qualified (kind : String) : Parse Node := do
  let d ← depthNow
  let n ← name kind
  if (← isPunct ":") then
    punct ":"
    let m ← name "identifier"
    finish "jsx_namespace_name" d n.start [{ n with kind := "identifier" }, m]
  else pure n

def elementName : Parse Node := do
  let d ← depthNow
  let first ← qualified "identifier"
  let rec dots (acc : Node) : Nat → Parse Node
    | 0 => pure acc
    | fuel + 1 => do
      if acc.kind != "jsx_namespace_name" && (← isPunct ".") then
        punct "."
        let p ← anyName "property_identifier"
        let m ← finish "member_expression" d acc.start [acc.withField "object", p.withField "property"]
        dots m fuel
      else pure acc
  dots first ((← source).size + 1)

def reference : Parse Node := scanned "html_character_reference" Source.characterReferenceEnd

def string : Parse Node := do
  let p ← peekStart
  let s ← source
  let quote := s.get p
  if quote != '"' && quote != '\'' then fail
  else
    node "string" do
      lit (String.singleton quote)
      let rec parts (acc : List Node) : Nat → Parse (List Node)
        | 0 => pure acc
        | fuel + 1 => do
          let q ← lastEnd
          let c := s.get q
          if c == quote then do advanceRaw (q + 1); pure acc
          else if q ≥ s.size then fail
          else if c == '&' then
            match s.characterReferenceEnd q with
            | some r => do
              advanceRaw r
              parts (acc ++ [Node.leaf "html_character_reference" q r]) fuel
            | none => fail
          else
            let r := s.skipWhile q fun x => x != quote && x != '&'
            do advanceRaw r; parts (acc ++ [Node.leaf "string_fragment" q r]) fuel
      parts [] (s.size + 1)

/-- An expression in braces: empty, an expression, several, or a spread `...value`. -/
def expression (g : Grammar) : Parse Node :=
  node "jsx_expression" do
    punct openBrace
    if (← isPunct closeBrace) then do punct closeBrace; pure []
    else
      let e ← if (← isPunct "...") then
          node "spread_element" do punct "..."; let v ← g .expression; pure [v]
        else g .expressions
      punct closeBrace
      pure [e]

def attr (g : Grammar) : Parse Node := do
  if (← peekChar) == '{' then expression g
  else
    node "jsx_attribute" do
      let n ← qualified "property_identifier"
      if (← isPunct "=") then
        punct "="
        let c ← peekChar
        let v ← if c == '{' then expression g
          else if c == '<' then g .markup
          else string
        pure [n, v]
      else pure [n]

def attributes (g : Grammar) : Parse (List Node) :=
  many do
    let c ← peekChar
    guard (c != '>' && c != '/')
    let a ← attr g
    pure [a]

def textAt (s : Source) (p : Nat) : Option (Nat × Nat) :=
  (s.markupTextEnd p).map fun q => (p, q)

def children (g : Grammar) : Parse (List Node) := do
  let s ← source
  let rec go (acc : List Node) : Nat → Parse (List Node)
    | 0 => pure acc
    | fuel + 1 => do
      let p ← lastEnd
      match (← peekPending), textAt s p with
      | none, some (a, b) =>
        if a == p then advanceRaw b else advance a b
        go (acc ++ [Node.leaf "jsx_text" a b]) fuel
      | _, _ =>
        let c ← peekChar
        if c == '{' then do let e ← expression g; go (acc ++ [e]) fuel
        else if c == '&' then do let r ← reference; go (acc ++ [r]) fuel
        else if c == '<' then
          let start ← peekStart
          if s.get (s.skipWhile (start + 1) isBlank) == '/' then pure acc
          else do let e ← g .markup; go (acc ++ [e]) fuel
        else pure acc
  go [] (s.size + 1)

def closing : Parse Node :=
  node "jsx_closing_element" do
    lit "<"
    lit "/"
    let n ← optional elementName
    lit ">"
    pure n.toList

/-- The `>` that ends an opening tag with a name. One taken as present ends the tag only
before a child whose first token is read the same inside the tag, a `{` or a `<`: other text
after it was met as a token of the tag, which no child starts with. -/
def tagEnd : Parse Unit := do
  if (← peekPending) == some ">" then
    lit ">"
    let c ← peekChar
    guard (c == '{' || c == '<')
  else lit ">"

def element (g : Grammar) : Parse Node :=
  nodeWith do
    let d ← depthNow
    let start ← peekStart
    lit "<"
    if (← peekChar) == '>' then
      lit ">"
      let o ← finish "jsx_opening_element" d start []
      let kids ← children g
      let close ← closing
      pure ("jsx_element", [o] ++ kids ++ [close])
    else
      let n ← elementName
      let targs ← if (← dialect).typed && (← peekChar) == '<' then
          (fun t => [t]) <$> g .typeArguments
        else pure []
      let attrs ← attributes g
      if (← peekPending) == some "/>" || (← peekChar) == '/' then
        lit "/>"
        pure ("jsx_self_closing_element", [n] ++ targs ++ attrs)
      else
        tagEnd
        let o ← finish "jsx_opening_element" d start ([n] ++ targs ++ attrs)
        let kids ← children g
        let close ← closing
        pure ("jsx_element", [o] ++ kids ++ [close])

end Markup

end Syntax

end Cyclomatic
