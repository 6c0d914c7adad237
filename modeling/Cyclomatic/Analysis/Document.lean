import Cyclomatic.Syntax.Versions
import Cyclomatic.Outline.Score
import Cyclomatic.Language
import Cyclomatic.Syntax.FullTree

/-!
Documents: a text parsed in one language, seen as an outline. The outline keeps every named node
of the syntax tree; the nodes analysis gives a meaning to get the tags of `Construct`, and a
binary expression on `&&`, `||` or `??` is a logical one. A function is named by its own `name`
field or by the node that holds it. A text that does not parse gives the position of the first
repair its reading needs, the line and the UTF-8 column from 1.
-/

namespace Cyclomatic

namespace Language

def dialect : Language → Syntax.Dialect
  | .javascript => .javascript
  | .typescript => .typescript
  | .tsx => .tsx

end Language

/-- A text that does not parse: the message, and where the first error is when it is known. -/
structure ParseError where
  message : String
  line : Option Nat
  column : Option Nat
deriving Repr, Inhabited

structure Document where
  source : Syntax.Source
  root : Syntax.Node
  comments : Nat

namespace Document

open Syntax

def constructTags : List (String × String) :=
  [("program", Construct.program.tag),
   ("function_declaration", Construct.functionDeclaration.tag),
   ("generator_function_declaration", Construct.functionDeclaration.tag),
   ("function_expression", Construct.functionExpression.tag),
   ("function", Construct.functionExpression.tag),
   ("generator_function", Construct.functionExpression.tag),
   ("arrow_function", Construct.arrowFunction.tag),
   ("method_definition", Construct.methodDefinition.tag),
   ("if_statement", Construct.ifStatement.tag),
   ("for_statement", Construct.forStatement.tag),
   ("for_in_statement", Construct.forInStatement.tag),
   ("while_statement", Construct.whileStatement.tag),
   ("do_statement", Construct.doWhileStatement.tag),
   ("switch_case", Construct.switchCase.tag),
   ("switch_default", Construct.switchCase.tag),
   ("ternary_expression", Construct.conditionalExpression.tag)]

def logicalOperators : List String := ["&&", "||", "??"]

def kindOf (n : Node) : String :=
  if n.kind == "binary_expression" then
    if logicalOperators.contains n.op then Construct.logicalExpression.tag else n.kind
  else (constructTags.lookup n.kind).getD n.kind

/-- The fields of a parent that name a function it holds, tried in order. -/
def bindingFields (parentKind : String) : List String :=
  if parentKind == "variable_declarator" then ["name"]
  else if parentKind == "pair" then ["key"]
  else if parentKind == "assignment_expression" then ["left"]
  else if parentKind == "field_definition" then ["property", "name"]
  else if parentKind == "public_field_definition" then ["name"]
  else []

/-- The node that names a function: its own `name` field, or a field of its parent. -/
def nameNode (parent : Option Node) (n : Node) : Option Node :=
  match n.child? "name" with
  | some m => some m
  | none =>
    match parent with
    | some p => (bindingFields p.kind).findSome? p.child?
    | none => none

/-- The span of a node: lines from 1, offsets in characters. -/
def spanOf (s : Source) (n : Node) : Span :=
  { startLine := s.line n.start + 1, endLine := s.line n.stop + 1,
    startOffset := n.start, endOffset := n.stop }

mutual

def outlineOf (s : Source) (parent : Option Node) : Node → Outline
  | n@⟨_, _, _, _, cs, _⟩ =>
    let kind := kindOf n
    let name :=
      if tagIn kind Construct.functions then
        (nameNode parent n).map fun m => s.slice m.start m.stop
      else none
    ⟨kind, some (spanOf s n), name, outlineAll s n cs⟩

def outlineAll (s : Source) (parent : Node) : List Node → List Outline
  | [] => []
  | c :: cs => outlineOf s (some parent) c :: outlineAll s parent cs

end

def outline (d : Document) : Outline := outlineOf d.source none d.root

def nodeCount (d : Document) : Nat := d.root.size + d.comments

end Document

namespace Language

def errorMessage (l : Language) (what : String) (line column : Nat) : String :=
  "Invalid " ++ l.name ++ " source: " ++ what ++ " (line " ++ toString line ++ ", column " ++
    toString column ++ ")"

def parse (l : Language) (text : String) : Except ParseError Document :=
  let s := Syntax.Source.ofString text l.dialect
  match Syntax.readOrFault s with
  | .ok p => .ok { source := s, root := p.root, comments := p.comments }
  | .error f =>
    let pos := f.position
    let line := s.line pos + 1
    let column := s.byteColumn pos + 1
    let what := match f with
      | .skipped _ => "syntax error"
      | .missing _ token => "missing '" ++ token ++ "'"
    .error { message := l.errorMessage what line column, line := some line, column := some column }

/-- The error a full tree is reported with: none when its root holds no mark of repair, else the
first mark, with its line and column from 1 and whether it is a missing token; when the search
finds no mark, the message alone. -/
def errorOf (l : Language) (root : Syntax.FullNode) : Option ParseError :=
  if root.hasError then
    match root.findFirstError with
    | none => some { message := "Invalid " ++ l.name ++ " source", line := none, column := none }
    | some e =>
      let line := e.row + 1
      let column := e.column + 1
      let what := if e.isMissing then "missing '" ++ e.type ++ "'" else "syntax error"
      some { message := l.errorMessage what line column, line := some line, column := some column }
  else none

end Language

end Cyclomatic
