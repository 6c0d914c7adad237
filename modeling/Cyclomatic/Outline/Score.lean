import Cyclomatic.Outline.Basic

/-!
Cyclomatic complexity of the functions of an outline. A function scores 1 plus one for every
branch node in its subtree, itself included. The walk does not stop at nested functions, so a
branch inside a nested function counts toward every function that encloses it. Kinds are
compared as exact strings.
-/

namespace Cyclomatic

inductive Construct where
  | program
  | functionDeclaration
  | functionExpression
  | arrowFunction
  | methodDefinition
  | ifStatement
  | forStatement
  | forInStatement
  | whileStatement
  | doWhileStatement
  | switchCase
  | logicalExpression
  | conditionalExpression
deriving Repr, DecidableEq

namespace Construct

def tag : Construct → String
  | .program => "Program"
  | .functionDeclaration => "FunctionDeclaration"
  | .functionExpression => "FunctionExpression"
  | .arrowFunction => "ArrowFunctionExpression"
  | .methodDefinition => "MethodDefinition"
  | .ifStatement => "IfStatement"
  | .forStatement => "ForStatement"
  | .forInStatement => "ForInStatement"
  | .whileStatement => "WhileStatement"
  | .doWhileStatement => "DoWhileStatement"
  | .switchCase => "SwitchCase"
  | .logicalExpression => "LogicalExpression"
  | .conditionalExpression => "ConditionalExpression"

def all : List Construct :=
  [.program, .functionDeclaration, .functionExpression, .arrowFunction, .methodDefinition,
   .ifStatement, .forStatement, .forInStatement, .whileStatement, .doWhileStatement,
   .switchCase, .logicalExpression, .conditionalExpression]

def functions : List Construct :=
  [.functionDeclaration, .functionExpression, .arrowFunction, .methodDefinition]

/-- Constructs that add a path through a function; logical operators count when asked. -/
def branches (countLogical : Bool) : List Construct :=
  [.ifStatement, .forStatement, .whileStatement, .doWhileStatement, .switchCase] ++
    (if countLogical then [.logicalExpression] else [])

end Construct

def tagIn (kind : String) (cs : List Construct) : Bool :=
  cs.any fun c => c.tag == kind

/-- The line reported for a node without a span. -/
def missingLine : Int := -1

structure FunctionScore where
  complexity : Nat
  startLine : Int
  endLine : Int
  name : Option String
deriving Repr, DecidableEq, Inhabited

namespace FunctionScore

def label (f : FunctionScore) : String := "Complexity: " ++ toString f.complexity

def hasLocation (f : FunctionScore) : Bool := f.startLine != missingLine

end FunctionScore

namespace Outline

def isFunction (o : Outline) : Bool := tagIn o.kind Construct.functions

def isBranch (countLogical : Bool) (o : Outline) : Bool :=
  tagIn o.kind (Construct.branches countLogical)

/-- One plus the number of branch nodes in the subtree, the node itself included. -/
def complexity (countLogical : Bool) (o : Outline) : Nat :=
  1 + (o.preorder.filter (isBranch countLogical)).length

/-- The score of a node: its complexity and its 0-based lines (both `-1` without a span). -/
def score (countLogical : Bool) (o : Outline) : FunctionScore :=
  let (startLine, endLine) :=
    match o.span with
    | some s => (s.startLine - 1, s.endLine - 1)
    | none => (missingLine, missingLine)
  { complexity := o.complexity countLogical, startLine, endLine, name := o.name }

def functions (o : Outline) : List Outline :=
  o.preorder.filter isFunction

def encloses (offset : Int) (o : Outline) : Bool :=
  o.isFunction && o.span.any (·.contains offset)

/-- The last function in pre-order whose span contains the offset: the innermost one. -/
def enclosing (o : Outline) (offset : Int) : Option Outline :=
  (o.preorder.filter (encloses offset)).getLast?

end Outline

end Cyclomatic
