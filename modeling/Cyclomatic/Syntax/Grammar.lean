import Cyclomatic.Syntax.Statement

/-!
The grammar as a whole: each rule given the grammar one level down, and a reading of a whole
text as a program.

`Grammar.run n` can nest rules `n` deep; past that every rule stops. Each nested rule reads
at least as far as its parent has, and a nesting that reads nothing is bounded by the rules'
own structure, so a fuel proportional to the length of the text is enough for any text the
grammar accepts.
-/

namespace Cyclomatic

namespace Syntax

namespace Grammar

open Parse

/-- Every rule, written against the grammar `g` for the rules it nests. -/
def step (g : Grammar) : Grammar := fun r =>
  match r with
  | .statement => Statement.statement g
  | .block => Statement.block g
  | .expression => Expression.expression g
  | .expressions => Expression.expressions g
  | .binary level => Expression.binary g level
  | .unary => Expression.unary g
  | .leftSide => Expression.leftSide g
  | .pattern => Pattern.pattern g
  | .parameters => Pattern.parameters g
  | .classBody => Class.body g
  | .markup => Markup.element g
  | .type => Typing.type g
  | .unionType => Typing.unionType g
  | .postfixType => Typing.postfixType g
  | .typeArguments => Typing.typeArguments g
  | .typeParameters => Typing.typeParameters g
  | .objectType interface => Typing.objectType g interface
  | .decorator => Expression.decorator g

/-- The grammar with rules nested at most `n` deep. -/
def run : Nat → Grammar
  | 0 => fun _ => fail
  | n + 1 => step (run n)

/-- The nesting depth allowed for a text of a length. -/
def depthFor (size : Nat) : Nat := 32 * (size + 8)

end Grammar

structure Program where
  root : Node
  comments : Nat
deriving Inhabited

/-- Where a program starts: at its first token or comment, or at the end of a text with
neither. -/
def Source.programStart (s : Source) : Nat :=
  s.skipWhile 0 isBlank

/-- The program made of the parts read, once the text is read to its end and every zero-width
token of the repair has been placed; with whether the last zero-width token placed ended a
construct. -/
def programOf (s : Source) (r : Repair) (kids : List Node) : Parse (Program × Bool) := do
  let c ← Parse.cursor
  let e ← Parse.env
  Parse.guard (c.placed == r.missing.length)
  let trailing := (e.skipTrivia c.pos).2
  let start := min s.programStart s.size
  let root : Node := { kind := "program", start, stop := s.size, children := kids }
  pure ({ root, comments := c.extras + trailing }, c.closedOnPlaced)

def envFor (s : Source) (r : Repair) (watch : Option Nat := none) : Env :=
  let e : Env := { src := s, repair := r, watch }
  { e with unfinishable := Thunk.mk fun _ => Expression.textLeftOpen e }

/-- Reads a text as a program under a repair. Succeeds only when the whole text is read and
every zero-width token of the repair has been placed; gives whether the last zero-width
token placed ended a construct. -/
def readProgram (s : Source) (r : Repair) (watch : Option Nat := none) :
    Step (Program × Bool) :=
  let e := envFor s r watch
  let body : Parse (Program × Bool) := do
    let kids ← Statement.program (Grammar.run (Grammar.depthFor s.size))
    programOf s r kids
  body e Cursor.initial

/-- A place to take up reading a text again: the cursor after some statements read from its
start without a repair, the parts read up to there (latest first), and the depth of the stack
the statements are folded above. -/
structure Resume where
  cursor : Cursor
  parts : List Node
  depth : Nat

def resumePoints (s : Source) : List Resume :=
  let e := envFor s {}
  match Statement.hashBang e Cursor.initial with
  | .ok bang c =>
    let item := Statement.programItem (Grammar.run (Grammar.depthFor s.size))
    (Parse.manyTrail item c.depth e bang.reverse c).map fun (rev, c') =>
      ⟨c', rev, c.depth⟩
  | .stop _ => []

def Repair.first (r : Repair) : Option Nat :=
  (r.skips.map (·.1) ++ r.missing.map (·.1)).min?

/-- The last place among `points` from which a reading under a repair that changes nothing
before `first` goes as a reading from the start does: two more statements end before
`first`, and no attempt made up to the place got as far as `first`. -/
def resumeFor (points : List Resume) (first : Nat) : Option Resume :=
  let ends := points.map (·.cursor.pos)
  let usable := (points.zip (ends.drop 2)).filter fun (p, later) =>
    decide (later < first) && (p.cursor.best.map fun (b : Stop) => decide (b.token < first)).getD true
  (usable.getLast?).map (·.1)

/-- Reads a text as a program under a repair, taking up the reading from a place read
before when one fits: the same reading as `readProgram`, without reading again what the
repair leaves as it was. -/
def readProgramFrom (s : Source) (points : List Resume) (r : Repair)
    (watch : Option Nat := none) : Step (Program × Bool) :=
  match r.first.bind (resumeFor points) with
  | none => readProgram s r watch
  | some p =>
    let e := envFor s r watch
    let body : Parse (Program × Bool) := do
      let kids ← Statement.programFrom (Grammar.run (Grammar.depthFor s.size)) p.depth p.parts
      programOf s r kids
    body e p.cursor

end Syntax

end Cyclomatic
