import Cyclomatic.Syntax.Typing

/-!
Patterns that values are taken apart into, and parameter lists.

A pattern is a name, a member or subscript expression, an object or array pattern, or a rest
element `...pattern`. In the typed dialects every parameter is wrapped in a node that also
holds its modifiers, its type annotation and its default value.
-/

namespace Cyclomatic

namespace Syntax

namespace Pattern

open Parse

def assignable (d : Dialect) (kind : String) : Bool :=
  kind == "identifier" || kind == "undefined" || kind == "member_expression" ||
    kind == "subscript_expression" || (d.typed && kind == "non_null_expression")

def prefixAhead : Parse Bool := do
  let p ← peekPunct
  let w ← peekWord
  pure (["!", "~", "-", "+", "++", "--"].any (p == some ·) ||
    w == "typeof" || w == "void" || w == "delete")

/-- An expression that may be assigned to: a name, a member or a subscript. In the typed
dialects an expression asserted non-null is one too, so an operator expression may stand
there when the assertion `!` follows it. -/
def target (g : Grammar) : Parse Node := do
  let d ← dialect
  if d.typed && (← prefixAhead) then
    let depth ← depthNow
    let e ← g .unary
    if (← isPunct "!") then
      punct "!"
      finish "non_null_expression" depth e.start [e]
    else
      guard (e.kind == "unary_expression" &&
        (e.children.getLast?.map (·.kind)) == some "non_null_expression")
      pure e
  else
    let e ← g .leftSide
    guard (assignable d e.kind)
    pure e

def rest (g : Grammar) : Parse Node :=
  node "rest_pattern" do
    punct "..."
    let p ← g .pattern
    pure [p]

def withDefault (g : Grammar) : Parse Node := do
  let d ← depthNow
  let p ← g .pattern
  if (← isPunct "=") then
    punct "="
    let v ← g .expression
    finish "assignment_pattern" d p.start [p.withField "left", v.withField "right"]
  else pure p

/-- Items separated by commas where an item may be left out, as in `[a, , b]`. After the
first item each comma and the item after it form a unit, folded with the units before it into
one part of the stack. -/
def holes (item : Parse Node) (close : String) : Parse (List Node) := do
  let present : Parse (List Node) := do
    if (← isPunct ",") || (← isPunct close) then pure [] else (fun n => [n]) <$> item
  let first ← present
  let d ← depthNow
  let rec go (acc : List Node) : Nat → Parse (List Node)
    | 0 => pure acc
    | fuel + 1 => do
      if (← isPunct ",") then
        punct ","
        let more ← present
        foldRepeat d
        go (acc ++ more) fuel
      else pure acc
  go first ((← source).size + 1)

def array (g : Grammar) : Parse Node :=
  node "array_pattern" do
    punct "["
    let items ← holes (withDefault g) "]"
    punct "]"
    pure items

/-- A member of an object pattern: `key: pattern`, `name = value`, `name` or `...rest`. -/
def property (g : Grammar) : Parse Node := do
  if (← isPunct "...") then rest g
  else
    let keyed ← succeeds (do let _ ← propertyName g; punct ":")
    if keyed then
      node "pair_pattern" do
        let k ← propertyName g
        punct ":"
        let v ← withDefault g
        pure [k.withField "key", v.withField "value"]
    else
      let d ← depthNow
      let n ← identifierAs "shorthand_property_identifier_pattern"
      if (← isPunct "=") then
        punct "="
        let v ← g .expression
        finish "object_assignment_pattern" d n.start [n.withField "left", v.withField "right"]
      else pure n

def object (g : Grammar) : Parse Node :=
  node "object_pattern" do
    punct openBrace
    let items ← holes (property g) closeBrace
    punct closeBrace
    pure items

def pattern (g : Grammar) : Parse Node := do
  let c ← peekChar
  if (← isPunct "...") then rest g
  else if c == '{' then object g
  else if c == '[' then array g
  else target g

def binding (g : Grammar) : Parse Node := do
  let c ← peekChar
  if c == '{' then object g
  else if c == '[' then array g
  else identifier

/-- A parameter of the typed dialects: decorators and modifiers, the pattern or `this`, an
optional mark, a type annotation and a default value. -/
def typedParameter (g : Grammar) : Parse Node :=
  nodeWith do
    let decorators ← many (do
      guard ((← peekChar) == '@')
      let d ← g .decorator
      pure [d])
    let mods ← Typing.modifiers ["public", "private", "protected", "override", "readonly"]
    let p ← if (← isWord "this") then keywordNode "this" "this" else g .pattern
    let marked ← if (← isPunct "?") then do punct "?"; pure true else pure false
    let t ← optional (Typing.ascription g)
    let v ← optional (do punct "="; g .expression)
    let kind := if marked then "optional_parameter" else "required_parameter"
    pure (kind, decorators ++ mods ++ [p.withField "pattern"] ++ t.toList ++ v.toList)

def parameters (g : Grammar) : Parse Node :=
  node "formal_parameters" do
    punct "("
    let item : Parse Node := do
      if (← dialect).typed then typedParameter g else withDefault g
    let ps ← orElse (sepBy ((fun n => [n]) <$> item) (punct ",") true) fun _ => pure []
    punct ")"
    pure ps

end Pattern

end Syntax

end Cyclomatic
