import Cyclomatic.Syntax.Expression

/-!
Class bodies: methods, fields, static blocks and, in the typed dialects, method signatures,
abstract methods and index signatures.

In the plain dialect the decorators of a member belong to the member's node. In the typed
dialects the decorators of a method stand beside it in the body, while those of a field
belong to the field.
-/

namespace Cyclomatic

namespace Syntax

namespace Class

open Parse

def decorators (g : Grammar) : Parse (List Node) :=
  many do
    guard ((← peekChar) == '@')
    let d ← g .decorator
    pure [d]

def staticBlock (g : Grammar) : Parse Node :=
  node "class_static_block" do
    keyword "static"
    guard ((← peekChar) == '{')
    let b ← g .block
    pure [b.withField "body"]

/-- The groups of modifier words a field of the typed dialects may have after its `declare` and
accessibility part, each group in its order: one group is chosen by its first word. -/
def fieldModifierGroups : List (List String) :=
  [["static", "override", "readonly"], ["abstract", "readonly"], ["readonly", "abstract"],
   ["accessor"]]

/-- Reads modifiers that follow one another in a fixed order, each one only where it is a
modifier rather than the member's name. -/
def orderedModifiers : List String → Parse (List Node)
  | [] => pure []
  | w :: rest => do
    if (← isWord w) && (← Expression.modifierAhead w) then
      let m ← Typing.modifierNode w
      pure (m ++ (← orderedModifiers rest))
    else orderedModifiers rest

/-- The modifiers of a field in the typed dialects: `declare` and an accessibility modifier in
either order, then one group of `fieldModifierGroups`. -/
def fieldModifiers : Parse (List Node) := do
  let access := ["public", "private", "protected"]
  let first ← do
    let w ← peekWord
    if w == "declare" && (← Expression.modifierAhead w) then
      keyword "declare"
      let v ← peekWord
      if access.contains v && (← Expression.modifierAhead v) then Typing.modifierNode v
      else pure []
    else if access.contains w && (← Expression.modifierAhead w) then
      let m ← Typing.modifierNode w
      if (← isWord "declare") && (← Expression.modifierAhead "declare") then keyword "declare"
      pure m
    else pure []
  let w ← peekWord
  let group := (fieldModifierGroups.find? fun grp => grp.head? == some w).getD ["static", "override", "readonly"]
  let rest ← orderedModifiers group
  pure (first ++ rest)

/-- A field: decorators, modifiers, a name, in the typed dialects an optional or definite
mark and a type, and an initial value. -/
def field (g : Grammar) : Parse (Node × Bool) := do
  let typed := (← dialect).typed
  let n ← nodeWith do
    let ds ← decorators g
    let ms ← if typed then fieldModifiers
      else do
        if (← isWord "static") && (← Expression.modifierAhead "static") then keyword "static"
        pure []
    let name ← propertyName g
    if typed then
      if (← isPunct "?") then punct "?" else if (← isPunct "!") then punct "!"
    let t ← if typed && (← isPunct ":") then (fun a => [a]) <$> Typing.ascription g else pure []
    let v ← if (← isPunct "=") then do punct "="; (fun e => [e.withField "value"]) <$> g .expression
      else pure []
    let kind := if typed then "public_field_definition" else "field_definition"
    let nameField := if typed then "name" else "property"
    pure (kind, ds ++ ms ++ [name.withField nameField] ++ t ++ v)
  let initialized := n.children.any (·.field == "value")
  pure (n, initialized)

def indexSignature (g : Grammar) : Parse Node := Typing.indexSignature g

/-- The end of a member that needs one: a semicolon, or in the typed dialects a comma. -/
def memberEnd (typed afterComment : Bool) : Parse Unit := do
  if typed && (← isPunct ",") then punct "," else semicolon afterComment

def member (g : Grammar) : Parse (List Node) := do
  let typed := (← dialect).typed
  if (← isPunct ";") then do punct ";"; pure []
  else if (← isWord "static") && (← succeeds (do keyword "static"; guard ((← peekChar) == '{'))) then
    (fun b => [b]) <$> staticBlock g
  else if typed then
    let asMethod : Parse (List Node) := do
      let ds ← decorators g
      let m ← Expression.method g true
      if m.kind == "method_definition" then
        if (← isPunct ";") then punct ";"
      else memberEnd true true
      pure (ds ++ [m])
    let asField : Parse (List Node) := do
      let (f, initialized) ← field g
      memberEnd true !initialized
      pure [f]
    let asIndex : Parse (List Node) := do
      let i ← indexSignature g
      memberEnd true true
      pure [i]
    orElse asMethod fun _ => orElse asField fun _ => asIndex
  else
    let asMethod : Parse (List Node) := do
      let m ← nodeWith do
        let ds ← decorators g
        let (kind, kids) ← Expression.methodParts g true
        pure (kind, ds ++ kids)
      if (← isPunct ";") then punct ";"
      pure [m]
    let asField : Parse (List Node) := do
      let (f, initialized) ← field g
      semicolon !initialized
      pure [f]
    orElse asMethod fun _ => asField

def body (g : Grammar) : Parse Node :=
  node "class_body" do
    punct openBrace
    let ms ← many do
      guard !(← isPunct closeBrace)
      member g
    punct closeBrace
    pure ms

end Class

end Syntax

end Cyclomatic
