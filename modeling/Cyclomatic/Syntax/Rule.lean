import Cyclomatic.Syntax.Reader

/-!
The constructs that the grammar modules parse for one another.

The grammar is mutually recursive across modules: a statement holds expressions, an
expression holds function bodies, a class body holds both. Each module writes its
constructs against a `Grammar`, a way to parse any `Rule`, and `Grammar.run` in the module
that ties them together gives each rule the grammar one level down. The number of levels is
bounded by the length of the text, so every parse ends.
-/

namespace Cyclomatic

namespace Syntax

/-- The constructs the grammar modules ask of one another. -/
inductive Rule : Type → Type where
  | statement : Rule Node
  | block : Rule Node
  | expression : Rule Node
  | expressions : Rule Node
  /-- A binary expression whose operators bind at least as tightly as a level. -/
  | binary (level : Nat) : Rule Node
  | unary : Rule Node
  | leftSide : Rule Node
  /-- A pattern that a value is taken apart into. -/
  | pattern : Rule Node
  | parameters : Rule Node
  | classBody : Rule Node
  | markup : Rule Node
  | type : Rule Node
  /-- A type without a top-level conditional. -/
  | unionType : Rule Node
  | postfixType : Rule Node
  | typeArguments : Rule Node
  | typeParameters : Rule Node
  /-- An object type in braces; the flag makes it an interface body. -/
  | objectType (interface : Bool) : Rule Node
  | decorator : Rule Node

abbrev Grammar := ∀ {α : Type}, Rule α → Parse α

end Syntax

end Cyclomatic
