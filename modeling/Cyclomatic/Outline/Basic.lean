/-!
Outlines: the view of a parsed document that complexity analysis works on. A node has a kind
tag, an optional source span, an optional name and its children in source order; nothing here
checks that spans are ordered or nested. `Outline.walk` is the walk with an explicit stack of
subtrees, as the program runs it.
-/

namespace Cyclomatic

/-- Source range of a node: 1-based lines, 0-based character offsets. -/
structure Span where
  startLine : Int
  endLine : Int
  startOffset : Int
  endOffset : Int
deriving Repr, DecidableEq, Inhabited

def Span.contains (s : Span) (offset : Int) : Bool :=
  s.startOffset ≤ offset && offset ≤ s.endOffset

structure Outline where
  kind : String
  span : Option Span
  name : Option String
  children : List Outline
deriving Repr, Inhabited

namespace Outline

mutual
def preorderOnto : Outline → List Outline → List Outline
  | o@⟨_, _, _, cs⟩, rest => o :: preorderAllOnto cs rest

def preorderAllOnto : List Outline → List Outline → List Outline
  | [], rest => rest
  | c :: cs, rest => preorderOnto c (preorderAllOnto cs rest)
end

def preorder (o : Outline) : List Outline := preorderOnto o []

mutual
def size : Outline → Nat
  | ⟨_, _, _, cs⟩ => 1 + sizeAll cs

def sizeAll : List Outline → Nat
  | [] => 0
  | c :: cs => c.size + sizeAll cs
end

theorem sizeAll_append (cs ds : List Outline) : sizeAll (cs ++ ds) = sizeAll cs + sizeAll ds := by
  induction cs with
  | nil => simp [sizeAll]
  | cons c cs ih => simp only [List.cons_append, sizeAll, ih, Nat.add_assoc]

/-- Replacing the top of a stack of trees by its children takes one node off the stack. -/
theorem sizeAll_children_append (o : Outline) (stack : List Outline) :
    sizeAll (o.children ++ stack) + 1 = sizeAll (o :: stack) := by
  rcases o with ⟨_, _, _, cs⟩
  simp only [sizeAll_append, sizeAll, size]
  omega

/-- The walk over a stack of trees, the top first: pops the top, yields it, and pushes its
children so that the first of them is on top. Each round takes one node off the stack. -/
def walkFrom : List Outline → List Outline
  | [] => []
  | o :: stack => o :: walkFrom (o.children ++ stack)
termination_by stack => sizeAll stack
decreasing_by
  have fewer := sizeAll_children_append o stack
  omega

def walk (o : Outline) : List Outline := walkFrom [o]

/-- A chain of `depth` nodes of one kind, each the only child of the one before, with `inner`
(if any) below the last. -/
def chain (kind : String) (inner : Option Outline) : Nat → Outline
  | 0 => inner.getD ⟨kind, none, none, []⟩
  | 1 => ⟨kind, none, none, inner.toList⟩
  | n + 2 => ⟨kind, none, none, [chain kind inner (n + 1)]⟩

end Outline

end Cyclomatic
