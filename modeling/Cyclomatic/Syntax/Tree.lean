/-!
Concrete syntax trees.

A node has the grammar's name for what it is, the field under which its parent holds it (empty
for none), the positions of its first and last characters, and its named children in source
order. Punctuation and keywords are not kept, except the operator of a binary expression,
which decides whether the expression is a logical one.
-/

namespace Cyclomatic

namespace Syntax

structure Node where
  kind : String
  field : String := ""
  start : Nat
  stop : Nat
  children : List Node := []
  op : String := ""
deriving Inhabited, Repr

namespace Node

mutual

def size : Node → Nat
  | ⟨_, _, _, _, cs, _⟩ => 1 + sizeAll cs

def sizeAll : List Node → Nat
  | [] => 0
  | n :: ns => size n + sizeAll ns

end

mutual

/-- The kind of the first leaf of no width at a position, in preorder. -/
def emptyLeafAt (p : Nat) : Node → Option String
  | ⟨kind, _, start, stop, cs, _⟩ =>
    if cs.isEmpty then (if start == p && stop == p then some kind else none)
    else emptyLeafAtAll p cs

def emptyLeafAtAll (p : Nat) : List Node → Option String
  | [] => none
  | n :: ns =>
    match emptyLeafAt p n with
    | some k => some k
    | none => emptyLeafAtAll p ns

end

def child? (n : Node) (field : String) : Option Node :=
  n.children.find? (·.field == field)

def withField (n : Node) (field : String) : Node := { n with field }

def leaf (kind : String) (start stop : Nat) : Node := { kind, start, stop }

end Node

end Syntax

end Cyclomatic
