/-!
Full syntax trees, as a parser reports a text it had to repair.

Every child is kept, named or not. Text the parser passed over is held by a node of type
`ERROR`, and a token it took as present without reading it is a missing node: these are the
marks of the repair. Each node also says whether its subtree holds a mark, and where it starts,
by row and column from 0. The first mark is found by a depth-first search over a stack of nodes
that enters only the children that hold a mark or are one.
-/

namespace Cyclomatic

namespace Syntax

/-- A node of a full syntax tree: its type, whether it is a token taken as present, whether its
subtree holds a mark of repair, the row and column where it starts, and all its children. -/
structure FullNode where
  type : String
  isMissing : Bool
  hasError : Bool
  row : Nat
  column : Nat
  children : List FullNode
deriving Repr, Inhabited

namespace FullNode

mutual

def size : FullNode → Nat
  | ⟨_, _, _, _, _, cs⟩ => 1 + sizeAll cs

def sizeAll : List FullNode → Nat
  | [] => 0
  | n :: ns => size n + sizeAll ns

end

def isMark (n : FullNode) : Bool := n.type == "ERROR" || n.isMissing

/-- The children the search enters: those whose subtree holds a mark, and missing tokens. -/
def entered (n : FullNode) : List FullNode :=
  n.children.filter fun c => c.hasError || c.isMissing

theorem sizeAll_append (ns ms : List FullNode) : sizeAll (ns ++ ms) = sizeAll ns + sizeAll ms := by
  induction ns with
  | nil => simp [sizeAll]
  | cons n ns ih => simp only [List.cons_append, sizeAll, ih, Nat.add_assoc]

theorem sizeAll_filter_le (p : FullNode → Bool) (ns : List FullNode) :
    sizeAll (ns.filter p) ≤ sizeAll ns := by
  induction ns with
  | nil => simp [sizeAll]
  | cons n ns ih =>
    by_cases keep : p n = true
    · simp only [List.filter_cons_of_pos keep, sizeAll]
      omega
    · simp only [List.filter_cons_of_neg keep, sizeAll]
      omega

theorem sizeAll_entered_lt (n : FullNode) (stack : List FullNode) :
    sizeAll (n.entered ++ stack) < sizeAll (n :: stack) := by
  have fewer := sizeAll_filter_le (fun c => c.hasError || c.isMissing) n.children
  rcases n with ⟨_, _, _, _, _, cs⟩
  simp only [sizeAll_append, sizeAll, size, entered] at fewer ⊢
  omega

/-- The search: pops the top of the stack, returns it if it is a mark, and otherwise pushes the
children it enters, the first of them on top. -/
def firstMark : List FullNode → Option FullNode
  | [] => none
  | n :: stack => if n.isMark then some n else firstMark (n.entered ++ stack)
termination_by stack => sizeAll stack
decreasing_by exact sizeAll_entered_lt n stack

def findFirstError (root : FullNode) : Option FullNode := firstMark [root]

end FullNode

end Syntax

end Cyclomatic
