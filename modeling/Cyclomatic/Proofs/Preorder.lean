import Cyclomatic.Outline.Basic
import Cyclomatic.Syntax.Tree
import Mathlib.Data.List.Basic

/-!
Pre-order walks of outlines and of syntax trees. The walk of a node is the node followed by the
walks of its children in order; every node of the subtree is visited once. Both kinds of tree
hold their children in a list, so each gets an induction principle whose hypothesis ranges
over the members of that list.
-/

namespace Cyclomatic

namespace Outline

theorem induction {motive : Outline → Prop}
    (step : ∀ o, (∀ c ∈ o.children, motive c) → motive o) (o : Outline) : motive o :=
  Outline.rec (motive_1 := motive) (motive_2 := fun cs => ∀ c ∈ cs, motive c)
    (fun kind span name cs below => step ⟨kind, span, name, cs⟩ below)
    (List.forall_mem_nil motive)
    (fun _ _ first rest => List.forall_mem_cons.mpr ⟨first, rest⟩)
    o

mutual
theorem preorderOnto_eq_append : ∀ (o : Outline) (rest : List Outline),
    preorderOnto o rest = preorderOnto o [] ++ rest
  | ⟨_, _, _, cs⟩, rest => by
    simp only [preorderOnto, List.cons_append]
    rw [preorderAllOnto_eq_append cs rest]

theorem preorderAllOnto_eq_append : ∀ (cs rest : List Outline),
    preorderAllOnto cs rest = preorderAllOnto cs [] ++ rest
  | [], _ => rfl
  | c :: cs, rest => by
    simp only [preorderAllOnto]
    rw [preorderAllOnto_eq_append cs rest, preorderOnto_eq_append c,
      preorderOnto_eq_append c (preorderAllOnto cs []), List.append_assoc]
end

theorem preorderAllOnto_nil (cs : List Outline) :
    preorderAllOnto cs [] = cs.flatMap preorder := by
  induction cs with
  | nil => rfl
  | cons c cs ih =>
    rw [preorderAllOnto, preorderOnto_eq_append, ih, List.flatMap_cons]
    rfl

/-- The walk of a node: the node, then the walks of its children in order. -/
theorem preorder_eq (o : Outline) : o.preorder = o :: o.children.flatMap preorder := by
  rcases o with ⟨kind, span, name, cs⟩
  simp only [preorder, preorderOnto, preorderAllOnto_nil]

theorem mem_preorder_self (o : Outline) : o ∈ o.preorder := by
  rw [preorder_eq]
  exact List.mem_cons_self

/-- A node of a subtree is a node of the whole tree. -/
theorem mem_preorder_trans {o d x : Outline} (inner : d ∈ o.preorder) (deep : x ∈ d.preorder) :
    x ∈ o.preorder := by
  induction o using Outline.induction with
  | step o ih =>
    rw [preorder_eq] at inner ⊢
    rcases List.mem_cons.mp inner with same | below
    · subst same
      rwa [preorder_eq] at deep
    · obtain ⟨c, member, inC⟩ := List.mem_flatMap.mp below
      exact List.mem_cons_of_mem _ (List.mem_flatMap.mpr ⟨c, member, ih c member inC⟩)

end Outline

namespace Syntax.Node

theorem induction {motive : Node → Prop}
    (step : ∀ n, (∀ c ∈ n.children, motive c) → motive n) (n : Node) : motive n :=
  Node.rec (motive_1 := motive) (motive_2 := fun cs => ∀ c ∈ cs, motive c)
    (fun kind field start stop cs op below => step ⟨kind, field, start, stop, cs, op⟩ below)
    (List.forall_mem_nil motive)
    (fun _ _ first rest => List.forall_mem_cons.mpr ⟨first, rest⟩)
    n

mutual
/-- The nodes of a syntax tree, the root first, each before the nodes of its children. -/
def preorder : Node → List Node
  | n@⟨_, _, _, _, cs, _⟩ => n :: preorderAll cs

/-- The pre-orders of a list of trees, one after the other. -/
def preorderAll : List Node → List Node
  | [] => []
  | c :: cs => preorder c ++ preorderAll cs
end

mutual
/-- The pre-order of a tree, each node with the node that holds it. -/
def preorderFrom (parent : Option Node) : Node → List (Option Node × Node)
  | n@⟨_, _, _, _, cs, _⟩ => (parent, n) :: preorderFromAll n cs

/-- The pre-orders of the children of `parent`, one after the other. -/
def preorderFromAll (parent : Node) : List Node → List (Option Node × Node)
  | [] => []
  | c :: cs => preorderFrom (some parent) c ++ preorderFromAll parent cs
end

theorem preorderAll_eq (cs : List Node) : preorderAll cs = cs.flatMap preorder := by
  induction cs with
  | nil => rfl
  | cons c cs ih => rw [preorderAll, ih, List.flatMap_cons]

theorem preorderFromAll_eq (parent : Node) (cs : List Node) :
    preorderFromAll parent cs = cs.flatMap (preorderFrom (some parent)) := by
  induction cs with
  | nil => rfl
  | cons c cs ih => rw [preorderFromAll, ih, List.flatMap_cons]

theorem preorder_eq (n : Node) : n.preorder = n :: n.children.flatMap preorder := by
  rcases n with ⟨kind, field, start, stop, cs, op⟩
  simp only [preorder, preorderAll_eq]

theorem preorderFrom_eq (parent : Option Node) (n : Node) :
    n.preorderFrom parent = (parent, n) :: n.children.flatMap (preorderFrom (some n)) := by
  rcases n with ⟨kind, field, start, stop, cs, op⟩
  simp only [preorderFrom, preorderFromAll_eq]

/-- Forgetting the parents of a walk with parents leaves the walk. -/
theorem preorderFrom_map_snd (parent : Option Node) (n : Node) :
    (n.preorderFrom parent).map Prod.snd = n.preorder := by
  induction n using Node.induction generalizing parent with
  | step n ih =>
    rw [preorderFrom_eq, preorder_eq, List.map_cons, List.map_flatMap]
    congr 1
    exact List.flatMap_congr fun c member => ih c member (some n)

theorem mem_preorder_self (n : Node) : n ∈ n.preorder := by
  rw [preorder_eq]
  exact List.mem_cons_self

theorem mem_preorder_of_mem_children {n c : Node} (child : c ∈ n.children) : c ∈ n.preorder := by
  rw [preorder_eq]
  exact List.mem_cons_of_mem _ (List.mem_flatMap.mpr ⟨c, child, mem_preorder_self c⟩)

/-- A node of a subtree is a node of the whole tree. -/
theorem mem_preorder_trans {n d x : Node} (inner : d ∈ n.preorder) (deep : x ∈ d.preorder) :
    x ∈ n.preorder := by
  induction n using Node.induction with
  | step n ih =>
    rw [preorder_eq] at inner ⊢
    rcases List.mem_cons.mp inner with same | below
    · subst same
      rwa [preorder_eq] at deep
    · obtain ⟨c, member, inC⟩ := List.mem_flatMap.mp below
      exact List.mem_cons_of_mem _ (List.mem_flatMap.mpr ⟨c, member, ih c member inC⟩)

end Syntax.Node

end Cyclomatic
