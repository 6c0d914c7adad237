import Cyclomatic.Proofs.Preorder
import Mathlib.Data.List.Nodup

/-!
The walk of an outline with an explicit stack, and the pre-order it yields. Read from the top,
the stack holds the subtrees whose pre-orders make up the rest of the output, and a round keeps
this; the nodes on the stack fall by one each round. So the walk of a tree yields the node at
each address of the tree once, in pre-order.
-/

namespace Cyclomatic

namespace Outline

/-! ### The stack -/

/-- One round of the walk keeps the rest of the output. -/
theorem flatMap_preorder_cons (o : Outline) (stack : List Outline) :
    (o :: stack).flatMap preorder = o :: (o.children ++ stack).flatMap preorder := by
  rw [List.flatMap_cons, preorder_eq, List.flatMap_append, List.cons_append]

theorem walkFrom_eq_flatMap (stack : List Outline) : walkFrom stack = stack.flatMap preorder := by
  fun_induction walkFrom stack with
  | case1 => rfl
  | case2 o stack ih => rw [ih, flatMap_preorder_cons]

theorem length_walkFrom (stack : List Outline) : (walkFrom stack).length = sizeAll stack := by
  fun_induction walkFrom stack with
  | case1 => rfl
  | case2 o stack ih => rw [List.length_cons, ih, sizeAll_children_append]

/-! ### Addresses of nodes -/

/-- The subtree at an address: the tree itself at `[]`, and at `i :: a` the subtree at `a` of
its child at position `i`, counted from 0. -/
def subtree? : Outline → List Nat → Option Outline
  | o, [] => some o
  | o, i :: a => o.children[i]? >>= fun c => subtree? c a

mutual
/-- The addresses of the nodes of a tree, in pre-order. -/
def addresses : Outline → List (List Nat)
  | ⟨_, _, _, cs⟩ => [] :: addressesFrom 0 cs

/-- The addresses of the nodes of sibling trees, the first of them the child at position `i`. -/
def addressesFrom : Nat → List Outline → List (List Nat)
  | _, [] => []
  | i, c :: cs => (addresses c).map (i :: ·) ++ addressesFrom (i + 1) cs
end

theorem addresses_eq (o : Outline) : o.addresses = [] :: addressesFrom 0 o.children := by
  rcases o with ⟨_, _, _, cs⟩
  rw [addresses]

@[simp] theorem subtree?_cons (o : Outline) (i : Nat) (a : List Nat) :
    o.subtree? (i :: a) = o.children[i]? >>= fun c => c.subtree? a := rfl

theorem head_le_of_mem_addressesFrom {i : Nat} {cs : List Outline} {a : List Nat}
    (member : a ∈ addressesFrom i cs) : ∃ j rest, a = j :: rest ∧ i ≤ j := by
  induction cs generalizing i with
  | nil => simp [addressesFrom] at member
  | cons c cs ih =>
    rw [addressesFrom, List.mem_append] at member
    rcases member with here | later
    · obtain ⟨rest, -, rfl⟩ := List.mem_map.mp here
      exact ⟨i, rest, rfl, Nat.le_refl i⟩
    · obtain ⟨j, rest, rfl, le⟩ := ih later
      exact ⟨j, rest, rfl, by omega⟩

theorem nodup_addressesFrom {cs : List Outline} (each : ∀ c ∈ cs, c.addresses.Nodup) (i : Nat) :
    (addressesFrom i cs).Nodup := by
  induction cs generalizing i with
  | nil => exact List.nodup_nil
  | cons c cs ih =>
    rw [addressesFrom]
    refine List.nodup_append.mpr ⟨?block, ?rest, ?apart⟩
    case block => exact (each c List.mem_cons_self).map List.cons_injective
    case rest => exact ih (fun d member => each d (List.mem_cons_of_mem c member)) (i + 1)
    case apart =>
      -- the first child's addresses start at `i`, those of the later ones after it
      intro a here b later same
      subst same
      obtain ⟨rest, -, rfl⟩ := List.mem_map.mp here
      obtain ⟨j, _, same, le⟩ := head_le_of_mem_addressesFrom later
      cases same
      omega

theorem nodup_addresses (o : Outline) : o.addresses.Nodup := by
  induction o using Outline.induction with
  | step o ih =>
    rw [addresses_eq]
    refine List.nodup_cons.mpr ⟨fun root => ?_, nodup_addressesFrom ih 0⟩
    obtain ⟨j, rest, same, -⟩ := head_le_of_mem_addressesFrom root
    cases same

-- the children before `cs` are named so that the position of each child of `cs` is known
theorem map_subtree?_addressesFrom {o : Outline} (pre : List Outline) {cs : List Outline}
    (split : o.children = pre ++ cs)
    (each : ∀ c ∈ cs, c.addresses.map c.subtree? = c.preorder.map some) :
    (addressesFrom pre.length cs).map o.subtree? = (cs.flatMap preorder).map some := by
  induction cs generalizing pre with
  | nil => rfl
  | cons c cs ih =>
    have atC : o.children[pre.length]? = some c := by simp [split]
    have next := ih (pre ++ [c]) (by simp [split])
      (fun d member => each d (List.mem_cons_of_mem c member))
    rw [List.length_append, List.length_singleton] at next
    rw [addressesFrom, List.map_append, next, List.flatMap_cons, List.map_append,
      ← each c List.mem_cons_self, List.map_map]
    congr 1
    apply List.map_congr_left
    intro a _
    simp [subtree?_cons, atC]

/-- The addresses of a tree lead, in order, to the nodes of its pre-order. -/
theorem map_subtree?_addresses (o : Outline) :
    o.addresses.map o.subtree? = o.preorder.map some := by
  induction o using Outline.induction with
  | step o ih =>
    have below := map_subtree?_addressesFrom (o := o) [] (by simp) ih
    rw [List.length_nil] at below
    rw [addresses_eq, preorder_eq, List.map_cons, List.map_cons, below]
    rfl

/-! ### The walk -/

/-- The walk with a stack yields the pre-order. The rest of the output is the pre-orders of the
subtrees on the stack, read from the top, and each round takes one node off the stack. So the
walk of a tree is its pre-order: as many nodes as the tree has, the node at each address of the
tree once, in pre-order. -/
theorem walk_yields_preorder (o : Outline) :
    (∀ stack, walkFrom stack = stack.flatMap preorder) ∧
    (∀ top stack, sizeAll (top.children ++ stack) + 1 = sizeAll (top :: stack)) ∧
    o.walk = o.preorder ∧ o.walk.length = o.size ∧
    o.addresses.Nodup ∧ o.walk.map some = o.addresses.map o.subtree? := by
  have walk_eq : o.walk = o.preorder := by
    rw [walk, walkFrom_eq_flatMap, List.flatMap_singleton]
  refine ⟨walkFrom_eq_flatMap, sizeAll_children_append, walk_eq, ?_, nodup_addresses o, ?_⟩
  · rw [walk, length_walkFrom, sizeAll, sizeAll, Nat.add_zero]
  · rw [walk_eq, map_subtree?_addresses]

example : (⟨"A", none, none, [⟨"B", none, none, [⟨"C", none, none, []⟩]⟩,
    ⟨"D", none, none, []⟩]⟩ : Outline).walk.map (·.kind) = ["A", "B", "C", "D"] := by
  decide +kernel

end Outline

end Cyclomatic
