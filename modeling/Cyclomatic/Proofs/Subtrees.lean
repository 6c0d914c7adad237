import Cyclomatic.Proofs.OffsetLookup

/-!
Subtrees in a walk. In the pre-order walk of an outline every node is followed at once by the
rest of its own walk, so the walk of a node below the root is one block of the root's walk.
Hence a node's complexity exceeds that of a node below it by exactly the branch nodes outside
that block, and the function under an offset, the last function of the walk holding it, is the
innermost one.
-/

namespace Cyclomatic

theorem exists_split_of_getLast?_filter {α : Type} {l : List α} {p : α → Bool} {x : α}
    (last : (l.filter p).getLast? = some x) :
    ∃ before after, l = before ++ x :: after ∧ ∀ y ∈ after, p y = false := by
  obtain ⟨earlier, ends⟩ := List.getLast?_eq_some_iff.mp last
  obtain ⟨front, back, split, -, lastOnly⟩ := List.filter_eq_append_iff.mp ends
  obtain ⟨middle, after, backSplit, -, -, none⟩ := List.filter_eq_cons_iff.mp lastOnly
  refine ⟨front ++ middle, after, by rw [split, backSplit, List.append_assoc], ?_⟩
  intro y member
  exact Bool.eq_false_iff.mpr (List.filter_eq_nil_iff.mp none y member)

namespace Outline

/-! ### Blocks of a walk -/

theorem flatMap_preorder_prefix {x : Outline} (cs : List Outline)
    (inChild : ∀ c ∈ cs, ∀ before after, c.preorder = before ++ x :: after →
      x.preorder <+: x :: after) :
    ∀ before after, cs.flatMap preorder = before ++ x :: after → x.preorder <+: x :: after := by
  induction cs with
  | nil =>
    intro before after split
    simp at split
  | cons c cs ih =>
    intro before after split
    rw [List.flatMap_cons, List.append_eq_append_iff] at split
    rcases split with ⟨between, _, rest⟩ | ⟨inner, inFirst, tail⟩
    · -- the position lies in the walks of the later children
      exact ih (fun c' member => inChild c' (List.mem_cons_of_mem c member)) between after rest
    · cases inner with
      | nil =>
        -- the first child's walk ends just before the position
        exact ih (fun c' member => inChild c' (List.mem_cons_of_mem c member)) [] after
          (by simpa using tail.symm)
      | cons y inner =>
        -- the position lies in the first child's walk
        obtain ⟨same, after_eq⟩ := List.cons_eq_cons.mp tail
        subst same
        rw [after_eq]
        exact (inChild c List.mem_cons_self before inner inFirst).trans
          ((List.prefix_cons_inj x).mpr (List.prefix_append inner _))

theorem preorder_prefix_of_eq_append {o x : Outline} {before after : List Outline}
    (split : o.preorder = before ++ x :: after) : x.preorder <+: x :: after := by
  induction o using Outline.induction generalizing before after with
  | step o ih =>
    rw [preorder_eq] at split
    cases before with
    | nil =>
      -- the position is the root itself
      obtain ⟨same, rest⟩ := List.cons_eq_cons.mp split
      subst same
      exact ⟨[], by rw [List.append_nil, preorder_eq, ← rest]⟩
    | cons y before =>
      exact flatMap_preorder_prefix o.children (fun c member => @ih c member) before after
        (List.cons_eq_cons.mp split).2

/-- The walk of a node below the root is one block of the root's walk. -/
theorem exists_block_of_mem_preorder {o d : Outline} (member : d ∈ o.preorder) :
    ∃ before after, o.preorder = before ++ d.preorder ++ after := by
  obtain ⟨before, rest, split⟩ := List.append_of_mem member
  obtain ⟨after, block⟩ := preorder_prefix_of_eq_append split
  exact ⟨before, after, by rw [split, ← block, List.append_assoc]⟩

/-! ### Complexity -/

def statementBranchTags : List String :=
  ["IfStatement", "ForStatement", "WhileStatement", "DoWhileStatement", "SwitchCase"]

/-- The branch kinds are the statement tags, and the logical expression tag when logical
operators count, compared as exact strings. -/
theorem isBranch_iff (countLogical : Bool) (o : Outline) :
    o.isBranch countLogical = true ↔
      o.kind ∈ statementBranchTags ∨
        (countLogical = true ∧ o.kind = "LogicalExpression") := by
  unfold isBranch tagIn Construct.branches statementBranchTags
  cases countLogical <;>
    simp only [List.any_append, List.any_cons, List.any_nil, Construct.tag, if_true, if_false,
      Bool.false_eq_true, Bool.or_false, Bool.or_eq_true, beq_iff_eq, List.mem_cons,
      List.not_mem_nil, or_false, true_and, false_and, @eq_comm _ _ o.kind, or_assoc]

theorem isBranch_true (o : Outline) :
    o.isBranch true = (o.isBranch false || o.kind == "LogicalExpression") := by
  unfold isBranch tagIn Construct.branches
  simp only [List.any_append, if_true, if_false, Bool.false_eq_true, List.any_cons, List.any_nil,
    Bool.or_false, Construct.tag, Bool.beq_comm (a := "LogicalExpression")]

theorem not_isBranch_false_of_logical {o : Outline} (logical : o.kind = "LogicalExpression") :
    o.isBranch false = false := by
  unfold isBranch tagIn Construct.branches
  simp [Construct.tag, logical]

theorem complexity_eq_countP (countLogical : Bool) (o : Outline) :
    o.complexity countLogical = 1 + o.preorder.countP (isBranch countLogical) := by
  rw [complexity, List.countP_eq_length_filter]

theorem countP_isBranch_true (nodes : List Outline) :
    nodes.countP (isBranch true) =
      nodes.countP (isBranch false) + nodes.countP (·.kind == "LogicalExpression") := by
  induction nodes with
  | nil => rfl
  | cons o nodes ih =>
    simp only [List.countP_cons, ih, isBranch_true]
    by_cases logical : o.kind = "LogicalExpression"
    · simp [logical, not_isBranch_false_of_logical logical]
      omega
    · simp [logical]
      omega

/-- A node's complexity is the complexity of a node below it plus the branches of its walk
outside that node's block. -/
theorem complexity_eq_add_outside (countLogical : Bool) {o d : Outline}
    (member : d ∈ o.preorder) :
    ∃ before after, o.preorder = before ++ d.preorder ++ after ∧
      o.complexity countLogical =
        d.complexity countLogical + (before ++ after).countP (isBranch countLogical) := by
  obtain ⟨before, after, block⟩ := exists_block_of_mem_preorder member
  refine ⟨before, after, block, ?_⟩
  rw [complexity_eq_countP, complexity_eq_countP, block]
  simp only [List.countP_append]
  omega

/-- A node scores at least as much as any node below it. -/
theorem complexity_le_of_mem_preorder (countLogical : Bool) {o d : Outline}
    (member : d ∈ o.preorder) : d.complexity countLogical ≤ o.complexity countLogical := by
  obtain ⟨before, after, -, sum⟩ := complexity_eq_add_outside countLogical member
  omega

/-- Complexity counts the branch nodes of the whole subtree, the node included, with the branch
kinds compared as exact strings. A node below scores less by exactly the branches outside its
own block of the walk, so a branch inside a nested function counts toward every function around
it. Counting logical operators adds exactly the logical expressions. A score carries the
complexity, the name, and the lines less one, or `-1` for both without a span. -/
theorem complexity_counts_branches_of_subtree (countLogical : Bool) (o : Outline) :
    o.complexity countLogical = 1 + o.preorder.countP (fun d =>
      d.kind ∈ statementBranchTags ∨ (countLogical = true ∧ d.kind = "LogicalExpression")) ∧
    (∀ d ∈ o.preorder, ∃ before after, o.preorder = before ++ d.preorder ++ after ∧
      o.complexity countLogical =
        d.complexity countLogical + (before ++ after).countP (isBranch countLogical)) ∧
    o.complexity true = o.complexity false + o.preorder.countP (·.kind == "LogicalExpression") ∧
    o.score countLogical =
      { complexity := o.complexity countLogical,
        startLine := (o.span.map (·.startLine - 1)).getD (-1),
        endLine := (o.span.map (·.endLine - 1)).getD (-1),
        name := o.name } := by
  refine ⟨?_, fun d member => complexity_eq_add_outside countLogical member, ?_, ?_⟩
  · rw [complexity_eq_countP]
    congr 1
    exact List.countP_congr fun d _ => by simpa using isBranch_iff countLogical d
  · rw [complexity_eq_countP, complexity_eq_countP, countP_isBranch_true]
    omega
  · unfold score
    cases o.span <;> rfl

/-- An arrow function whose branch holds a logical expression. -/
def innerArrow : Outline :=
  ⟨"ArrowFunctionExpression", some ⟨3, 3, 20, 40⟩, some "inner",
    [⟨"IfStatement", some ⟨3, 3, 26, 38⟩, none,
      [⟨"LogicalExpression", some ⟨3, 3, 30, 36⟩, none, []⟩]⟩]⟩

/-- A declared function with a branch around `innerArrow`. -/
def outerDeclaration : Outline :=
  ⟨"FunctionDeclaration", some ⟨1, 5, 0, 60⟩, some "outer",
    [⟨"IfStatement", some ⟨2, 4, 10, 50⟩, none, [innerArrow]⟩]⟩

/-- The arrow's branch counts toward the declared function too, which has one more of its own. -/
theorem nested_function_scores_within_outer :
    innerArrow ∈ outerDeclaration.preorder ∧
      innerArrow.complexity false ≤ outerDeclaration.complexity false := by
  have member : innerArrow ∈ outerDeclaration.preorder := by
    rw [show outerDeclaration.preorder =
      [outerDeclaration, ⟨"IfStatement", some ⟨2, 4, 10, 50⟩, none, [innerArrow]⟩] ++
        innerArrow.preorder from rfl]
    exact List.mem_append_right _ (mem_preorder_self innerArrow)
  obtain ⟨before, after, -, sum⟩ :=
    (complexity_counts_branches_of_subtree false outerDeclaration).2.1 innerArrow member
  exact ⟨member, by omega⟩

/-! ### The function under an offset -/

theorem encloses_eq_true_iff (offset : Int) (g : Outline) :
    encloses offset g = true ↔ g.isFunction = true ∧ g.Spans offset := by
  rw [encloses, Bool.and_eq_true, spans_iff]

/-- The function under an offset is the last function of the walk whose span holds it, and there
is none when no function holds it. It is innermost: the nodes below it come right after it in
the walk, and no function after it there holds the offset, so none below it does. -/
theorem enclosing_is_innermost_last (root : Outline) (offset : Int) :
    root.enclosing offset =
      (root.functions.filter fun f => f.span.any (·.contains offset)).getLast? ∧
    (root.enclosing offset = none ↔ ∀ f ∈ root.functions, ¬ f.Spans offset) ∧
    ∀ m, root.enclosing offset = some m →
      m.isFunction = true ∧ m.Spans offset ∧
      (∀ d ∈ m.children.flatMap preorder, d.isFunction = true → ¬ d.Spans offset) ∧
      ∃ before after, root.preorder = before ++ m :: after ∧ m.preorder <+: m :: after ∧
        ∀ g ∈ after, g.isFunction = true → ¬ g.Spans offset := by
  have passes : ∀ g, encloses offset g = false → g.isFunction = true → ¬ g.Spans offset := by
    intro g outside fn held
    rw [(encloses_eq_true_iff offset g).mpr ⟨fn, held⟩] at outside
    cases outside
  refine ⟨enclosing_eq root offset, ?_, ?_⟩
  · rw [enclosing_eq, getLast?_filter_spans_eq_none]
  · intro m found
    obtain ⟨before, after, split, later⟩ := exists_split_of_getLast?_filter found
    obtain ⟨fn, held⟩ :=
      (encloses_eq_true_iff offset m).mp (List.mem_filter.mp (List.mem_of_getLast? found)).2
    have block := preorder_prefix_of_eq_append split
    have afterOnly : ∀ g ∈ after, g.isFunction = true → ¬ g.Spans offset :=
      fun g member => passes g (later g member)
    refine ⟨fn, held, ?_, before, after, split, block, afterOnly⟩
    -- the nodes below `m` are the rest of its walk, which comes right after it
    have below : m.children.flatMap preorder <+: after := by
      rw [preorder_eq] at block
      exact (List.prefix_cons_inj m).mp block
    exact fun d member => afterOnly d (below.subset member)

/-- An offset inside the arrow lands on the arrow, not on the function around it, and nothing
below the arrow is a function holding it. -/
theorem enclosing_lands_on_inner_arrow :
    outerDeclaration.enclosing 32 = some innerArrow ∧
      ∀ d ∈ innerArrow.children.flatMap preorder, d.isFunction = true → ¬ d.Spans 32 :=
  have found : outerDeclaration.enclosing 32 = some innerArrow := rfl
  ⟨found, ((enclosing_is_innermost_last outerDeclaration 32).2.2 innerArrow found).2.2.1⟩

end Outline

end Cyclomatic
