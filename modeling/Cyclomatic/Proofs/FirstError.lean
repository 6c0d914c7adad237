import Cyclomatic.Analysis.Document
import Mathlib.Data.List.Basic

/-!
The first mark of repair in a full syntax tree. The search of `findFirstError` enters only the
children that hold a mark or are one. Under the parser's invariant that a node is marked as
holding an error exactly when its subtree holds a mark (`WellMarked`), the children it leaves
out hold none, so the search finds the first mark in document order, and a text that does not
parse is reported at that mark.
-/

namespace Cyclomatic

namespace Syntax.FullNode

theorem induction {motive : FullNode → Prop}
    (step : ∀ n, (∀ c ∈ n.children, motive c) → motive n) (n : FullNode) : motive n :=
  FullNode.rec (motive_1 := motive) (motive_2 := fun cs => ∀ c ∈ cs, motive c)
    (fun type missing marked row column cs below => step ⟨type, missing, marked, row, column, cs⟩ below)
    (List.forall_mem_nil motive)
    (fun _ _ first rest => List.forall_mem_cons.mpr ⟨first, rest⟩)
    n

mutual
/-- The nodes of a full tree in document order: the root first, each node before the nodes of
its children, all children included. -/
def preorder : FullNode → List FullNode
  | n@⟨_, _, _, _, _, cs⟩ => n :: preorderAll cs

def preorderAll : List FullNode → List FullNode
  | [] => []
  | c :: cs => preorder c ++ preorderAll cs
end

theorem preorderAll_eq (cs : List FullNode) : preorderAll cs = cs.flatMap preorder := by
  induction cs with
  | nil => rfl
  | cons c cs ih => rw [preorderAll, ih, List.flatMap_cons]

theorem preorder_eq (n : FullNode) : n.preorder = n :: n.children.flatMap preorder := by
  rcases n with ⟨type, missing, marked, row, column, cs⟩
  rw [preorder, preorderAll_eq]

theorem mem_preorder_self (n : FullNode) : n ∈ n.preorder := by
  rw [preorder_eq]
  exact List.mem_cons_self

theorem preorder_subset_of_child {n c : FullNode} (child : c ∈ n.children) :
    c.preorder ⊆ n.preorder := by
  intro m below
  rw [preorder_eq]
  exact List.mem_cons_of_mem _ (List.mem_flatMap.mpr ⟨c, child, below⟩)

/-- The parser's invariant on a tree: every node is marked as holding an error exactly when its
subtree, over all its children, holds a mark of repair. -/
def WellMarked (root : FullNode) : Prop :=
  ∀ n ∈ root.preorder, (n.hasError = true ↔ ∃ m ∈ n.preorder, m.isMark = true)

instance : DecidablePred WellMarked := fun root =>
  inferInstanceAs (Decidable (∀ n ∈ root.preorder,
    (n.hasError = true ↔ ∃ m ∈ n.preorder, m.isMark = true)))

theorem WellMarked.child {n c : FullNode} (h : WellMarked n) (child : c ∈ n.children) :
    WellMarked c :=
  fun m below => h m (preorder_subset_of_child child below)

/-- A tree whose root is not marked as holding an error has no mark of repair. -/
theorem WellMarked.find?_eq_none {n : FullNode} (h : WellMarked n) (clean : n.hasError = false) :
    n.preorder.find? isMark = none := by
  rw [List.find?_eq_none]
  intro m below mark
  have holds := (h n (mem_preorder_self n)).mpr ⟨m, below, by simpa using mark⟩
  rw [clean] at holds
  cases holds

theorem find?_flatMap_filter {p : FullNode → Bool} (cs : List FullNode)
    (clean : ∀ c ∈ cs, p c = false → (c.preorder).find? isMark = none) :
    ((cs.filter p).flatMap preorder).find? isMark = (cs.flatMap preorder).find? isMark := by
  induction cs with
  | nil => rfl
  | cons c cs ih =>
    have rest := ih fun d member => clean d (List.mem_cons_of_mem c member)
    by_cases keep : p c = true
    · rw [List.filter_cons_of_pos keep, List.flatMap_cons, List.flatMap_cons, List.find?_append,
        List.find?_append, rest]
    · rw [List.filter_cons_of_neg keep, List.flatMap_cons, List.find?_append,
        clean c List.mem_cons_self (by simpa using keep), Option.none_or, rest]

/-- The children the search leaves out hold no mark, so its first mark below a node is the
first mark below all the node's children. -/
theorem find?_entered {n : FullNode} (h : WellMarked n) :
    (n.entered.flatMap preorder).find? isMark = (n.children.flatMap preorder).find? isMark := by
  apply find?_flatMap_filter
  intro c child skipped
  have clean : c.hasError = false := by
    simp only [Bool.or_eq_false_iff] at skipped
    exact skipped.1
  exact (h.child child).find?_eq_none clean

theorem firstMark_nil : firstMark [] = none := by
  rw [firstMark]

theorem firstMark_mark {n : FullNode} (stack : List FullNode) (mark : n.isMark = true) :
    firstMark (n :: stack) = some n := by
  rw [firstMark, if_pos mark]

theorem firstMark_unmarked {n : FullNode} (stack : List FullNode) (unmarked : n.isMark = false) :
    firstMark (n :: stack) = firstMark (n.entered ++ stack) := by
  rw [firstMark, if_neg (by simp [unmarked])]

/-- The search over a stack of well-marked trees finds the first mark of their pre-orders, taken
one after the other from the top. -/
theorem firstMark_eq_find? (stack : List FullNode) (h : ∀ n ∈ stack, WellMarked n) :
    firstMark stack = (stack.flatMap preorder).find? isMark := by
  induction stack using firstMark.induct with
  | case1 => rw [firstMark_nil, List.flatMap_nil, List.find?_nil]
  | case2 n stack mark =>
    rw [firstMark_mark stack mark, List.flatMap_cons, preorder_eq, List.cons_append,
      List.find?_cons_of_pos mark]
  | case3 n stack unmarked ih =>
    -- one pop: the node is no mark, and its entered children take its place on the stack
    have wellN := h n List.mem_cons_self
    have below : ∀ c ∈ n.entered ++ stack, WellMarked c := by
      intro c member
      rcases List.mem_append.mp member with entered | lower
      · exact wellN.child (List.mem_of_mem_filter entered)
      · exact h c (List.mem_cons_of_mem n lower)
    have unmarked : n.isMark = false := by simpa using unmarked
    rw [firstMark_unmarked stack unmarked, ih below, List.flatMap_append, List.find?_append,
      find?_entered wellN, List.flatMap_cons, preorder_eq, List.cons_append,
      List.find?_cons_of_neg (by simp [unmarked]), List.find?_append]

/-- On a well-marked tree the search finds the first mark in document order. -/
theorem findFirstError_eq_find? {root : FullNode} (h : WellMarked root) :
    root.findFirstError = root.preorder.find? isMark := by
  rw [findFirstError, firstMark_eq_find? [root] (by simpa using h), List.flatMap_singleton]

/-- A well-marked root that holds an error has a first mark. -/
theorem WellMarked.find?_isSome {root : FullNode} (h : WellMarked root)
    (marked : root.hasError = true) : (root.preorder.find? isMark).isSome := by
  obtain ⟨m, below, mark⟩ := (h root (mem_preorder_self root)).mp marked
  exact List.find?_isSome.mpr ⟨m, below, mark⟩

end Syntax.FullNode

namespace Language

open Syntax FullNode

theorem errorOf_clean (l : Language) {root : FullNode} (clean : root.hasError = false) :
    l.errorOf root = none := by
  rw [errorOf, if_neg (by simp [clean])]

/-- A root that holds an error is reported at the first mark the search finds. -/
theorem errorOf_found (l : Language) {root m : FullNode} (marked : root.hasError = true)
    (found : root.findFirstError = some m) :
    l.errorOf root = some
      { message := l.errorMessage
          (if m.isMissing then "missing '" ++ m.type ++ "'" else "syntax error")
          (m.row + 1) (m.column + 1),
        line := some (m.row + 1), column := some (m.column + 1) } := by
  rw [errorOf, if_pos marked, found]

/-- On every well-marked tree, the search finds the first mark of repair in document order; a
text is reported as not parsing exactly when its root holds an error; and the report gives that
mark's line and column from 1 and says `missing` exactly when the mark is a missing token, so the
report without a position is never given. -/
theorem errorOf_first_mark (l : Language) {root : FullNode} (h : WellMarked root) :
    root.findFirstError = root.preorder.find? isMark ∧
      (l.errorOf root).isSome = root.hasError ∧
      ∀ e, l.errorOf root = some e → ∃ m, root.preorder.find? isMark = some m ∧
        e.line = some (m.row + 1) ∧ e.column = some (m.column + 1) ∧
        e.message = l.errorMessage
          (if m.isMissing then "missing '" ++ m.type ++ "'" else "syntax error")
          (m.row + 1) (m.column + 1) := by
  have found := findFirstError_eq_find? h
  refine ⟨found, ?_⟩
  cases marked : root.hasError
  · rw [errorOf_clean l marked]
    exact ⟨rfl, fun e reported => by cases reported⟩
  · -- a root that holds an error has a first mark, and the report is made there
    obtain ⟨m, first⟩ := Option.isSome_iff_exists.mp (h.find?_isSome marked)
    rw [errorOf_found l marked (found.trans first)]
    refine ⟨rfl, fun e reported => ?_⟩
    cases reported
    exact ⟨m, first, rfl, rfl, rfl⟩

/-- A program whose second statement holds passed-over text nested in passed-over text, and
whose third statement lacks its closing brace. -/
def nestedMarks : FullNode :=
  ⟨"program", false, true, 0, 0,
    [⟨"lexical_declaration", false, false, 0, 0, [⟨"const", false, false, 0, 0, []⟩]⟩,
     ⟨"expression_statement", false, true, 1, 0,
       [⟨"identifier", false, false, 1, 0, []⟩,
        ⟨"ERROR", false, true, 1, 4, [⟨"ERROR", false, true, 1, 5, []⟩]⟩]⟩,
     ⟨"statement_block", false, true, 2, 0,
       [⟨"\x7b", false, false, 2, 0, []⟩, ⟨"\x7d", true, true, 2, 1, []⟩]⟩]⟩

theorem errorOf_first_mark_nested :
    WellMarked nestedMarks ∧
      (nestedMarks.findFirstError = nestedMarks.preorder.find? isMark ∧
        (Language.javascript.errorOf nestedMarks).isSome = nestedMarks.hasError ∧
        ∀ e, Language.javascript.errorOf nestedMarks = some e →
          ∃ m, nestedMarks.preorder.find? isMark = some m ∧
            e.line = some (m.row + 1) ∧ e.column = some (m.column + 1) ∧
            e.message = Language.javascript.errorMessage
              (if m.isMissing then "missing '" ++ m.type ++ "'" else "syntax error")
              (m.row + 1) (m.column + 1)) :=
  have well : WellMarked nestedMarks := by decide +kernel
  ⟨well, errorOf_first_mark .javascript well⟩

end Language

end Cyclomatic
