import Cyclomatic.Analysis.Engine
import Cyclomatic.Proofs.Preorder

/-!
The outline of a parsed document against its syntax tree. The outline has one node for every
named node of the tree, in the same pre-order; a node's tag marks it as a function or a branch
exactly when its grammar name does, as long as no grammar name is spelled like one of the tags.
Hence the functions an analysis reports are the function nodes of the tree in pre-order, each
with the lines of its first and last characters and one plus the number of its nodes that add
a path.
-/

namespace Cyclomatic

namespace Syntax

def functionTypes : List String :=
  ["function_declaration", "generator_function_declaration", "function_expression", "function",
   "generator_function", "arrow_function", "method_definition"]

def branchTypes : List String :=
  ["if_statement", "for_statement", "while_statement", "do_statement", "switch_case",
   "switch_default"]

def logicalOperatorTypes : List String := ["&&", "||", "??"]

namespace Node

def isFunctionNode (n : Node) : Bool := functionTypes.contains n.kind

/-- Whether the node adds a path: a branch statement, or, when logical operators count, a binary
expression on a logical operator. -/
def addsPath (countLogical : Bool) (n : Node) : Bool :=
  branchTypes.contains n.kind ||
    (countLogical && n.kind == "binary_expression" && logicalOperatorTypes.contains n.op)

/-- Every node of the tree has a grammar name, none of which is spelled like a tag. -/
def GrammarNamed (n : Node) : Prop :=
  ∀ d ∈ n.preorder, d.kind ∉ Construct.all.map Construct.tag

instance (n : Node) : Decidable n.GrammarNamed :=
  inferInstanceAs (Decidable (∀ d ∈ n.preorder, d.kind ∉ Construct.all.map Construct.tag))

/-- The lines of the node's first and last characters, and one plus the number of nodes of its
subtree that add a path. -/
def placement (s : Source) (countLogical : Bool) (n : Node) : Int × Int × Nat :=
  (s.line n.start, s.line n.stop, 1 + (n.preorder.filter (addsPath countLogical)).length)

theorem GrammarNamed.of_mem {n d : Node} (named : n.GrammarNamed) (member : d ∈ n.preorder) :
    d.GrammarNamed :=
  fun x deep => named x (mem_preorder_trans member deep)

end Node

end Syntax

namespace FunctionScore

def placement (f : FunctionScore) : Int × Int × Nat := (f.startLine, f.endLine, f.complexity)

end FunctionScore

theorem Construct.mem_all (c : Construct) : c ∈ Construct.all := by
  cases c <;> decide

/-- A kind spelled like no tag is in no list of constructs. -/
theorem tagIn_eq_false {kind : String} (untagged : kind ∉ Construct.all.map Construct.tag)
    (cs : List Construct) : tagIn kind cs = false := by
  unfold tagIn
  rw [List.any_eq_false]
  intro c _ same
  exact untagged (List.mem_map.mpr ⟨c, Construct.mem_all c, beq_iff_eq.mp same⟩)

namespace Document

open Syntax

/-- On every grammar name it lists, the table of tags agrees with the grammar names of
functions and branches. -/
theorem constructTags_agree : ∀ k ∈ constructTags.map Prod.fst,
    tagIn ((constructTags.lookup k).getD k) Construct.functions = functionTypes.contains k ∧
      ∀ countLogical, tagIn ((constructTags.lookup k).getD k) (Construct.branches countLogical) =
        branchTypes.contains k := by
  decide

/-- The table lists every grammar name of a function or a branch statement. -/
theorem types_listed : ∀ k ∈ functionTypes ++ branchTypes, k ∈ constructTags.map Prod.fst := by
  decide

theorem listed_iff {k : String} :
    (constructTags.lookup k).isSome ↔ k ∈ constructTags.map Prod.fst := by
  rw [List.lookup_isSome_iff, List.mem_map]
  constructor
  · rintro ⟨p, member, same⟩
    exact ⟨p, member, (beq_iff_eq.mp same).symm⟩
  · rintro ⟨p, member, same⟩
    exact ⟨p, member, beq_iff_eq.mpr same.symm⟩

/-- A grammar name the table does not list is neither a function nor a branch statement. -/
theorem not_listed {k : String} (unlisted : constructTags.lookup k = none) :
    functionTypes.contains k = false ∧ branchTypes.contains k = false := by
  have absent : k ∉ constructTags.map Prod.fst := by
    rw [← listed_iff, unlisted]
    decide
  constructor
  all_goals
    rw [Bool.eq_false_iff]
    intro present
    apply absent
    apply types_listed k
    simp_all

theorem kindOf_binary {n : Node} (binary : n.kind = "binary_expression") :
    kindOf n = if logicalOperatorTypes.contains n.op then Construct.logicalExpression.tag
      else "binary_expression" := by
  simp [kindOf, binary, logicalOperators, logicalOperatorTypes]

theorem kindOf_other {n : Node} (other : n.kind ≠ "binary_expression") :
    kindOf n = (constructTags.lookup n.kind).getD n.kind := by
  simp [kindOf, other]

/-- A node with a grammar name is tagged a function exactly when the grammar names it one. -/
theorem tagIn_kindOf_functions {n : Node} (untagged : n.kind ∉ Construct.all.map Construct.tag) :
    tagIn (kindOf n) Construct.functions = n.isFunctionNode := by
  by_cases binary : n.kind = "binary_expression"
  · rw [kindOf_binary binary, Node.isFunctionNode, binary]
    split <;> decide
  · rw [kindOf_other binary, Node.isFunctionNode]
    cases listed : constructTags.lookup n.kind with
    | none => rw [Option.getD_none, tagIn_eq_false untagged, (not_listed listed).1]
    | some t =>
      have known := listed_iff.mp (by rw [listed]; rfl)
      have agree := (constructTags_agree n.kind known).1
      rwa [listed] at agree

/-- A node with a grammar name is tagged a branch exactly when it adds a path. -/
theorem tagIn_kindOf_branches (countLogical : Bool) {n : Node}
    (untagged : n.kind ∉ Construct.all.map Construct.tag) :
    tagIn (kindOf n) (Construct.branches countLogical) = n.addsPath countLogical := by
  by_cases binary : n.kind = "binary_expression"
  · rw [kindOf_binary binary, Node.addsPath, binary]
    split <;> cases countLogical <;> simp_all <;> decide
  · have notBinary : (n.kind == "binary_expression") = false := by simpa using binary
    rw [kindOf_other binary, Node.addsPath, notBinary, Bool.and_false, Bool.false_and,
      Bool.or_false]
    cases listed : constructTags.lookup n.kind with
    | none => rw [Option.getD_none, tagIn_eq_false untagged, (not_listed listed).2]
    | some t =>
      have known := listed_iff.mp (by rw [listed]; rfl)
      have agree := (constructTags_agree n.kind known).2 countLogical
      rwa [listed] at agree

@[simp] theorem outlineAll_eq (s : Source) (parent : Node) (cs : List Node) :
    outlineAll s parent cs = cs.map (outlineOf s (some parent)) := by
  induction cs with
  | nil => rfl
  | cons c cs ih => rw [outlineAll, ih, List.map_cons]

@[simp] theorem outlineOf_kind (s : Source) (parent : Option Node) (n : Node) :
    (outlineOf s parent n).kind = kindOf n := by
  rcases n with ⟨kind, field, start, stop, cs, op⟩
  rfl

@[simp] theorem outlineOf_span (s : Source) (parent : Option Node) (n : Node) :
    (outlineOf s parent n).span = some (spanOf s n) := by
  rcases n with ⟨kind, field, start, stop, cs, op⟩
  rfl

@[simp] theorem outlineOf_children (s : Source) (parent : Option Node) (n : Node) :
    (outlineOf s parent n).children = n.children.map (outlineOf s (some n)) := by
  rcases n with ⟨kind, field, start, stop, cs, op⟩
  simp only [outlineOf, outlineAll_eq]

/-- The outline of a tree walks as the tree does: its pre-order is the outline of each node of
the tree's pre-order, under the node that holds it. -/
theorem outlineOf_preorder (s : Source) (parent : Option Node) (n : Node) :
    (outlineOf s parent n).preorder = (n.preorderFrom parent).map fun e => outlineOf s e.1 e.2 := by
  induction n using Node.induction generalizing parent with
  | step n ih =>
    rw [Outline.preorder_eq, Node.preorderFrom_eq, List.map_cons, outlineOf_children,
      List.flatMap_map, List.map_flatMap]
    congr 1
    exact List.flatMap_congr fun c member => ih c member (some n)

theorem mem_preorderFrom {parent : Option Node} {n : Node} {e : Option Node × Node}
    (member : e ∈ n.preorderFrom parent) : e.2 ∈ n.preorder := by
  rw [← Node.preorderFrom_map_snd parent n]
  exact List.mem_map_of_mem member

/-- Every node of the outline of a tree is the outline of a node of the tree. -/
theorem mem_outlineOf_preorder {s : Source} {parent : Option Node} {n : Node} {g : Outline}
    (member : g ∈ (outlineOf s parent n).preorder) :
    ∃ e ∈ n.preorderFrom parent, g = outlineOf s e.1 e.2 := by
  rw [outlineOf_preorder] at member
  obtain ⟨e, inWalk, same⟩ := List.mem_map.mp member
  exact ⟨e, inWalk, same.symm⟩

/-- A node of a parsed text always has a location: its first line is counted from 0. -/
theorem score_outlineOf_hasLocation (s : Source) (parent : Option Node) (n : Node)
    (countLogical : Bool) : ((outlineOf s parent n).score countLogical).hasLocation = true := by
  simp only [Outline.score, outlineOf_span, spanOf, FunctionScore.hasLocation, missingLine,
    bne_iff_ne, ne_eq]
  omega

theorem isFunction_outlineOf (s : Source) (parent : Option Node) {n : Node}
    (untagged : n.kind ∉ Construct.all.map Construct.tag) :
    (outlineOf s parent n).isFunction = n.isFunctionNode := by
  rw [Outline.isFunction, outlineOf_kind, tagIn_kindOf_functions untagged]

theorem isBranch_outlineOf (s : Source) (parent : Option Node) (countLogical : Bool) {n : Node}
    (untagged : n.kind ∉ Construct.all.map Construct.tag) :
    (outlineOf s parent n).isBranch countLogical = n.addsPath countLogical := by
  rw [Outline.isBranch, outlineOf_kind, tagIn_kindOf_branches countLogical untagged]

/-- The complexity of a node with grammar names is one plus the number of nodes of its subtree
that add a path. -/
theorem complexity_outlineOf (s : Source) (parent : Option Node) (countLogical : Bool)
    {n : Node} (named : n.GrammarNamed) :
    (outlineOf s parent n).complexity countLogical =
      1 + (n.preorder.filter (Node.addsPath countLogical)).length := by
  rw [Outline.complexity, outlineOf_preorder, List.filter_map, List.length_map,
    ← Node.preorderFrom_map_snd parent n, List.filter_map, List.length_map]
  congr 2
  apply List.filter_congr
  intro e member
  exact isBranch_outlineOf s e.1 countLogical (named e.2 (mem_preorderFrom member))

theorem score_outlineOf_placement (s : Source) (parent : Option Node) (countLogical : Bool)
    {n : Node} (named : n.GrammarNamed) :
    ((outlineOf s parent n).score countLogical).placement = n.placement s countLogical := by
  simp only [Outline.score, outlineOf_span, spanOf, FunctionScore.placement, Node.placement,
    complexity_outlineOf s parent countLogical named, Prod.mk.injEq, and_true]
  omega

/-- The scored functions of the outline of a tree with grammar names are its function nodes in
pre-order, with their lines and path counts. -/
theorem functions_outlineOf_placement (s : Source) (countLogical : Bool) {root : Node}
    (named : root.GrammarNamed) :
    ((outlineOf s none root).functions.map (Outline.score countLogical)).map
        FunctionScore.placement =
      (root.preorder.filter Node.isFunctionNode).map (Node.placement s countLogical) := by
  have below : ∀ e ∈ root.preorderFrom none, e.2.GrammarNamed :=
    fun e member => named.of_mem (mem_preorderFrom member)
  rw [Outline.functions, outlineOf_preorder, List.filter_map, List.map_map, List.map_map,
    ← Node.preorderFrom_map_snd none root, List.filter_map, List.map_map]
  have sameFilter : (root.preorderFrom none).filter (Outline.isFunction ∘ fun e => outlineOf s e.1 e.2) =
      (root.preorderFrom none).filter (Node.isFunctionNode ∘ Prod.snd) :=
    List.filter_congr fun e member =>
      isFunction_outlineOf s e.1 (below e member e.2 (Node.mem_preorder_self e.2))
  rw [sameFilter]
  apply List.map_congr_left
  intro e member
  exact score_outlineOf_placement s e.1 countLogical (below e (List.mem_of_mem_filter member))

end Document

namespace Analysis

open Config Syntax

/-- The functions of a text are those of its document, when it has one. -/
theorem analyze_eq (settings : Settings) (text tag : String) :
    analyze settings text tag =
      match document text tag with
      | some d => d.outline.functions.map (Outline.score settings.scale.countsLogical)
      | none => [] := by
  unfold analyze analyzeWith
  cases document text tag <;> rfl

theorem document_of_unsupported {text tag : String} (unsupported : Language.ofTag tag = none) :
    document text tag = none := by
  unfold document
  rw [unsupported]

theorem document_of_fault {text tag : String} {l : Language} {f : Fault}
    (supported : Language.ofTag tag = some l)
    (fault : readOrFault (Source.ofString text l.dialect) = .error f) :
    document text tag = none := by
  unfold document Language.parse
  rw [supported]
  simp only [fault]

theorem document_of_parse {text tag : String} {l : Language} {p : Program}
    (supported : Language.ofTag tag = some l)
    (parsed : readOrFault (Source.ofString text l.dialect) = .ok p) :
    document text tag = some ⟨Source.ofString text l.dialect, p.root, p.comments⟩ := by
  unfold document Language.parse
  rw [supported]
  simp only [parsed]

/-- An analysis reports nothing for a language without a parser or a text that does not parse;
otherwise, for a tree whose nodes have grammar names, it reports the function nodes of the tree
in pre-order, each with the lines of its first and last characters and one plus the number of
nodes of its subtree that add a path. -/
theorem analyze_scores_functions_in_preorder (settings : Settings) (text tag : String) :
    (Language.ofTag tag = none → analyze settings text tag = []) ∧
    (∀ l f, Language.ofTag tag = some l → readOrFault (Source.ofString text l.dialect) = .error f →
      analyze settings text tag = []) ∧
    (∀ l p, Language.ofTag tag = some l → readOrFault (Source.ofString text l.dialect) = .ok p →
      p.root.GrammarNamed →
      (analyze settings text tag).map FunctionScore.placement =
        (p.root.preorder.filter Node.isFunctionNode).map
          (Node.placement (Source.ofString text l.dialect) settings.scale.countsLogical)) := by
  refine ⟨fun unsupported => ?_, fun l f supported fault => ?_,
    fun l p supported parsed named => ?_⟩
  · rw [analyze_eq, document_of_unsupported unsupported]
  · rw [analyze_eq, document_of_fault supported fault]
  · rw [analyze_eq, document_of_parse supported parsed]
    exact Document.functions_outlineOf_placement _ _ named

theorem exists_ok_of_check {ε α : Type} {e : Except ε α} {P : α → Prop} [DecidablePred P]
    (checked : e.toOption.map (fun a => decide (P a)) = some true) : ∃ a, e = .ok a ∧ P a := by
  cases e with
  | error _ => cases checked
  | ok a => exact ⟨a, rfl, of_decide_eq_true (Option.some.inj checked)⟩

/-- A function whose body branches on a logical condition: the parse succeeds, its nodes have
grammar names, and the analysis reports what the tree gives. -/
theorem analyze_scores_logical_branch :
    ∃ p, readOrFault (Source.ofString "function f(a) { if (a && b) return; }" .javascript) =
        .ok p ∧ p.root.GrammarNamed ∧
      (analyze Settings.default "function f(a) { if (a && b) return; }" "javascript").map
          FunctionScore.placement =
        (p.root.preorder.filter Node.isFunctionNode).map
          (Node.placement (Source.ofString "function f(a) { if (a && b) return; }" .javascript)
            Settings.default.scale.countsLogical) := by
  have checked : (readOrFault (Source.ofString "function f(a) { if (a && b) return; }"
      .javascript)).toOption.map (fun p => decide p.root.GrammarNamed) = some true := by
    decide +kernel
  obtain ⟨p, parsed, named⟩ := exists_ok_of_check checked
  exact ⟨p, parsed, named, (analyze_scores_functions_in_preorder Settings.default
    "function f(a) { if (a && b) return; }" "javascript").2.2 .javascript p (by decide +kernel)
    parsed named⟩

end Analysis

end Cyclomatic
