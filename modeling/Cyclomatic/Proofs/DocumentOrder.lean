import Cyclomatic.Proofs.OffsetLookup
import Cyclomatic.Proofs.SourceLines

/-!
Document order. In a parse every node starts no later than it stops, holds its children within
its range, and has its children one after another without overlap. A pre-order walk of such a
tree meets ranges in document order: a later node starts no earlier than an earlier one, and
either lies within it or starts where it ends. Offsets are positions and lines grow with
positions, so the functions of a text are in that order by their offsets and by their lines;
their lines lie within the text, and each gets one hint, at the start of its first line.
-/

namespace Cyclomatic

/-- Two ranges, each given by its first and last point, in the order a walk over nested ranges
meets them: the second starts no earlier than the first, and either ends within it or starts
where it ends. -/
structure NestsOrFollows {α : Type} [LE α] (a b : α × α) : Prop where
  starts : a.1 ≤ b.1
  endsWithinOrAfter : b.2 ≤ a.2 ∨ a.2 ≤ b.1

theorem NestsOrFollows.map {α β : Type} [LE α] [LE β] {f : α → β}
    (mono : ∀ {x y}, x ≤ y → f x ≤ f y) {a b : α × α} (ordered : NestsOrFollows a b) :
    NestsOrFollows (f a.1, f a.2) (f b.1, f b.2) := by
  obtain ⟨starts, within | after⟩ := ordered
  · exact ⟨mono starts, .inl (mono within)⟩
  · exact ⟨mono starts, .inr (mono after)⟩

def FunctionScore.lines (f : FunctionScore) : Int × Int := (f.startLine, f.endLine)

def Span.offsets (s : Span) : Int × Int := (s.startOffset, s.endOffset)

namespace Syntax.Node

def range (n : Node) : Nat × Nat := (n.start, n.stop)

/-- The shape of a parse: every node of the tree starts no later than it stops, holds its
children within its range, and has them in order, each ending where or before the next
starts. -/
def Nested (n : Node) : Prop :=
  ∀ d ∈ n.preorder, d.start ≤ d.stop ∧
    (∀ c ∈ d.children, d.start ≤ c.start ∧ c.stop ≤ d.stop) ∧
    d.children.Pairwise fun a b => a.stop ≤ b.start

instance (n : Node) : Decidable n.Nested :=
  inferInstanceAs (Decidable (∀ d ∈ n.preorder, d.start ≤ d.stop ∧
    (∀ c ∈ d.children, d.start ≤ c.start ∧ c.stop ≤ d.stop) ∧
    d.children.Pairwise fun a b => a.stop ≤ b.start))

namespace Nested

variable {n : Node}

theorem of_mem {d : Node} (nested : n.Nested) (member : d ∈ n.preorder) : d.Nested :=
  fun x deep => nested x (mem_preorder_trans member deep)

theorem ordered (nested : n.Nested) : n.start ≤ n.stop :=
  (nested n (mem_preorder_self n)).1

/-- Every node of a nested tree lies within the range of its root. -/
theorem within {d : Node} (nested : n.Nested) (member : d ∈ n.preorder) :
    n.start ≤ d.start ∧ d.stop ≤ n.stop := by
  induction n using Node.induction with
  | step n ih =>
    rw [preorder_eq] at member
    rcases List.mem_cons.mp member with same | below
    · subst same
      omega
    · obtain ⟨c, child, deep⟩ := List.mem_flatMap.mp below
      have inChild := ih c child (nested.of_mem (mem_preorder_of_mem_children child)) deep
      have childIn := (nested n (mem_preorder_self n)).2.1 c child
      omega

/-- The walk of a nested tree meets node ranges in document order. -/
theorem pairwise_preorder (nested : n.Nested) :
    n.preorder.Pairwise fun a b => NestsOrFollows a.range b.range := by
  induction n using Node.induction with
  | step n ih =>
    obtain ⟨_, inside, apart⟩ := nested n (mem_preorder_self n)
    have childNested : ∀ c ∈ n.children, c.Nested := fun c child =>
      nested.of_mem (mem_preorder_of_mem_children child)
    rw [preorder_eq, List.pairwise_cons, List.pairwise_flatMap]
    refine ⟨?_, fun c child => ih c child (childNested c child), ?_⟩
    · -- the root comes first, and every node below it lies within it
      intro d below
      obtain ⟨c, child, deep⟩ := List.mem_flatMap.mp below
      have inChild := (childNested c child).within deep
      have childIn := inside c child
      exact ⟨show n.start ≤ d.start by omega, .inl (show d.stop ≤ n.stop by omega)⟩
    · -- nodes below two children follow one another as the children do
      refine apart.imp_of_mem fun {a b} aChild bChild before => ?_
      intro x xBelow y yBelow
      have xIn := (childNested a aChild).within xBelow
      have yIn := (childNested b bChild).within yBelow
      have xOrdered := ((childNested a aChild).of_mem xBelow).ordered
      exact ⟨show x.start ≤ y.start by omega, .inr (show x.stop ≤ y.start by omega)⟩

/-- Any order-keeping image of the node ranges of a nested tree is in document order. -/
theorem pairwise_preorder_map {α : Type} [LE α] {f : Nat → α}
    (mono : ∀ {x y}, x ≤ y → f x ≤ f y) (nested : n.Nested) :
    (n.preorder.map fun d => (f d.start, f d.stop)).Pairwise NestsOrFollows :=
  List.pairwise_map.mpr (nested.pairwise_preorder.imp fun ordered => ordered.map mono)

end Nested

end Syntax.Node

namespace Document

open Syntax

/-- A view of the functions of an outline that reads only their nodes is a sublist of that view
of the walk of the tree. -/
theorem functions_map_sublist {β : Type} (s : Source) (parent : Option Node) (n : Node)
    (view : Outline → β) (ofNode : Node → β)
    (agree : ∀ p d, view (outlineOf s p d) = ofNode d) :
    ((outlineOf s parent n).functions.map view).Sublist (n.preorder.map ofNode) := by
  have walk : (outlineOf s parent n).preorder.map view = n.preorder.map ofNode := by
    rw [outlineOf_preorder, List.map_map, ← Node.preorderFrom_map_snd parent n, List.map_map]
    exact List.map_congr_left fun e _ => agree e.1 e.2
  rw [← walk]
  exact List.filter_sublist.map view

theorem score_outlineOf_lines (s : Source) (countLogical : Bool) (parent : Option Node)
    (n : Node) :
    ((outlineOf s parent n).score countLogical).lines =
      ((s.line n.start : Int), (s.line n.stop : Int)) := by
  simp only [Outline.score, outlineOf_span, spanOf, FunctionScore.lines, Prod.mk.injEq]
  omega

theorem outlineOf_offsets (s : Source) (parent : Option Node) (n : Node) :
    (outlineOf s parent n).span.map Span.offsets = some ((n.start : Int), (n.stop : Int)) := by
  simp only [outlineOf_span, spanOf, Option.map_some, Span.offsets]

end Document

namespace Analysis

open Config Syntax

theorem functionNodes_of_parse {text tag : String} {l : Language} {p : Program}
    (supported : Language.ofTag tag = some l)
    (parsed : readOrFault (Source.ofString text l.dialect) = .ok p) :
    functionNodes text tag =
      (Document.outlineOf (Source.ofString text l.dialect) none p.root).functions := by
  unfold functionNodes
  rw [document_of_parse supported parsed]
  rfl

theorem hints_eq_filter (settings : Settings) (text tag : String) :
    hints settings text tag =
      ((analyze settings text tag).filter (·.hasLocation)).map fun f =>
        (⟨f.startLine, 0, f.label⟩ : Hint) := by
  unfold hints hintsWith analyze analyzeWith
  cases document text tag <;> rfl

/-- Every function of a text has a location, so each gets a hint, at the start of its first
line. -/
theorem hints_eq (settings : Settings) (text tag : String) :
    hints settings text tag =
      (analyze settings text tag).map fun f => (⟨f.startLine, 0, f.label⟩ : Hint) := by
  have located :
      (analyze settings text tag).filter (·.hasLocation) = analyze settings text tag := by
    rw [List.filter_eq_self]
    intro f member
    rw [analyze_eq_functionNodes] at member
    obtain ⟨g, inNodes, scored⟩ := List.mem_map.mp member
    rw [← scored]
    exact hasLocation_of_functionNodes inNodes _
  rw [hints_eq_filter, located]

/-- The lines of the functions of a parsed text are those of some of its nodes, in walk order. -/
theorem lines_sublist {text tag : String} {l : Language} {p : Program} (settings : Settings)
    (supported : Language.ofTag tag = some l)
    (parsed : readOrFault (Source.ofString text l.dialect) = .ok p) :
    ((analyze settings text tag).map FunctionScore.lines).Sublist
      (p.root.preorder.map fun d =>
        (((Source.ofString text l.dialect).line d.start : Int),
          ((Source.ofString text l.dialect).line d.stop : Int))) := by
  rw [analyze_eq_functionNodes, functionNodes_of_parse supported parsed, List.map_map]
  exact Document.functions_map_sublist _ _ _
    (FunctionScore.lines ∘ Outline.score settings.scale.countsLogical) _
    (Document.score_outlineOf_lines _ settings.scale.countsLogical)

/-- The offsets of the functions of a parsed text are those of some of its nodes, in walk
order. -/
theorem offsets_sublist {text tag : String} {l : Language} {p : Program}
    (supported : Language.ofTag tag = some l)
    (parsed : readOrFault (Source.ofString text l.dialect) = .ok p) :
    ((functionNodes text tag).map fun f => f.span.map Span.offsets).Sublist
      ((p.root.preorder.map fun d => ((d.start : Int), (d.stop : Int))).map some) := by
  rw [functionNodes_of_parse supported parsed, List.map_map]
  exact Document.functions_map_sublist _ _ _ (fun f => f.span.map Span.offsets) _
    (Document.outlineOf_offsets _)

/-- For a text that parses into a nested tree, the functions come in document order: each lies
within the lines of the text, and a later function starts on the line of an earlier one or
below it, and either ends within it or starts on or after its last line; their character offsets
are in the same order. Each function has one hint, at column 0 of its first line, labelled with
its complexity. -/
theorem analyze_in_document_order (settings : Settings) (text tag : String) (l : Language)
    (p : Program) (supported : Language.ofTag tag = some l)
    (parsed : readOrFault (Source.ofString text l.dialect) = .ok p) (nested : p.root.Nested) :
    (∀ f ∈ analyze settings text tag,
      0 ≤ f.startLine ∧ f.startLine ≤ f.endLine ∧ f.endLine ≤ text.toList.count '\n') ∧
    ((analyze settings text tag).map FunctionScore.lines).Pairwise NestsOrFollows ∧
    (∃ offsets : List (Int × Int),
      (functionNodes text tag).map (fun f => f.span.map Span.offsets) = offsets.map some ∧
      offsets.Pairwise NestsOrFollows) ∧
    hints settings text tag = (analyze settings text tag).map fun f =>
      (⟨f.startLine, 0, "Complexity: " ++ toString f.complexity⟩ : Hint) := by
  have lines := lines_sublist settings supported parsed
  refine ⟨?_, ?_, ?_, hints_eq settings text tag⟩
  · intro f member
    obtain ⟨d, inTree, same⟩ := List.mem_map.mp (lines.subset (List.mem_map_of_mem member))
    simp only [FunctionScore.lines, Prod.mk.injEq] at same
    have ordered := Source.line_mono (Source.ofString text l.dialect)
      (nested.of_mem inTree).ordered
    have last := Source.line_ofString_le text l.dialect d.stop
    omega
  · exact (nested.pairwise_preorder_map fun le => Int.ofNat_le.mpr
      (Source.line_mono (Source.ofString text l.dialect) le)).sublist lines
  · obtain ⟨offsets, inTree, same⟩ :=
      List.sublist_map_iff.mp (offsets_sublist supported parsed)
    exact ⟨offsets, same, (nested.pairwise_preorder_map Int.ofNat_le.mpr).sublist inTree⟩

/-- A function that returns an arrow, then a second function on a later line: the parse is
nested, and the three functions come in document order, each with its hint. -/
theorem analyze_orders_nested_functions :
    ∃ p, readOrFault (Source.ofString
        "function f() \x7b\n return () => 1\n\x7d\nlet g = () => 2" .javascript) = .ok p ∧
      p.root.Nested ∧
      (∀ f ∈ analyze Settings.default
          "function f() \x7b\n return () => 1\n\x7d\nlet g = () => 2" "javascript",
        0 ≤ f.startLine ∧ f.startLine ≤ f.endLine ∧
          f.endLine ≤
            ("function f() \x7b\n return () => 1\n\x7d\nlet g = () => 2" : String).toList.count '\n') ∧
      ((analyze Settings.default
          "function f() \x7b\n return () => 1\n\x7d\nlet g = () => 2" "javascript").map
        FunctionScore.lines).Pairwise NestsOrFollows ∧
      (∃ offsets : List (Int × Int),
        (functionNodes
            "function f() \x7b\n return () => 1\n\x7d\nlet g = () => 2" "javascript").map
            (fun f => f.span.map Span.offsets) = offsets.map some ∧
          offsets.Pairwise NestsOrFollows) ∧
      hints Settings.default
          "function f() \x7b\n return () => 1\n\x7d\nlet g = () => 2" "javascript" =
        (analyze Settings.default
            "function f() \x7b\n return () => 1\n\x7d\nlet g = () => 2" "javascript").map fun f =>
          (⟨f.startLine, 0, "Complexity: " ++ toString f.complexity⟩ : Hint) := by
  have checked : (readOrFault (Source.ofString
      "function f() \x7b\n return () => 1\n\x7d\nlet g = () => 2" .javascript)).toOption.map
      (fun p => decide p.root.Nested) = some true := by
    decide +kernel
  obtain ⟨p, parsed, nested⟩ := exists_ok_of_check checked
  exact ⟨p, parsed, nested, analyze_in_document_order Settings.default
    "function f() \x7b\n return () => 1\n\x7d\nlet g = () => 2" "javascript" .javascript p
    (by decide +kernel) parsed nested⟩

end Analysis

end Cyclomatic
