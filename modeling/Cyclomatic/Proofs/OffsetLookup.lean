import Cyclomatic.Proofs.DocumentOutline

/-!
The function under an offset against the list of all functions. Interactive mode keeps the
last function of the walk whose span holds the offset; batch mode scores every function in
walk order. The two agree: the function under an offset is the batch entry at the largest index
whose function holds the offset, and there is none exactly when the offset lies outside the
text or no function holds it. A highlight is that function's lines and complexity with the
tint of its complexity.
-/

namespace Cyclomatic

/-- Filtering a list keeps its element at `i` last when that element is the last one to pass. -/
theorem getLast?_filter_of_last {α : Type} {l : List α} {p : α → Bool} {i : Nat}
    (bound : i < l.length) (hit : p l[i] = true)
    (after : ∀ j (bound' : j < l.length), i < j → p l[j] = false) :
    (l.filter p).getLast? = some l[i] := by
  have split : l = l.take i ++ l[i] :: l.drop (i + 1) := by
    rw [← List.drop_eq_getElem_cons bound, List.take_append_drop]
  have noneAfter : (l.drop (i + 1)).filter p = [] := by
    rw [List.filter_eq_nil_iff]
    intro x member
    obtain ⟨k, inRange, same⟩ := List.mem_iff_getElem.mp member
    rw [List.length_drop] at inRange
    rw [← same, List.getElem_drop, after (i + 1 + k) (by omega) (by omega)]
    decide
  conv_lhs => rw [split]
  rw [List.filter_append, List.filter_cons_of_pos hit, noneAfter, List.getLast?_append]
  rfl

theorem getLast?_filter_eq_none {α : Type} {l : List α} {p : α → Bool} :
    (l.filter p).getLast? = none ↔ ∀ x ∈ l, p x = false := by
  rw [List.getLast?_eq_none_iff, List.filter_eq_nil_iff]
  simp

namespace Outline

/-- The node's span holds the offset, both bounds included. -/
def Spans (o : Outline) (offset : Int) : Prop :=
  ∃ s, o.span = some s ∧ s.startOffset ≤ offset ∧ offset ≤ s.endOffset

theorem spans_iff (o : Outline) (offset : Int) :
    o.Spans offset ↔ o.span.any (·.contains offset) = true := by
  unfold Spans
  cases o.span with
  | none => simp
  | some s => simp [Span.contains]

theorem getLast?_filter_spans_eq_none {l : List Outline} {offset : Int} :
    (l.filter fun f => f.span.any (·.contains offset)).getLast? = none ↔
      ∀ f ∈ l, ¬ f.Spans offset := by
  rw [getLast?_filter_eq_none]
  constructor
  · intro none f member held
    rw [spans_iff, none f member] at held
    cases held
  · intro none f member
    exact Bool.eq_false_iff.mpr fun held => none f member ((spans_iff f offset).mpr held)

/-- The last function holding an offset is the last of the functions whose span holds it. -/
theorem enclosing_eq (o : Outline) (offset : Int) :
    o.enclosing offset = (o.functions.filter fun f => f.span.any (·.contains offset)).getLast? := by
  unfold enclosing functions
  rw [List.filter_filter]
  congr 2
  funext f
  exact Bool.and_comm _ _

end Outline

namespace Analysis

open Config

/-- The function nodes of a text in a language, in walk order; none when the language has no
parser or the text does not parse. -/
def functionNodes (text tag : String) : List Outline :=
  match document text tag with
  | some d => d.outline.functions
  | none => []

theorem analyze_eq_functionNodes (settings : Settings) (text tag : String) :
    analyze settings text tag =
      (functionNodes text tag).map (Outline.score settings.scale.countsLogical) := by
  rw [analyze_eq]
  unfold functionNodes
  cases document text tag <;> rfl

theorem scoreAt_eq (settings : Settings) (text tag : String) (offset : Int) :
    scoreAt settings text tag offset =
      if offset < 0 ∨ text.length < offset then none
      else ((functionNodes text tag).filter fun f => f.span.any (·.contains offset)).getLast?.map
        (Outline.score settings.scale.countsLogical) := by
  unfold scoreAt scoreAtWith functionNodes
  by_cases outside : offset < 0 ∨ text.length < offset
  · have flag : (decide (offset < 0) || decide (offset > text.length)) = true := by
      simpa using outside
    simp only [flag, if_true, outside]
    rfl
  · have flag : (decide (offset < 0) || decide (offset > text.length)) = false := by
      simpa using outside
    simp only [flag, outside]
    cases document text tag with
    | none => rfl
    | some d =>
      simp only [Outline.enclosing_eq]
      cases (d.outline.functions.filter fun f => f.span.any (·.contains offset)).getLast? <;> rfl

theorem hasLocation_of_functionNodes {text tag : String} {f : Outline}
    (member : f ∈ functionNodes text tag) (countLogical : Bool) :
    (f.score countLogical).hasLocation = true := by
  unfold functionNodes at member
  split at member
  · next d _ =>
    obtain ⟨e, _, same⟩ :=
      Document.mem_outlineOf_preorder (List.mem_of_mem_filter member)
    rw [same]
    exact Document.score_outlineOf_hasLocation _ _ _ _
  · cases member

theorem hasLocation_of_scoreAt {settings : Settings} {text tag : String} {offset : Int}
    {f : FunctionScore} (found : scoreAt settings text tag offset = some f) :
    f.hasLocation = true := by
  rw [scoreAt_eq] at found
  split at found
  · cases found
  · obtain ⟨g, last, same⟩ := Option.map_eq_some_iff.mp found
    rw [← same]
    exact hasLocation_of_functionNodes (List.mem_of_mem_filter (List.mem_of_getLast? last)) _

theorem scoreAtWith_pure (settings : Settings) (text tag : String) (offset : Int) :
    scoreAtWith (m := Id) (pure settings) text tag offset = scoreAt settings text tag offset :=
  rfl

/-- A highlight is the tint of the function under the offset, which always has a location. -/
theorem highlight_eq (settings : Settings) (text tag : String) (offset : Int) :
    highlight settings text tag offset =
      match scoreAt settings text tag offset with
      | none => .ok none
      | some f => (Tint.ofScore (.int f.complexity) settings.scale.start settings.scale.stop).map
          fun t => some ⟨f.startLine, f.endLine, f.complexity,
            "Function complexity: " ++ toString f.complexity, t⟩ := by
  unfold highlight highlightWith
  rw [scoreAtWith_pure]
  cases found : scoreAt settings text tag offset with
  | none => rfl
  | some f =>
    -- the settings are asked for again for the tint, and give the same scale
    show (if f.hasLocation = true then
        (Tint.ofScore (.int f.complexity) settings.scale.start settings.scale.stop >>= fun t =>
          pure (some (⟨f.startLine, f.endLine, f.complexity,
            "Function complexity: " ++ toString f.complexity, t⟩ : Highlight)))
        else .ok none) = _
    rw [if_pos (hasLocation_of_scoreAt found)]
    dsimp only
    cases Tint.ofScore (.int f.complexity) settings.scale.start settings.scale.stop <;> rfl

/-- The function under an offset is the batch entry at the largest index whose function node
holds the offset, and there is none exactly when the offset lies outside the text or no
function node holds it; its highlight carries its lines, its complexity and the tint of that
complexity. -/
theorem scoreAt_eq_none_iff (settings : Settings) (text tag : String) (offset : Int) :
    scoreAt settings text tag offset = none ↔
      offset < 0 ∨ text.length < offset ∨ ∀ f ∈ functionNodes text tag, ¬ f.Spans offset := by
  rw [scoreAt_eq]
  by_cases outside : offset < 0 ∨ text.length < offset
  · simp only [outside, if_true, true_iff]
    rcases outside with below | beyond
    · exact .inl below
    · exact .inr (.inl beyond)
  · have inside : ¬ offset < 0 ∧ ¬ text.length < offset := not_or.mp outside
    rw [if_neg outside, Option.map_eq_none_iff, Outline.getLast?_filter_spans_eq_none]
    simp only [inside, false_or]

/-- The function a lookup finds is the last one of the list whose span holds the offset. -/
theorem scoreAt_of_last_spans (settings : Settings) {text tag : String} {offset : Int} {i : Nat}
    (bound : i < (functionNodes text tag).length) (nonneg : 0 ≤ offset)
    (within : offset ≤ text.length) (hit : (functionNodes text tag)[i].Spans offset)
    (last : ∀ j (bound' : j < (functionNodes text tag).length), i < j →
      ¬ (functionNodes text tag)[j].Spans offset) :
    scoreAt settings text tag offset = (analyze settings text tag)[i]? := by
  have passes : ∀ j (bound' : j < (functionNodes text tag).length), i < j →
      (functionNodes text tag)[j].span.any (·.contains offset) = false := fun j bound' later =>
    Bool.eq_false_iff.mpr fun held => last j bound' later ((Outline.spans_iff _ offset).mpr held)
  have lastHit : ((functionNodes text tag).filter fun f => f.span.any (·.contains offset)).getLast? =
      some (functionNodes text tag)[i] :=
    getLast?_filter_of_last bound ((Outline.spans_iff _ offset).mp hit) passes
  have inside : ¬ (offset < 0 ∨ text.length < offset) := by omega
  rw [scoreAt_eq, if_neg inside, lastHit, analyze_eq_functionNodes, List.getElem?_map,
    List.getElem?_eq_getElem bound]

theorem scoreAt_is_last_enclosing (settings : Settings) (text tag : String) (offset : Int) :
    (scoreAt settings text tag offset = none ↔
      offset < 0 ∨ text.length < offset ∨ ∀ f ∈ functionNodes text tag, ¬ f.Spans offset) ∧
    (∀ i (bound : i < (functionNodes text tag).length), 0 ≤ offset → offset ≤ text.length →
      (functionNodes text tag)[i].Spans offset →
      (∀ j (bound' : j < (functionNodes text tag).length), i < j →
        ¬ (functionNodes text tag)[j].Spans offset) →
      scoreAt settings text tag offset = (analyze settings text tag)[i]?) ∧
    highlight settings text tag offset =
      match scoreAt settings text tag offset with
      | none => .ok none
      | some f => (Tint.ofScore (.int f.complexity) settings.scale.start settings.scale.stop).map
          fun t => some ⟨f.startLine, f.endLine, f.complexity,
            "Function complexity: " ++ toString f.complexity, t⟩ :=
  ⟨scoreAt_eq_none_iff settings text tag offset,
    fun _ bound nonneg within hit last => scoreAt_of_last_spans settings bound nonneg within hit last,
    highlight_eq settings text tag offset⟩

/-- In a declaration whose body returns an arrow function, an offset inside the arrow lands on
the arrow: the second function of the batch list. -/
theorem scoreAt_lands_on_inner_arrow :
    scoreAt Settings.default "function f() { return () => 1; }" "javascript" 25 =
      (analyze Settings.default "function f() { return () => 1; }" "javascript")[1]? := by
  -- one run of the parser: two functions, and both hold the offset
  have holds : (functionNodes "function f() { return () => 1; }" "javascript").map
      (fun f => f.span.any (·.contains 25)) = [true, true] := by
    decide +kernel
  have count : (functionNodes "function f() { return () => 1; }" "javascript").length = 2 := by
    simpa using congrArg List.length holds
  have inArrow := congrArg (·[1]?) holds
  rw [List.getElem?_map, List.getElem?_eq_getElem
    (show 1 < (functionNodes "function f() { return () => 1; }" "javascript").length by omega)]
    at inArrow
  exact (scoreAt_is_last_enclosing Settings.default "function f() { return () => 1; }"
    "javascript" 25).2.1 1 (by omega) (by decide) (by decide +kernel)
    ((Outline.spans_iff _ 25).mpr (Option.some.inj inArrow)) (fun j bound' later => absurd bound' (by omega))

end Analysis

end Cyclomatic
