import Cyclomatic.Proofs.ScaleSettings

/-!
Which settings documents are refused. Only the two bounds of the scale are checked, each in the
value the scale is given: that of the last entry spelling it among the scale settings, or its
default. A value a later spelling replaces is never looked at. The start is checked before the
end, every refusal is a `ConfigError` that names the bound, and nothing else is refused.
-/

namespace Cyclomatic

namespace Value

/-- Whether a value is an integer; a boolean is not one. -/
def IsInteger (v : Value) : Prop := ∃ n, v = .int n

end Value

namespace Config

namespace Scale

theorem requireInt_of_integer (field : String) {v : Value} (whole : v.IsInteger) :
    ∃ n, v = .int n ∧ requireInt field v = .ok n := by
  obtain ⟨n, rfl⟩ := whole
  exact ⟨n, rfl, rfl⟩

theorem requireInt_of_not_integer {field : String} {v : Value} (bad : ¬ v.IsInteger) :
    requireInt field v = .error (.notInteger field v) := by
  cases v with
  | int n => exact absurd ⟨n, rfl⟩ bad
  | _ => rfl

/-- An absent setting is checked as its default. -/
theorem make_eq (start stop countLogical : Option Value) :
    make start stop countLogical = (do
      let s ← requireInt startKey (start.getD (.int defaultStart))
      let m ← requireInt stopKey (stop.getD (.int defaultStop))
      pure ⟨s, m, countLogical.getD (.bool false)⟩) := by
  cases start <;> cases stop <;> rfl

/-- Checking two bounds: the start is refused when it is not an integer, otherwise the end
when it is not one. -/
theorem check_eq_error_iff (a b c : Value) (e : ConfigError) :
    (do
      let s ← requireInt startKey a
      let m ← requireInt stopKey b
      pure (⟨s, m, c⟩ : Scale)) = .error e ↔
      (¬ a.IsInteger ∧ e = .notInteger startKey a) ∨
        (a.IsInteger ∧ ¬ b.IsInteger ∧ e = .notInteger stopKey b) := by
  by_cases startWhole : a.IsInteger
  · obtain ⟨s, -, startOk⟩ := requireInt_of_integer startKey startWhole
    rw [startOk]
    by_cases stopWhole : b.IsInteger
    · obtain ⟨m, -, stopOk⟩ := requireInt_of_integer stopKey stopWhole
      rw [stopOk]
      simp only [bind, Except.bind, pure, Except.pure, reduceCtorEq, false_iff, not_or,
        not_and]
      exact ⟨fun bad => absurd startWhole bad, fun _ bad => absurd stopWhole bad⟩
    · rw [requireInt_of_not_integer stopWhole]
      simp only [bind, Except.bind, Except.error.injEq]
      constructor
      · intro same
        exact .inr ⟨startWhole, stopWhole, same.symm⟩
      · rintro (⟨bad, -⟩ | ⟨-, -, same⟩)
        · exact absurd startWhole bad
        · exact same.symm
  · rw [requireInt_of_not_integer startWhole]
    simp only [bind, Except.bind, Except.error.injEq]
    constructor
    · intro same
      exact .inl ⟨startWhole, same.symm⟩
    · rintro (⟨-, same⟩ | ⟨whole, -⟩)
      · exact same.symm
      · exact absurd whole startWhole

end Scale

namespace Settings

/-- The start the scale is given before it is checked: the value of the last entry spelling it
among the scale settings of the document, or the default start. -/
def uncheckedStart (d : Value.Entries) : Value :=
  (Scale.lastSpelled (scaleEntries (mergeScan d)) Scale.startKey).getD (.int Scale.defaultStart)

/-- The end the scale is given before it is checked. -/
def uncheckedStop (d : Value.Entries) : Value :=
  (Scale.lastSpelled (scaleEntries (mergeScan d)) Scale.stopKey).getD (.int Scale.defaultStop)

/-- Reading a document checks exactly the two bounds it would give the scale. -/
theorem ofEntries_scale_eq_check (d : Value.Entries) :
    (ofEntries d).map (·.scale) = (do
      let s ← Scale.requireInt Scale.startKey (uncheckedStart d)
      let m ← Scale.requireInt Scale.stopKey (uncheckedStop d)
      pure ⟨s, m, (Scale.lastSpelled (scaleEntries (mergeScan d)) Scale.logicalKey).getD
        (.bool false)⟩) := by
  rw [ofEntries_scale, Scale.ofEntries_eq, Scale.make_eq]
  rfl

theorem ofEntries_eq_error_iff (d : Value.Entries) (e : ConfigError) :
    ofEntries d = .error e ↔
      (¬ (uncheckedStart d).IsInteger ∧ e = .notInteger Scale.startKey (uncheckedStart d)) ∨
        ((uncheckedStart d).IsInteger ∧ ¬ (uncheckedStop d).IsInteger ∧
          e = .notInteger Scale.stopKey (uncheckedStop d)) := by
  rw [← Scale.check_eq_error_iff _ _ _ e, ← ofEntries_scale_eq_check]
  -- reading the scale off the settings keeps an error as it is
  cases ofEntries d <;> simp [Except.map]

theorem ofEntries_eq_ok_bounds {d : Value.Entries} {s : Settings} (read : ofEntries d = .ok s) :
    uncheckedStart d = .int s.scale.start ∧ uncheckedStop d = .int s.scale.stop := by
  have checked := ofEntries_scale_eq_check d
  rw [read] at checked
  by_cases startWhole : (uncheckedStart d).IsInteger
  · obtain ⟨a, isA, startOk⟩ := Scale.requireInt_of_integer Scale.startKey startWhole
    by_cases stopWhole : (uncheckedStop d).IsInteger
    · obtain ⟨b, isB, stopOk⟩ := Scale.requireInt_of_integer Scale.stopKey stopWhole
      rw [startOk, stopOk] at checked
      simp only [Except.map, bind, Except.bind, pure, Except.pure, Except.ok.injEq] at checked
      rw [isA, isB, checked]
      exact ⟨rfl, rfl⟩
    · rw [startOk, Scale.requireInt_of_not_integer stopWhole] at checked
      cases checked
  · rw [Scale.requireInt_of_not_integer startWhole] at checked
    cases checked

-- the top level's start is a string, but the section replaces it, so it is never checked
example :
    ((ofEntries [(.str "start_complexity", .str "11"),
        (.str "complexity", .map [(.str "startComplexity", .int 3)])]).map
      (·.scale.start)).toOption = some 3 := by
  decide +kernel

-- both bounds are bad: the start is reported
example :
    (match ofEntries [(.str "maxComplexity", .bool true), (.str "start_complexity", .str "11")] with
      | .error (.notInteger field _) => field
      | _ => "") = "start_complexity" := by
  decide +kernel

end Settings

end Config

end Cyclomatic
