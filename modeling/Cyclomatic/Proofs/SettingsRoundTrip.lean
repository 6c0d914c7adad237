import Cyclomatic.Config.Settings

/-!
Writing settings as a document and reading it back. The document holds the scale as a
`complexity` section and no scale setting at the top level, so reading takes every value from
where it was written. Only an output kept unread that is itself a mapping would not come back,
and reading never keeps one: the settings of every read document come back unchanged.
-/

namespace Cyclomatic

namespace Config

namespace Scale

/-- A scale written as its three settings reads back as it was. -/
theorem ofEntries_written (s : Scale) :
    ofEntries [(.str startKey, .int s.start), (.str stopKey, .int s.stop),
      (.str logicalKey, s.countLogical)] = .ok s := by
  obtain ⟨start, stop, logical⟩ := s
  rfl

end Scale

namespace Settings

/-- A read never keeps an output mapping unread: a mapping is read for its options. -/
theorem ofEntries_output_ne_other_map {d : Value.Entries} {c : Settings}
    (read : ofEntries d = .ok c) (es : Value.Entries) : c.output ≠ .other (.map es) := by
  unfold ofEntries at read
  dsimp only at read
  cases scaleRead : Scale.ofEntries (scaleEntries (mergeScan d)) with
  | error e =>
    rw [scaleRead] at read
    cases read
  | ok scale =>
    rw [scaleRead] at read
    simp only [bind, Except.bind, pure, Except.pure, Except.ok.injEq] at read
    subst read
    -- the output is read from a mapping, kept when it is something else, or the default
    split <;> simp_all [Output.ofEntries, Output.default]

/-- The output options a read takes from the value under `output`: the options of a mapping,
any other value kept unread, the defaults when there is none. -/
def outputOf : Option Value → Output
  | some (.map es) => Output.ofEntries es
  | some v => .other v
  | none => Output.default

/-- An output written as a document value is read back as it was, unless it is a mapping kept
unread. -/
theorem outputOf_toValue (o : Output) (notMap : ∀ es, o ≠ .other (.map es)) :
    outputOf (some o.toValue) = o := by
  cases o with
  | fields format color verbose => rfl
  | other v =>
    cases v with
    | map es => exact absurd rfl (notMap es)
    | _ => rfl

section Written

/- The written document has no `scan` section and no scale setting at the top level, so its top
level is read as it is and its scale settings are those of its `complexity` section. -/

variable (excluded included maxSize out : Value)

theorem mergeScan_written (scale : Value) :
    mergeScan [(.str "exclude_patterns", excluded), (.str "include_patterns", included),
      (.str "max_file_size", maxSize), (.str "complexity", scale), (.str "output", out)] =
    [(.str "exclude_patterns", excluded), (.str "include_patterns", included),
      (.str "max_file_size", maxSize), (.str "complexity", scale), (.str "output", out)] := rfl

theorem scaleEntries_written (s : Scale) :
    scaleEntries [(.str "exclude_patterns", excluded), (.str "include_patterns", included),
      (.str "max_file_size", maxSize), (.str "complexity", s.toValue), (.str "output", out)] =
    [(.str Scale.startKey, .int s.start), (.str Scale.stopKey, .int s.stop),
      (.str Scale.logicalKey, s.countLogical)] := rfl

theorem filter_not_scaleKey_written (scale : Value) :
    List.filter (fun e => !Scale.isScaleKey e.1)
      [(.str "exclude_patterns", excluded), (.str "include_patterns", included),
        (.str "max_file_size", maxSize), (.str "complexity", scale), (.str "output", out)] =
    [(.str "exclude_patterns", excluded), (.str "include_patterns", included),
      (.str "max_file_size", maxSize), (.str "complexity", scale), (.str "output", out)] := rfl

end Written

/-- Reading written settings takes every setting back from where it was written; the output
is read from the value it was written as. -/
theorem ofEntries_written (c : Settings) :
    ∃ es, c.toValue = .map es ∧
      ofEntries es = .ok { c with output := outputOf (some c.output.toValue) } := by
  refine ⟨_, rfl, ?_⟩
  unfold ofEntries
  dsimp only
  rw [mergeScan_written, scaleEntries_written, Scale.ofEntries_written,
    filter_not_scaleKey_written]
  -- what is left looks the other settings up among the five written entries
  rfl

/-- Settings written as a document read back as they were, unless their output is a mapping
kept unread. -/
theorem ofEntries_toValue (c : Settings) (outputRead : ∀ es, c.output ≠ .other (.map es)) :
    ∃ es, c.toValue = .map es ∧ ofEntries es = .ok c := by
  obtain ⟨es, written, readBack⟩ := ofEntries_written c
  rw [outputOf_toValue c.output outputRead] at readBack
  exact ⟨es, written, readBack⟩

/-- The settings of a read document, written as a document, read back unchanged: every value
comes back where it was, the unchecked ones (the patterns, the largest size, whether logical
operators count, an output given as something other than a mapping) as they are. Hence
writing after reading is idempotent: reading the written document and writing it again gives
the same document. -/
theorem read_settings_write_back_unchanged (d : Value.Entries) {c : Settings}
    (read : ofEntries d = .ok c) :
    ∃ es, c.toValue = .map es ∧ ofEntries es = .ok c ∧
      (ofEntries es).map toValue = .ok (.map es) := by
  obtain ⟨es, written, readBack⟩ := ofEntries_toValue c (ofEntries_output_ne_other_map read)
  refine ⟨es, written, readBack, ?_⟩
  rw [readBack, ← written]
  rfl

/-- A document whose output and exclude patterns are strings, neither a mapping nor a list,
and which spells the end of the scale by its editor name. -/
def unreadOutputDocument : Value.Entries :=
  [(.str "output", .str "plain"), (.str "exclude", .str "*.js"),
   (.str "maxComplexity", .int 30)]

/-- The settings that document is read as: its output and patterns kept unread. -/
def unreadOutputSettings : Settings :=
  { excludePatterns := .str "*.js", includePatterns := .null,
    maxFileSize := .int defaultMaxFileSize, scale := ⟨Scale.defaultStart, 30, .bool false⟩,
    output := .other (.str "plain") }

theorem unread_output_reads_back :
    ofEntries unreadOutputDocument = .ok unreadOutputSettings ∧
    ∃ es, unreadOutputSettings.toValue = .map es ∧
      ofEntries es = .ok unreadOutputSettings ∧
      (ofEntries es).map toValue = .ok (.map es) :=
  ⟨rfl, read_settings_write_back_unchanged unreadOutputDocument rfl⟩

end Settings

end Config

end Cyclomatic
