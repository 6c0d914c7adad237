import Cyclomatic.Config.Settings
import Cyclomatic.Proofs.EntryStore

/-!
How a settings document sets the complexity scale. The scale settings of the top level are
collected in document order, the `complexity` section is stored over them entry by entry, and
the scale takes the later spelling of each setting. Storing keeps a key's place, so the section
does not always override the top level: when its later spelling is also at the top level and
another spelling comes after it there, that other spelling is read.
-/

namespace Cyclomatic

/-- The members of `ys` that fail `c`, appended to `xs`, end on the last member of `ys` (on the
last of `xs` when `ys` is empty) unless that member passes `c` and either `xs` does not end on it
or some member of `ys` fails `c`. -/
theorem getLast?_append_filter_eq_iff {α : Type} (xs ys : List α) (c : α → Bool) :
    (xs ++ ys.filter fun k => !c k).getLast? = ys.getLast?.or xs.getLast? ↔
      ¬ ∃ k, ys.getLast? = some k ∧ c k = true ∧
        (xs.getLast? ≠ some k ∨ ∃ o ∈ ys, c o = false) := by
  rcases List.eq_nil_or_concat ys with empty | ⟨init, last, split⟩
  · subst empty
    simp
  · subst split
    rw [List.concat_eq_append, List.filter_append, List.getLast?_concat, Option.some_or]
    by_cases kept : c last = true
    · have dropped : [last].filter (fun k => !c k) = [] := by simp [kept]
      rw [dropped, List.append_nil, List.getLast?_append]
      cases rest : (init.filter fun k => !c k).getLast? with
      | some o =>
        -- a member of `ys` before its last one fails `c`, so the list ends on it instead
        have oFails : c o = false := by
          simpa using (List.mem_filter.mp (List.mem_of_getLast? rest)).2
        have oIn : o ∈ init := (List.mem_filter.mp (List.mem_of_getLast? rest)).1
        have apart : o ≠ last := fun same => by rw [same, kept] at oFails; cases oFails
        simp only [Option.some_or, Option.some.injEq, apart, false_iff, Classical.not_not]
        exact ⟨last, rfl, kept, .inr ⟨o, List.mem_append_left _ oIn, oFails⟩⟩
      | none =>
        have allPass : ∀ o ∈ init ++ [last], c o = true := by
          intro o member
          rcases List.mem_append.mp member with before | isLast
          · have passes := List.filter_eq_nil_iff.mp (List.getLast?_eq_none_iff.mp rest) o before
            simpa using passes
          · rw [List.mem_singleton.mp isLast]
            exact kept
        rw [Option.none_or]
        constructor
        · rintro ends ⟨k, same, _, other⟩
          rcases other with moved | ⟨o, member, fails⟩
          · exact moved (ends.trans (congrArg some (Option.some.inj same)))
          · rw [allPass o member] at fails
            cases fails
        · intro unshadowed
          exact Classical.byContradiction fun moved => unshadowed ⟨last, rfl, kept, .inl moved⟩
    · have stays : [last].filter (fun k => !c k) = [last] := by simp [kept]
      rw [stays, ← List.append_assoc, List.getLast?_concat]
      simp only [true_iff]
      rintro ⟨k, same, passes, _⟩
      rw [← Option.some.inj same] at passes
      exact kept passes

namespace Config

namespace Scale

/-- Whether a key spells a setting: it is the setting name, or the editor name that stands for
it. -/
def spells (f : String) (k : Value) : Bool := Value.sameKey (canonicalKey k) (.str f)

/-- The spellings of a setting that a mapping holds, in its order. -/
def spellings (es : Value.Entries) (f : String) : List Value :=
  (es.filter fun e => spells f e.1).map Prod.fst

/-- The value of the last entry of a mapping that spells a setting. -/
def lastSpelled (es : Value.Entries) (f : String) : Option Value :=
  (es.filter fun e => spells f e.1).getLast?.map Prod.snd

theorem str_of_spells {f : String} {k : Value} (spelled : spells f k = true) :
    ∃ s, k = .str s := by
  unfold spells at spelled
  cases k with
  | str s => exact ⟨s, rfl⟩
  | _ => cases Value.sameKey_str_right.mp spelled

theorem isScaleKey_of_spells {f : String} {k : Value} (field : isField f = true)
    (spelled : spells f k = true) : isScaleKey k = true := by
  unfold isScaleKey
  rw [Value.sameKey_str_right.mp spelled]
  exact field

theorem spells_of_sameKey_right {f : String} {x k : Value} (spelled : spells f k = true)
    (same : Value.sameKey x k = true) : spells f x = true := by
  obtain ⟨s, rfl⟩ := str_of_spells spelled
  rwa [Value.sameKey_str_right.mp same]

theorem spells_of_sameKey_left {f : String} {x k : Value} (spelled : spells f x = true)
    (same : Value.sameKey x k = true) : spells f k = true := by
  obtain ⟨s, rfl⟩ := str_of_spells spelled
  rwa [Value.sameKey_str_left.mp same]

/-- Reading a scale from a mapping: of the spellings of a setting the later wins, and keys that
spell no setting are ignored. -/
theorem ofEntries_eq (data : Value.Entries) :
    ofEntries data =
      make (lastSpelled data startKey) (lastSpelled data stopKey)
        (lastSpelled data logicalKey) := by
  have later : ∀ f, Value.Entries.get? (Value.Entries.ofList
      (data.map fun e => (canonicalKey e.1, e.2))) f = lastSpelled data f := by
    intro f
    unfold Value.Entries.get? Value.Entries.ofList
    rw [Value.Entries.find?_update_str, List.filter_map, List.getLast?_map, Option.map_map]
    exact Option.or_none
  unfold ofEntries
  dsimp only
  rw [later, later, later]

end Scale

namespace Settings

/-- The `complexity` section of a top level, when it is a mapping; otherwise nothing. -/
def complexitySection (top : Value.Entries) : Value.Entries :=
  match top.get? "complexity" with
  | some (.map part) => part
  | _ => []

/-- The spelling a setting is read from when the section overrides the top level: the later
spelling in the section, or the later one at the top level when the section has none. -/
def preferredSpelling (top : Value.Entries) (f : String) : Option Value :=
  (Scale.spellings (complexitySection top) f).getLast?.or (Scale.spellings top f).getLast?

/-- The value of a setting when the section overrides the top level. -/
def preferredValue (top : Value.Entries) (f : String) : Option Value :=
  (Scale.lastSpelled (complexitySection top) f).or (Scale.lastSpelled top f)

/-- The spelling the scale reads: the last of the spellings at the top level, in their order,
followed by those found only in the section, in theirs. -/
def readSpelling (top : Value.Entries) (f : String) : Option Value :=
  (Scale.spellings top f ++ (Scale.spellings (complexitySection top) f).filter
    fun k => !Value.Entries.contains top k).getLast?

/-- The value under a key: the section's when the section has the key, else the top level's. -/
def valueIn (top : Value.Entries) (k : Value) : Option Value :=
  (Value.Entries.find? (complexitySection top) k).or (Value.Entries.find? top k)

/-- The value the scale reads for a setting. -/
def readValue (top : Value.Entries) (f : String) : Option Value :=
  (readSpelling top f).bind (valueIn top)

/-- The section's later spelling of a setting is also at the top level, and another spelling
comes after it there or is found only in the section. -/
def Shadowed (top : Value.Entries) (f : String) : Prop :=
  ∃ k, (Scale.spellings (complexitySection top) f).getLast? = some k ∧
    Value.Entries.contains top k = true ∧
    ((Scale.spellings top f).getLast? ≠ some k ∨
      ∃ o ∈ Scale.spellings (complexitySection top) f, Value.Entries.contains top o = false)

/-- The keys of a mapping that spell a scale setting, in order. -/
def scaleKeys (es : Value.Entries) : List Value :=
  (es.filter fun e => Scale.isScaleKey e.1).map Prod.fst

theorem scaleEntries_eq (top : Value.Entries) :
    scaleEntries top =
      Value.Entries.update (top.filter fun e => Scale.isScaleKey e.1) (complexitySection top) := by
  unfold scaleEntries complexitySection
  generalize top.get? "complexity" = found
  rcases found with _ | found
  · rfl
  · cases found <;> rfl

theorem ofEntries_scale (d : Value.Entries) :
    (ofEntries d).map (·.scale) = Scale.ofEntries (scaleEntries (mergeScan d)) := by
  unfold ofEntries
  dsimp only
  cases Scale.ofEntries (scaleEntries (mergeScan d)) <;> rfl

section Spelled

variable {f : String}

theorem spells_and_sameKey {k : Value} (spelled : Scale.spells f k = true) (x : Value) :
    (Scale.spells f x && Value.sameKey x k) = Value.sameKey x k := by
  by_cases same : Value.sameKey x k = true
  · rw [same, Scale.spells_of_sameKey_right spelled same]
    rfl
  · simp [same]

theorem find?_filter_spelled (es : Value.Entries) {k : Value} (spelled : Scale.spells f k = true) :
    Value.Entries.find? (es.filter fun e => Scale.spells f e.1) k = Value.Entries.find? es k := by
  unfold Value.Entries.find?
  rw [List.find?_filter]
  congr 2
  funext e
  rw [Bool.decide_and, Bool.decide_eq_true, Bool.decide_eq_true]
  exact spells_and_sameKey spelled e.1

theorem contains_filter_spelled (es : Value.Entries) {k : Value}
    (spelled : Scale.spells f k = true) :
    Value.Entries.contains (es.filter fun e => Scale.spells f e.1) k =
      Value.Entries.contains es k := by
  unfold Value.Entries.contains
  rw [List.any_filter]
  congr 1
  funext e
  exact spells_and_sameKey spelled e.1

variable (f)

theorem filter_insert_spelled (es : Value.Entries) (k v : Value) :
    (Value.Entries.insert es k v).filter (fun e => Scale.spells f e.1) =
      if Scale.spells f k then Value.Entries.insert (es.filter fun e => Scale.spells f e.1) k v
      else es.filter fun e => Scale.spells f e.1 := by
  unfold Value.Entries.insert
  -- storing in place keeps every key, so the entries that spell the setting stay where they are
  have keepKeys := Value.Entries.comp_store (Scale.spells f) k v
  by_cases spelled : Scale.spells f k = true
  · rw [if_pos spelled, contains_filter_spelled es spelled]
    split
    · rw [List.filter_map, keepKeys]
    · rw [List.filter_append]
      simp [spelled]
  · rw [if_neg spelled]
    split
    · rw [List.filter_map, keepKeys]
      have unchanged : ∀ e ∈ es.filter (fun e => Scale.spells f e.1),
          (if Value.sameKey e.1 k = true then (e.1, v) else e) = e := by
        intro e member
        have apart : Value.sameKey e.1 k = false := Bool.eq_false_iff.mpr fun same =>
          spelled (Scale.spells_of_sameKey_left (List.mem_filter.mp member).2 same)
        simp [apart]
      rw [List.map_congr_left unchanged, List.map_id']
    · rw [List.filter_append]
      simp [spelled]

theorem filter_update_spelled (es more : Value.Entries) :
    (Value.Entries.update es more).filter (fun e => Scale.spells f e.1) =
      Value.Entries.update (es.filter fun e => Scale.spells f e.1)
        (more.filter fun e => Scale.spells f e.1) := by
  induction more generalizing es with
  | nil => rfl
  | cons m more ih =>
    show (Value.Entries.update (Value.Entries.insert es m.1 m.2) more).filter _ = _
    rw [ih, filter_insert_spelled, List.filter_cons]
    by_cases spelled : Scale.spells f m.1 = true
    · rw [if_pos spelled, if_pos spelled]
      rfl
    · rw [if_neg spelled, if_neg spelled]

variable {f}

theorem spells_of_mem_spellings {es : Value.Entries} {k : Value}
    (member : k ∈ Scale.spellings es f) : Scale.spells f k = true := by
  obtain ⟨e, inFilter, rfl⟩ := List.mem_map.mp member
  exact (List.mem_filter.mp inFilter).2

theorem strKeys_of_spelled {es : Value.Entries} :
    ∀ e ∈ es.filter (fun e => Scale.spells f e.1), ∃ s, e.1 = .str s :=
  fun _ member => Scale.str_of_spells (List.mem_filter.mp member).2

theorem filter_spelled_filter_scaleKey (field : Scale.isField f = true) (es : Value.Entries) :
    (es.filter fun e => Scale.isScaleKey e.1).filter (fun e => Scale.spells f e.1) =
      es.filter fun e => Scale.spells f e.1 := by
  rw [List.filter_filter]
  apply List.filter_congr
  intro e _
  by_cases spelled : Scale.spells f e.1 = true
  · simp [spelled, Scale.isScaleKey_of_spells field spelled]
  · simp [spelled]

/-- The spelled entries of the scale settings: those of the top level, with the section's
stored over them. -/
theorem filter_spelled_scaleEntries (field : Scale.isField f = true) (top : Value.Entries) :
    (scaleEntries top).filter (fun e => Scale.spells f e.1) =
      Value.Entries.update (top.filter fun e => Scale.spells f e.1)
        ((complexitySection top).filter fun e => Scale.spells f e.1) := by
  rw [scaleEntries_eq, filter_update_spelled, filter_spelled_filter_scaleKey field]

theorem keys_scaleEntries (field : Scale.isField f = true) (top : Value.Entries)
    (sectionDistinct : (Scale.spellings (complexitySection top) f).Nodup) :
    ((scaleEntries top).filter (fun e => Scale.spells f e.1)).map Prod.fst =
      Scale.spellings top f ++ (Scale.spellings (complexitySection top) f).filter
        fun k => !Value.Entries.contains top k := by
  rw [filter_spelled_scaleEntries field,
    Value.Entries.keys_update _ _ strKeys_of_spelled sectionDistinct]
  congr 1
  apply List.filter_congr
  intro k member
  rw [contains_filter_spelled top (spells_of_mem_spellings member)]

theorem contains_of_mem_spellings {es : Value.Entries} {k : Value}
    (member : k ∈ Scale.spellings es f) : Value.Entries.contains es k = true := by
  obtain ⟨s, key⟩ := Scale.str_of_spells (spells_of_mem_spellings member)
  obtain ⟨e, inFilter, rfl⟩ := List.mem_map.mp member
  exact (Value.Entries.contains_iff_mem_keys es key).mpr
    (List.mem_map_of_mem (List.mem_filter.mp inFilter).1)

theorem nodup_keys_scaleEntries (field : Scale.isField f = true) (top : Value.Entries)
    (topDistinct : (Scale.spellings top f).Nodup)
    (sectionDistinct : (Scale.spellings (complexitySection top) f).Nodup) :
    (((scaleEntries top).filter (fun e => Scale.spells f e.1)).map Prod.fst).Nodup := by
  rw [keys_scaleEntries field top sectionDistinct, List.nodup_append]
  refine ⟨topDistinct, sectionDistinct.sublist List.filter_sublist, ?_⟩
  -- a spelling found only in the section is none of those at the top level
  intro a atTop b onlySection same
  have absent := (List.mem_filter.mp onlySection).2
  rw [← same, contains_of_mem_spellings atTop] at absent
  cases absent

theorem find?_scaleEntries (field : Scale.isField f = true) (top : Value.Entries)
    (sectionDistinct : (Scale.spellings (complexitySection top) f).Nodup) {k : Value}
    (spelled : Scale.spells f k = true) :
    Value.Entries.find? ((scaleEntries top).filter fun e => Scale.spells f e.1) k =
      valueIn top k := by
  obtain ⟨s, rfl⟩ := Scale.str_of_spells spelled
  rw [filter_spelled_scaleEntries field, Value.Entries.find?_update_str,
    Value.Entries.getLast?_filter_eq_find? _ _ sectionDistinct, find?_filter_spelled _ spelled,
    find?_filter_spelled _ spelled]
  rfl

/-- The scale reads the value, from the section first, under the spelling that comes last. -/
theorem lastSpelled_scaleEntries (field : Scale.isField f = true) (top : Value.Entries)
    (topDistinct : (Scale.spellings top f).Nodup)
    (sectionDistinct : (Scale.spellings (complexitySection top) f).Nodup) :
    Scale.lastSpelled (scaleEntries top) f = readValue top f := by
  unfold Scale.lastSpelled readValue readSpelling
  rw [Value.Entries.getLast?_map_snd _ strKeys_of_spelled
      (nodup_keys_scaleEntries field top topDistinct sectionDistinct),
    keys_scaleEntries field top sectionDistinct]
  apply Option.bind_congr
  intro k last
  have spelled : Scale.spells f k = true := by
    rcases List.mem_append.mp (List.mem_of_getLast? last) with atTop | inSection
    · exact spells_of_mem_spellings atTop
    · exact spells_of_mem_spellings (List.mem_filter.mp inSection).1
  exact find?_scaleEntries field top sectionDistinct spelled

/-- The spelling read is the preferred one exactly when the setting is not shadowed. -/
theorem readSpelling_eq_preferred_iff (top : Value.Entries) (f : String) :
    readSpelling top f = preferredSpelling top f ↔ ¬ Shadowed top f :=
  getLast?_append_filter_eq_iff _ _ _

/-- In a mapping whose spellings of a setting are distinct, the last spelled entry is the one
found under the last spelling. -/
theorem lastSpelled_eq_bind {es : Value.Entries} (distinct : (Scale.spellings es f).Nodup) :
    Scale.lastSpelled es f = (Scale.spellings es f).getLast?.bind (Value.Entries.find? es) := by
  unfold Scale.lastSpelled
  rw [Value.Entries.getLast?_map_snd _ strKeys_of_spelled distinct]
  apply Option.bind_congr
  intro k last
  exact find?_filter_spelled es (spells_of_mem_spellings (List.mem_of_getLast? last))

theorem find?_isSome_of_mem_spellings {es : Value.Entries} {k : Value}
    (member : k ∈ Scale.spellings es f) : (Value.Entries.find? es k).isSome = true := by
  have present := contains_of_mem_spellings member
  unfold Value.Entries.contains at present
  unfold Value.Entries.find?
  rw [Option.isSome_map]
  exact List.find?_isSome.mpr (List.any_eq_true.mp present)

theorem find?_eq_none_of_spellings_nil {es : Value.Entries} {k : Value}
    (empty : Scale.spellings es f = []) (spelled : Scale.spells f k = true) :
    Value.Entries.find? es k = none := by
  rw [← find?_filter_spelled es spelled]
  unfold Scale.spellings at empty
  rw [List.map_eq_nil_iff.mp empty]
  rfl

/-- Under the preferred spelling the value, from the section first, is the preferred value. -/
theorem preferredSpelling_bind (top : Value.Entries) (topDistinct : (Scale.spellings top f).Nodup)
    (sectionDistinct : (Scale.spellings (complexitySection top) f).Nodup) :
    (preferredSpelling top f).bind (valueIn top) = preferredValue top f := by
  unfold preferredSpelling preferredValue valueIn
  rw [lastSpelled_eq_bind sectionDistinct, lastSpelled_eq_bind topDistinct]
  cases sectionLast : (Scale.spellings (complexitySection top) f).getLast? with
  | some k =>
    -- the section has the spelling, so its value comes first
    obtain ⟨v, found⟩ := Option.isSome_iff_exists.mp
      (find?_isSome_of_mem_spellings (List.mem_of_getLast? sectionLast))
    simp [found]
  | none =>
    have empty := List.getLast?_eq_none_iff.mp sectionLast
    rw [Option.none_or, Option.bind_none, Option.none_or]
    apply Option.bind_congr
    intro k last
    rw [find?_eq_none_of_spellings_nil empty
      (spells_of_mem_spellings (List.mem_of_getLast? last)), Option.none_or]

theorem spellings_sublist_scaleKeys (field : Scale.isField f = true) (es : Value.Entries) :
    (Scale.spellings es f).Sublist (scaleKeys es) := by
  unfold Scale.spellings scaleKeys
  apply List.Sublist.map
  rw [← filter_spelled_filter_scaleKey field]
  exact List.filter_sublist

end Spelled

/-- Both spellings of the start at the top level, the editor name first, and a `complexity`
section that gives the editor name. -/
def startSpelledTwice : Value.Entries :=
  [(.str "startComplexity", .int 1), (.str "start_complexity", .int 2),
   (.str "complexity", .map [(.str "startComplexity", .int 3)])]

/-- The scale of a settings document is made from the value read for each setting: under the
spelling that comes last among those of the top level (with the `scan` section merged in)
followed by those found only in the `complexity` section, taken from the section when it has
that spelling. That spelling is the preferred one (the section's later spelling, or the top
level's later one when the section has none) exactly when the setting is not shadowed, and the
value read is then the preferred value. A scale read from a mapping alone takes the later
spelling of each setting and ignores every other key. -/
theorem scale_reads_preferred_spelling_unless_shadowed (d : Value.Entries)
    (topDistinct : (scaleKeys (mergeScan d)).Nodup)
    (sectionDistinct : (scaleKeys (complexitySection (mergeScan d))).Nodup) :
    (ofEntries d).map (·.scale) =
      Scale.make (readValue (mergeScan d) Scale.startKey) (readValue (mergeScan d) Scale.stopKey)
        (readValue (mergeScan d) Scale.logicalKey) ∧
    (∀ f, Scale.isField f = true →
      (readSpelling (mergeScan d) f = preferredSpelling (mergeScan d) f ↔
        ¬ Shadowed (mergeScan d) f) ∧
      (¬ Shadowed (mergeScan d) f →
        readValue (mergeScan d) f = preferredValue (mergeScan d) f)) ∧
    ∀ es, Scale.ofEntries es =
      Scale.make (Scale.lastSpelled es Scale.startKey) (Scale.lastSpelled es Scale.stopKey)
        (Scale.lastSpelled es Scale.logicalKey) := by
  have distinct : ∀ f, Scale.isField f = true →
      (Scale.spellings (mergeScan d) f).Nodup ∧
        (Scale.spellings (complexitySection (mergeScan d)) f).Nodup := fun f field =>
    ⟨topDistinct.sublist (spellings_sublist_scaleKeys field _),
      sectionDistinct.sublist (spellings_sublist_scaleKeys field _)⟩
  have reads : ∀ f, Scale.isField f = true →
      Scale.lastSpelled (scaleEntries (mergeScan d)) f = readValue (mergeScan d) f :=
    fun f field => lastSpelled_scaleEntries field _ (distinct f field).1 (distinct f field).2
  refine ⟨?_, fun f field => ⟨readSpelling_eq_preferred_iff _ f, fun unshadowed => ?_⟩,
    Scale.ofEntries_eq⟩
  · rw [ofEntries_scale, Scale.ofEntries_eq, reads _ rfl, reads _ rfl, reads _ rfl]
  · rw [readValue, (readSpelling_eq_preferred_iff _ f).mpr unshadowed]
    exact preferredSpelling_bind _ (distinct f field).1 (distinct f field).2

/-- The document with the start spelled twice meets the theorem's conditions: no scale key twice
at the top level or in the section. -/
theorem scale_read_for_start_spelled_twice :
    (scaleKeys (mergeScan startSpelledTwice)).Nodup ∧
    (scaleKeys (complexitySection (mergeScan startSpelledTwice))).Nodup ∧
    (ofEntries startSpelledTwice).map (·.scale) =
      Scale.make (readValue (mergeScan startSpelledTwice) Scale.startKey)
        (readValue (mergeScan startSpelledTwice) Scale.stopKey)
        (readValue (mergeScan startSpelledTwice) Scale.logicalKey) ∧
    (∀ f, Scale.isField f = true →
      (readSpelling (mergeScan startSpelledTwice) f =
          preferredSpelling (mergeScan startSpelledTwice) f ↔
        ¬ Shadowed (mergeScan startSpelledTwice) f) ∧
      (¬ Shadowed (mergeScan startSpelledTwice) f →
        readValue (mergeScan startSpelledTwice) f =
          preferredValue (mergeScan startSpelledTwice) f)) ∧
    ∀ es, Scale.ofEntries es =
      Scale.make (Scale.lastSpelled es Scale.startKey) (Scale.lastSpelled es Scale.stopKey)
        (Scale.lastSpelled es Scale.logicalKey) := by
  have topKeys : (scaleKeys (mergeScan startSpelledTwice)).Nodup := by
    show [Value.str "startComplexity", .str "start_complexity"].Nodup
    simp
  have sectionKeys : (scaleKeys (complexitySection (mergeScan startSpelledTwice))).Nodup := by
    show [Value.str "startComplexity"].Nodup
    simp
  exact ⟨topKeys, sectionKeys,
    scale_reads_preferred_spelling_unless_shadowed startSpelledTwice topKeys sectionKeys⟩

/-- The section's editor name is stored in the first place, so the start is read from the
setting name after it: the section gives 3, the scale starts at 2. -/
theorem section_start_overridden_by_top_level :
    Shadowed (mergeScan startSpelledTwice) Scale.startKey ∧
    (ofEntries startSpelledTwice).map (·.scale.start) = .ok 2 ∧
    preferredValue (mergeScan startSpelledTwice) Scale.startKey = some (.int 3) := by
  refine ⟨⟨.str "startComplexity", rfl, rfl, .inl ?_⟩, rfl, rfl⟩
  -- the top level ends on the setting name
  have ends : (Scale.spellings (mergeScan startSpelledTwice) Scale.startKey).getLast? =
      some (.str "start_complexity") := rfl
  rw [ends]
  intro same
  exact absurd (Value.str.inj (Option.some.inj same)) (by decide)

end Settings

end Config

end Cyclomatic
