import Mathlib
import Cyclomatic.Proofs.FileDiscovery
import Cyclomatic.Proofs.DocumentOutline

/-!
What a scan reports. For settings whose patterns are lists of strings and whose largest size is
an integer, a scan of a target that exists never fails: it reports each file the discovery finds,
in that order. A file with a language that can be read is reported with the functions an analysis
of its text finds; a report carries an error, and then no functions, exactly when its file has no
language, cannot be read, or has a text that does not parse.
-/

namespace Cyclomatic

namespace Language

theorem ofTag_name (l : Language) : Language.ofTag l.name = some l := by
  cases l <;> decide +kernel

end Language

namespace ScanReport

theorem totalFunctions_eq_sum (r : ScanReport) :
    r.totalFunctions = (r.files.map (·.functions.length)).sum := rfl

/-- The highest complexity of a scan is the largest of its functions' complexities, 0 when there
is none. -/
theorem maxComplexity_eq_max? (r : ScanReport) :
    r.maxComplexity = ((r.files.flatMap (·.functions)).map (·.complexity)).max?.getD 0 := by
  have folded : (r.files.flatMap (·.functions)).foldl (fun m f => max m f.complexity) 0 =
      ((r.files.flatMap (·.functions)).map (·.complexity)).foldl max 0 := List.foldl_map.symm
  unfold maxComplexity
  rw [folded]
  cases (r.files.flatMap (·.functions)).map (·.complexity) with
  | nil => rfl
  | cons first rest =>
    -- the fold starts from 0, which the first complexity already dominates
    rw [List.foldl_cons, Nat.zero_max, List.max?_cons']
    rfl

end ScanReport

namespace Scan

open Config

/-- An analysis of a text in a language's own name reads it in that language. -/
theorem analyze_name (settings : Settings) (text : String) (l : Language) :
    Analysis.analyze settings text l.name =
      match l.parse text with
      | .ok doc => doc.outline.functions.map (·.score settings.scale.countsLogical)
      | .error _ => [] := by
  rw [Analysis.analyze_eq]
  unfold Analysis.document
  rw [Language.ofTag_name]
  cases parsed : l.parse text <;> simp [parsed]

section Report

variable (settings : Settings) (d : Disk) (path : String)

/-- A file with a language that can be read is reported with the functions an analysis of its
text finds. -/
theorem scanFile_functions {l : Language} {bytes : List UInt8}
    (known : Language.ofPath path = some l) (read : d.readBytes path = .ok bytes) :
    (scanFile settings d path).functions = Analysis.analyze settings (textOf bytes) l.name := by
  rw [analyze_name]
  rcases scanFile_cases settings d path with ⟨unknown, -⟩ | ⟨_, _, -, failed, -⟩ |
      ⟨l', bytes', e, known', read', parsed, report⟩ |
      ⟨l', bytes', doc, known', read', parsed, report⟩
  · simp [known] at unknown
  · simp [read] at failed
  all_goals
    -- the report read the same language and bytes
    obtain rfl := Option.some.inj (known.symm.trans known')
    obtain rfl := Except.ok.inj (read.symm.trans read')
    rw [report, parsed]

/-- A report has an error exactly when its file has no language, cannot be read, or has a text
that does not parse. -/
theorem scanFile_error_isSome :
    (scanFile settings d path).error.isSome ↔
      Language.ofPath path = none ∨ (∃ f, d.readBytes path = .error f) ∨
        ∃ l bytes e, Language.ofPath path = some l ∧ d.readBytes path = .ok bytes ∧
          l.parse (textOf bytes) = .error e := by
  rcases scanFile_cases settings d path with ⟨unknown, report⟩ | ⟨l, f, known, failed, report⟩ |
      ⟨l, bytes, e, known, read, parsed, report⟩ | ⟨l, bytes, doc, known, read, parsed, report⟩
  · simp [report, unknown]
  · simp only [report, Option.isSome_some, true_iff]
    exact .inr (.inl ⟨f, failed⟩)
  · simp only [report, Option.isSome_some, true_iff]
    exact .inr (.inr ⟨l, bytes, e, known, read, parsed⟩)
  · -- the file was read and parsed, so no disjunct holds
    simp only [report, Option.isSome_none, Bool.false_eq_true, false_iff]
    rintro (unknown | ⟨f, failed⟩ | ⟨l', bytes', e, known', read', failed⟩)
    · simp [known] at unknown
    · simp [read] at failed
    · obtain rfl := Option.some.inj (known.symm.trans known')
      obtain rfl := Except.ok.inj (read.symm.trans read')
      simp [parsed] at failed

/-- A file with a language that cannot be read is reported with the system's message. -/
theorem scanFile_error_of_read {l : Language} {f : FileFault}
    (known : Language.ofPath path = some l) (failed : d.readBytes path = .error f) :
    (scanFile settings d path).error = some ("Error reading file: " ++ f.message) := by
  rcases scanFile_cases settings d path with ⟨unknown, -⟩ | ⟨_, f', -, failed', report⟩ |
      ⟨_, _, _, -, read, -, -⟩ | ⟨_, _, _, -, read, -, -⟩
  · simp [known] at unknown
  · obtain rfl := Except.error.inj (failed.symm.trans failed')
    rw [report]
  all_goals simp [failed] at read

theorem scanFile_functions_of_error (failed : (scanFile settings d path).error.isSome) :
    (scanFile settings d path).functions = [] := by
  rcases scanFile_cases settings d path with ⟨-, report⟩ | ⟨_, _, -, -, report⟩ |
      ⟨_, _, _, -, -, -, report⟩ | ⟨_, _, _, -, -, -, report⟩
  · rw [report]
  · rw [report]
  · rw [report]
  · rw [report] at failed
    cases failed

end Report

/-- For such settings a scan of a target that exists reports each file found, in order, and
lists the reports' errors. -/
theorem scan_eq {s : Settings} {ex inc : List Value} {limit : Int} (filters : Filters s ex inc limit)
    (d : Disk) {target : String} (found : d.exists? target = true) :
    ∃ files, discover s d target = .ok files ∧
      scan s d target = .ok (ScanReport.mk (files.map (scanFile s d))
        ((files.map (scanFile s d)).filterMap fun r => r.error.map fun e => r.path ++ ": " ++ e)) := by
  refine ⟨_, discover_eq filters d target, ?_⟩
  unfold scan
  rw [found, discover_eq filters d target]
  rfl

/-- A scan of a target that exists, with settings whose patterns are lists of strings and whose
largest size is an integer, does not fail. It reports each file the discovery finds, in that
order. A report whose file has a language and can be read has the functions an analysis of the
file's text in that language finds; a report has an error, and then no functions, exactly when
its file has no language, cannot be read (the error then gives the system's message), or has a
text that does not parse. The scan's errors are the reports' errors, in order, each after its
path, and its summary counts all the functions and gives the highest complexity, 0 when there is
none. -/
theorem scan_reports_each_discovered_file (d : Disk) (target : String) {s : Settings}
    {ex inc : List Value} {limit : Int} (filters : Filters s ex inc limit)
    (found : d.exists? target = true) :
    ∃ files r, discover s d target = .ok files ∧ scan s d target = .ok r ∧
      r.files.map (·.path) = files ∧
      (∀ f ∈ r.files, f.language = Language.ofPath f.path ∧
        (∀ l bytes, f.language = some l → d.readBytes f.path = .ok bytes →
          f.functions = Analysis.analyze s (textOf bytes) l.name) ∧
        (f.error.isSome ↔ f.language = none ∨ (∃ e, d.readBytes f.path = .error e) ∨
          ∃ l bytes e, f.language = some l ∧ d.readBytes f.path = .ok bytes ∧
            l.parse (textOf bytes) = .error e) ∧
        (∀ e, f.language.isSome → d.readBytes f.path = .error e →
          f.error = some ("Error reading file: " ++ e.message)) ∧
        (f.error.isSome → f.functions = [])) ∧
      r.errors = r.files.filterMap (fun f => f.error.map fun e => f.path ++ ": " ++ e) ∧
      r.totalFunctions = (r.files.map (·.functions.length)).sum ∧
      r.maxComplexity = ((r.files.flatMap (·.functions)).map (·.complexity)).max?.getD 0 := by
  obtain ⟨files, discovered, scanned⟩ := scan_eq filters d found
  refine ⟨files, _, discovered, scanned, ?_, ?_, rfl, ScanReport.totalFunctions_eq_sum _,
    ScanReport.maxComplexity_eq_max? _⟩
  · -- one report per file, with the file's path
    rw [List.map_map]
    conv => rhs; rw [← List.map_id files]
    exact List.map_congr_left fun p _ => scanFile_path s d p
  · intro f member
    obtain ⟨p, _, rfl⟩ := List.mem_map.mp member
    rw [scanFile_path, scanFile_language]
    refine ⟨rfl, fun l bytes known read => scanFile_functions s d p known read,
      scanFile_error_isSome s d p, fun e known failed => ?_, scanFile_functions_of_error s d p⟩
    obtain ⟨l, known⟩ := Option.isSome_iff_exists.mp known
    exact scanFile_error_of_read s d p known failed

theorem default_scan_of_sample_tree :
    Filters Settings.default (Settings.defaultExclude.map .str) [] Settings.defaultMaxFileSize ∧
    sampleTree.exists? "." = true ∧
    ∃ files r, discover Settings.default sampleTree "." = .ok files ∧
      scan Settings.default sampleTree "." = .ok r ∧
      r.files.map (·.path) = files ∧
      (∀ f ∈ r.files, f.language = Language.ofPath f.path ∧
        (∀ l bytes, f.language = some l → sampleTree.readBytes f.path = .ok bytes →
          f.functions = Analysis.analyze Settings.default (textOf bytes) l.name) ∧
        (f.error.isSome ↔ f.language = none ∨ (∃ e, sampleTree.readBytes f.path = .error e) ∨
          ∃ l bytes e, f.language = some l ∧ sampleTree.readBytes f.path = .ok bytes ∧
            l.parse (textOf bytes) = .error e) ∧
        (∀ e, f.language.isSome → sampleTree.readBytes f.path = .error e →
          f.error = some ("Error reading file: " ++ e.message)) ∧
        (f.error.isSome → f.functions = [])) ∧
      r.errors = r.files.filterMap (fun f => f.error.map fun e => f.path ++ ": " ++ e) ∧
      r.totalFunctions = (r.files.map (·.functions.length)).sum ∧
      r.maxComplexity = ((r.files.flatMap (·.functions)).map (·.complexity)).max?.getD 0 := by
  have found : sampleTree.exists? "." = true := by decide +kernel
  exact ⟨filters_default, found,
    scan_reports_each_discovered_file sampleTree "." filters_default found⟩

/-- A tree holding one source file whose mode forbids reading it. -/
def lockedTree : Disk := ⟨[(["a.js"], .file [] 0 false)]⟩

example : (scan Settings.default lockedTree ".").toOption.map
    (fun r => r.files.map fun f => (f.path, f.error.isSome)) = some [("./a.js", true)] := by
  decide +kernel

end Scan

end Cyclomatic
