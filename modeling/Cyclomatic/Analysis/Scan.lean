import Cyclomatic.Analysis.Engine
import Cyclomatic.Files.Disk
import Cyclomatic.Files.Pattern
import Cyclomatic.Text.Utf8

/-!
Scanning a file or a directory: which files are read, and the report of each. A target that is a
file is scanned whatever its name. A directory is walked from the top, its files (sorted by code
point) before its subdirectories, each path joined to the target as written; a subdirectory the
patterns leave out is not entered, and a file is kept when its extension names a language, the
patterns keep it and its size, when the system gives one, is at most the largest size.
-/

namespace Cyclomatic

structure FileReport where
  path : String
  language : Option Language
  functions : List FunctionScore := []
  error : Option String := none
deriving Repr

/-- The report of a scan: one report per file, in the order read, and one line per error. -/
structure ScanReport where
  files : List FileReport
  errors : List String
deriving Repr

namespace ScanReport

def filesScanned (r : ScanReport) : Nat := r.files.length

def totalFunctions (r : ScanReport) : Nat := (r.files.map (·.functions.length)).foldr (· + ·) 0

/-- The highest complexity found, 0 when there is no function. -/
def maxComplexity (r : ScanReport) : Nat :=
  (r.files.flatMap (·.functions)).foldl (fun m f => max m f.complexity) 0

def languages (r : ScanReport) : List String :=
  let names := (r.files.filterMap (·.language)).map Language.name
  (names.foldl (fun acc n => if acc.contains n then acc else acc ++ [n]) []).mergeSort
    fun a b => decide (a ≤ b)

def atOrAbove (r : ScanReport) (threshold : Int) : List FunctionScore :=
  (r.files.flatMap (·.functions)).filter fun f => threshold ≤ (f.complexity : Int)

end ScanReport

inductive ScanError where
  | targetNotFound (path : String)
  /-- A relative path was asked for an empty path. -/
  | noPath
  | notIterable (typeName : String)
  | notPath (typeName : String)
  /-- A pattern is bytes, which cannot match a name that is text. -/
  | bytesPattern
  | notComparable (typeName : String)
deriving Repr

namespace ScanError

def kind : ScanError → String
  | .targetNotFound _ => "FileNotFoundError"
  | .noPath => "ValueError"
  | _ => "TypeError"

def message : ScanError → String
  | .targetNotFound p => "Target not found: " ++ p
  | .noPath => "no path specified"
  | .notIterable t => "'" ++ t ++ "' object is not iterable"
  | .notPath t => "expected str, bytes or os.PathLike object, not " ++ t
  | .bytesPattern => "cannot use a bytes pattern on a string-like object"
  | .notComparable t => "'>' not supported between instances of 'int' and '" ++ t ++ "'"

end ScanError

namespace Scan

open Config

def patternsOf : Value → Except ScanError (List Value)
  | .seq items => .ok items
  | .map es => .ok (es.map (·.1))
  | .str s => .ok (s.toList.map fun c => .str (String.singleton c))
  | .codes ps => .ok (ps.map fun n => Value.ofPoints [n])
  | v => .error (.notIterable v.typeName)

def patternPoints : Value → Except ScanError (List Nat)
  | .str p => .ok (p.toList.map Char.toNat)
  | .codes ps => .ok ps
  | .bytes _ => .error .bytesPattern
  | v => .error (.notPath v.typeName)

/-- Whether an exclude pattern leaves out a path: it matches the path relative to the base or the
last component, or it ends in `/**` and what comes before matches the relative path. -/
def excludes (pattern : List Nat) (rel name : String) : Bool :=
  Pattern.matchesName pattern rel || Pattern.matchesName pattern name ||
    ("/**".toList.map Char.toNat).isSuffixOf pattern &&
      Pattern.matchesName (pattern.take (pattern.length - 3)) rel

/-- Whether an include pattern keeps a path: it matches the relative path or the last
component. -/
def includes (pattern : List Nat) (rel name : String) : Bool :=
  Pattern.matchesName pattern rel || Pattern.matchesName pattern name

/-- Whether a path is left out of a scan of a base. Include patterns apply only to a file. -/
def ignored (settings : Settings) (d : Disk) (path base : String) : Except ScanError Bool := do
  let some rel := Path.relative path base | throw .noPath
  let name := Path.basename path
  let excluded ← (← patternsOf settings.excludePatterns).anyM fun p => do
    pure (excludes (← patternPoints p) rel name)
  if excluded then return true
  if settings.includePatterns.truthy && d.isFile path then
    let kept ← (← patternsOf settings.includePatterns).anyM fun p => do
      pure (includes (← patternPoints p) rel name)
    return !kept
  return false

def tooLarge (size : Nat) : Value → Except ScanError Bool
  | .int n => .ok ((size : Int) > n)
  | .bool b => .ok (size > (if b then 1 else 0))
  | .float x => .ok (Num.lt (.float x) (.int size))
  | v => .error (.notComparable v.typeName)

def sortNames (names : List String) : List String := names.mergeSort fun a b => decide (a ≤ b)

/-- The files a walk of a directory yields, its own files first, then each kept subdirectory
in turn. -/
def walk (settings : Settings) (d : Disk) (target : String) : Nat → String → Except ScanError (List String)
  | 0, _ => .ok []
  | fuel + 1, root => do
    let entries := d.children root
    let dirs ← (entries.filter (·.2)).map (·.1) |>.filterM fun n => do
      pure !(← ignored settings d (Path.join root n) target)
    let files := sortNames ((entries.filter (!·.2)).map (·.1))
    let here ← files.filterM fun n => do
      let path := Path.join root n
      if (Language.ofPath path).isNone then return false
      if ← ignored settings d path target then return false
      -- a file whose size the system does not give is passed over
      let some size := d.fileSize? path | return false
      return !(← tooLarge size settings.maxFileSize)
    let below ← (sortNames dirs).mapM fun n => walk settings d target fuel (Path.join root n)
    pure ((here.map fun n => Path.join root n) ++ below.flatten)

/-- Fuel for every walk of a disk: one round for each directory above the working directory, one
for each entry below it, and one for the deepest directory's files. -/
def walkFuel (d : Disk) : Nat := Path.workingDir.length + d.entries.length + 1

/-- The files a scan of a target reads: the target itself when it is a file, otherwise the
files a walk of it yields. -/
def discover (settings : Settings) (d : Disk) (target : String) : Except ScanError (List String) :=
  if d.isFile (Path.pure target) then .ok [Path.pure target]
  else walk settings d target (walkFuel d) (Path.pure target)

/-- The text a scan reads from a file's bytes: UTF-8 with each fault replaced, line breaks read
as a text file's. -/
def textOf (bytes : List UInt8) : String := Utf8.readLines (Utf8.decodeLossy bytes)

def scanFile (settings : Settings) (d : Disk) (path : String) : FileReport :=
  match Language.ofPath path with
  | none => { path, language := none, error := some "Unsupported file type" }
  | some l =>
    match d.readBytes path with
    | .error f => { path, language := some l, error := some ("Error reading file: " ++ f.message) }
    | .ok bytes =>
      match l.parse (textOf bytes) with
      | .error e => { path, language := some l, error := some e.message }
      | .ok doc =>
        let logical := settings.scale.countsLogical
        { path, language := some l, functions := doc.outline.functions.map (·.score logical) }

/-- A report says one of four things: the file has no language, it cannot be read, its text
does not parse, or the functions of its parse. -/
theorem scanFile_cases (settings : Settings) (d : Disk) (path : String) :
    (Language.ofPath path = none ∧
      scanFile settings d path = { path, language := none, error := some "Unsupported file type" }) ∨
    (∃ l f, Language.ofPath path = some l ∧ d.readBytes path = .error f ∧
      scanFile settings d path =
        { path, language := some l, error := some ("Error reading file: " ++ f.message) }) ∨
    (∃ l bytes e, Language.ofPath path = some l ∧ d.readBytes path = .ok bytes ∧
      l.parse (textOf bytes) = .error e ∧
      scanFile settings d path = { path, language := some l, error := some e.message }) ∨
    (∃ l bytes doc, Language.ofPath path = some l ∧ d.readBytes path = .ok bytes ∧
      l.parse (textOf bytes) = .ok doc ∧
      scanFile settings d path =
        { path, language := some l,
          functions := doc.outline.functions.map (·.score settings.scale.countsLogical) }) := by
  unfold scanFile
  cases known : Language.ofPath path with
  | none => exact .inl ⟨rfl, rfl⟩
  | some l =>
    cases read : d.readBytes path with
    | error f => exact .inr (.inl ⟨l, f, rfl, rfl, rfl⟩)
    | ok bytes =>
      -- the parse inside the report is of the same text, so it is rewritten, not computed
      cases parsed : l.parse (textOf bytes) with
      | error e => exact .inr (.inr (.inl ⟨l, bytes, e, rfl, rfl, parsed, by simp only [parsed]⟩))
      | ok doc => exact .inr (.inr (.inr ⟨l, bytes, doc, rfl, rfl, parsed, by simp only [parsed]⟩))

@[simp] theorem scanFile_path (settings : Settings) (d : Disk) (path : String) :
    (scanFile settings d path).path = path := by
  rcases scanFile_cases settings d path with ⟨-, report⟩ | ⟨_, _, -, -, report⟩ |
      ⟨_, _, _, -, -, -, report⟩ | ⟨_, _, _, -, -, -, report⟩ <;> rw [report]

@[simp] theorem scanFile_language (settings : Settings) (d : Disk) (path : String) :
    (scanFile settings d path).language = Language.ofPath path := by
  rcases scanFile_cases settings d path with ⟨known, report⟩ | ⟨_, _, known, -, report⟩ |
      ⟨_, _, _, known, -, -, report⟩ | ⟨_, _, _, known, -, -, report⟩ <;> rw [report, known]

def scan (settings : Settings) (d : Disk) (target : String) : Except ScanError ScanReport := do
  if !d.exists? target then throw (.targetNotFound target)
  let files ← discover settings d target
  let reports := files.map (scanFile settings d)
  let errors := reports.filterMap fun r => r.error.map fun e => r.path ++ ": " ++ e
  pure { files := reports, errors }

end Scan

end Cyclomatic
