import Cyclomatic.Analysis.Scan
import Cyclomatic.Report.Document
import Cyclomatic.Value.Json

/-!
Scan reports and highlights as the program prints them: JSON, and text for people. The text
report opens with a banner and a summary, then lists each file with one line per function: the
line range right-aligned in nine columns, the label (padded when the score tints) and the name,
or `<anonymous>`. A file with no functions is listed only in verbose mode, and errors come last.
-/

namespace Cyclomatic

namespace FileReport

/-- The document form of a file report; the error only when there is one. -/
def toValue (r : FileReport) : Value :=
  .map ([(.str "file_path", .str r.path),
         (.str "language", Value.ofOption (r.language.map Language.name)),
         (.str "functions", .seq (r.functions.map FunctionScore.toValue))] ++
        (match r.error with
         | some e => if e.isEmpty then [] else [(.str "error", .str e)]
         | none => []))

end FileReport

namespace ScanReport

/-- The document form of a scan report; the scan time is always zero. -/
def toValue (r : ScanReport) : Value :=
  .map [(.str "summary", .map [(.str "files_scanned", .int r.filesScanned),
                               (.str "scan_time_seconds", .float (Binary64.ofInt 0)),
                               (.str "languages_detected", .seq (r.languages.map .str)),
                               (.str "total_functions", .int r.totalFunctions),
                               (.str "max_complexity", .int r.maxComplexity)]),
        (.str "files", .seq (r.files.map FileReport.toValue)),
        (.str "errors", .seq (r.errors.map .str))]

end ScanReport

namespace Report

inductive Format where
  | text
  | json
deriving Repr, DecidableEq

/-- The format a name gives, in any case: `text` or `cli` for text, `json` for JSON. -/
def Format.ofName (name : String) : Option Format :=
  match Unicode.lower name with
  | "text" => some .text
  | "cli" => some .text
  | "json" => some .json
  | _ => none

def alignRight (width : Nat) (s : String) : String :=
  String.ofList (List.replicate (width - s.length) ' ') ++ s

def rule (c : Char) (n : Nat) : String := String.ofList (List.replicate n c)

def functionLine (scale : Config.Scale) (f : FunctionScore) : Except NumError String := do
  let t ← Tint.ofScore (.int f.complexity) scale.start scale.stop
  let location := if f.hasLocation then s!"{f.startLine + 1}-{f.endLine + 1}" else "?"
  let label := if t.factor.isZero then f.label else " " ++ f.label ++ " "
  let name := match f.name with
    | some n => if n.isEmpty then "<anonymous>" else n
    | none => "<anonymous>"
  pure ("  " ++ alignRight 9 location ++ "  " ++ label ++ "  " ++ name)

def fileLines (scale : Config.Scale) (r : FileReport) : Except NumError (List String) := do
  let fs ← r.functions.mapM (functionLine scale)
  pure (r.path :: (if r.functions.isEmpty then ["  no functions"] else []) ++ fs)

def scanText (scale : Config.Scale) (verbose : Bool) (r : ScanReport) : Except NumError String := do
  let header := ["", rule '=' 70, " FUNCTION COMPLEXITY ", rule '=' 70, "", "Summary", rule '-' 40,
    s!"  Files scanned:     {r.filesScanned}",
    "  Languages:         " ++ ", ".intercalate r.languages,
    s!"  Functions:         {r.totalFunctions}",
    s!"  Highest:           {r.maxComplexity}",
    "  Scan time:         0.00s", ""]
  let files ← (r.files.filter fun f => !f.functions.isEmpty || verbose).mapM fun f => do
    pure ((← fileLines scale f) ++ [""])
  let errors := if r.errors.isEmpty then []
    else [rule '=' 70, " ERRORS ", rule '=' 70] ++ r.errors.map ("  - " ++ ·) ++ [""]
  pure ("\n".intercalate (header ++ files.flatten ++ errors))

/-- A highlight as text: the file and line range, the tooltip, and the factor and colour. -/
def highlightText (path : String) (h : Highlight) : String :=
  "\n".intercalate [s!"{path}:{h.startLine + 1}-{h.endLine + 1}",
    "   " ++ h.tooltip ++ " ",
    "  Intensity: " ++ Binary64.fixed 2 h.tint.factor ++ " (" ++ h.tint.hex ++ ")"]

def highlightValue (path : String) (h : Highlight) : Value :=
  .map [(.str "file_path", .str path), (.str "start_line", .int h.startLine),
        (.str "end_line", .int h.endLine), (.str "complexity", .int h.complexity),
        (.str "tooltip", .str h.tooltip), (.str "intensity", .float h.tint.factor),
        (.str "color", .str h.tint.hex)]

def formatScan (format : Format) (scale : Config.Scale) (verbose : Bool) (r : ScanReport) :
    Except NumError String :=
  match format with
  | .text => scanText scale verbose r
  | .json => pure (Json.render Json.pretty r.toValue)

def formatHighlight (format : Format) (path : String) (h : Highlight) : String :=
  match format with
  | .text => highlightText path h
  | .json => Json.render Json.pretty (highlightValue path h)

end Report

end Cyclomatic
