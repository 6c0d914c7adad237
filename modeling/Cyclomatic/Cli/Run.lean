import Cyclomatic.Cli.Args
import Cyclomatic.Config.Store
import Cyclomatic.Report.Scan

/-!
The command line: `scan`, `at`, `init`, `languages` and `--version`. Settings come from `-c`, or
from the settings file found from the target or file, and `--count-logical`, `-f` and `-v`
override them. A command line that is refused exits with 2; a failure while running prints
`Error: ` and its message to standard error and exits with 1.
-/

namespace Cyclomatic

namespace Cli

open Config

/-- What a run of the command line gives: its exit status, what it printed to standard output
and to standard error, and the disk after it. -/
structure Outcome where
  exit : Nat
  stdout : String
  stderr : String
  disk : Disk

/-- Why a run stops with `Error:`. -/
inductive Failure where
  | load (e : LoadError)
  | scan (e : ScanError)
  | number (e : NumError)
  | unknownFormat (name : String)
  | noAttribute (typeName field : String)
  | readOnly (typeName field : String)
  | file (f : FileFault)

def Failure.message : Failure → String
  | .load e => e.message
  | .scan e => e.message
  | .number e => e.message
  | .unknownFormat name => "Unknown format: " ++ name
  | .noAttribute t a => "'" ++ t ++ "' object has no attribute '" ++ a ++ "'"
  | .readOnly t a => "'" ++ t ++ "' object attribute '" ++ a ++ "' is read-only"
  | .file f => f.message

def commonOptions : List Args.OptionSpec :=
  [⟨["-c", "--config"], "config", .store .text⟩,
   ⟨["-f", "--format"], "format", .store (.oneOf ["text", "json"])⟩,
   ⟨["--count-logical"], "count_logical", .flag⟩, ⟨["-v", "--verbose"], "verbose", .flag⟩]

def helpOption : Args.OptionSpec := ⟨["-h", "--help"], "help", .stop⟩

def scanSpec : Args.Spec :=
  { options := [helpOption] ++ commonOptions ++ [⟨["-o", "--output"], "output", .store .text⟩,
      ⟨["--fail-at"], "fail_at", .store .int⟩, ⟨["--no-color"], "no_color", .flag⟩],
    slots := [⟨"target", true, .text⟩] }

def atSpec : Args.Spec :=
  { options := [helpOption, ⟨["-l", "--language"], "language", .store .text⟩] ++ commonOptions ++
      [⟨["--no-color"], "no_color", .flag⟩],
    slots := [⟨"file", false, .text⟩, ⟨"offset", false, .int⟩] }

def initSpec : Args.Spec :=
  { options := [helpOption, ⟨["-f", "--force"], "force", .flag⟩], slots := [] }

def languagesSpec : Args.Spec := { options := [helpOption], slots := [] }

def topSpec : Args.Spec :=
  { options := [helpOption, ⟨["--version"], "version", .stop⟩], slots := [] }

def commandSpec : String → Option Args.Spec
  | "scan" => some scanSpec
  | "at" => some atSpec
  | "init" => some initSpec
  | "languages" => some languagesSpec
  | _ => none

def initFile : String := ".complexitylens.yaml"

def finish (d : Disk) (exit : Nat) (out err : String) : Outcome := ⟨exit, out, err, d⟩

def refused (d : Disk) : Outcome := finish d 2 "" ""

/-- The settings of a run: from `-c` or the file found from a place, then the overrides. -/
def settingsFor (d : Disk) (p : Args.Parsed) (start : String) : Except Failure Settings := do
  let path := match p.get? "config" with
    | some c => if c.isEmpty then none else some c
    | none => none
  let s ← (load d path start).mapError .load
  let s := if p.flag "count_logical" then
      { s with scale := { s.scale with countLogical := .bool true } }
    else s
  let setOutput (s : Settings) (key : String) (v : Value) : Except Failure Settings :=
    match s.output with
    | .fields f c b =>
      if key == "format" then pure { s with output := .fields v c b }
      else pure { s with output := .fields f c v }
    | .other (.str _) | .other (.codes _) =>
        if key == "format" then throw (.readOnly "str" key) else throw (.noAttribute "str" key)
    | .other o => throw (.noAttribute o.typeName key)
  let s ← match p.get? "format" with
    | some f => setOutput s "format" (.str f)
    | none => pure s
  if p.flag "verbose" then setOutput s "verbose" (.bool true) else pure s

/-- The disk after text is written to a file, as opening the file for writing does: the path
must pass the system's lookup, name no directory, and lie in a directory that exists. -/
def writeText (d : Disk) (path text : String) : Except Failure Disk :=
  match d.stat path with
  | .error f => throw (.file (.path f))
  | .ok (some (.dir _)) => throw (.file (.isDirectory path))
  | .ok _ =>
    match d.write path (Utf8.encode text) 0 with
    | some d' => pure d'
    | none => throw (.file (.notFound path))

def formatOf (s : Settings) : Except Failure Report.Format :=
  match s.output with
  | .fields (.str name) _ _ =>
    match Report.Format.ofName name with
    | some f => pure f
    | none => throw (.unknownFormat name)
  | .fields (.codes ps) _ _ => throw (.unknownFormat (Value.codes ps).plainText)
  | .fields v _ _ => throw (.noAttribute v.typeName "lower")
  | .other o => throw (.noAttribute o.typeName "format")

def verboseOf (s : Settings) : Bool :=
  match s.output with
  | .fields _ _ v => v.truthy
  | .other _ => false

def formatName (s : Settings) : Option String :=
  match s.output with
  | .fields (.str name) _ _ => some name
  | _ => none

def scanCommand (d : Disk) (p : Args.Parsed) : Except Failure Outcome := do
  let target := (p.get? "target").getD "."
  let failAt := (p.get? "fail_at").bind Args.parseInt
  let s ← settingsFor d p target
  let report ← (Scan.scan s d target).mapError .scan
  let format ← formatOf s
  let output ← (Report.formatScan format s.scale (verboseOf s) report).mapError .number
  let output' := (p.get? "output").filter (!·.isEmpty)
  let (d', out) ← match output' with
    | some path =>
      let d' ← writeText d path output
      pure (d', if formatName s == some "text" then "Results written to " ++ path ++ "\n" else "")
    | none => pure (d, output ++ "\n")
  let failed := match failAt with
    | some n => !(report.atOrAbove n).isEmpty
    | none => false
  pure (finish d' (if failed then 1 else 0) out "")

def atCommand (d : Disk) (p : Args.Parsed) : Except Failure Outcome := do
  let file := (p.get? "file").getD ""
  let offset := (Args.parseInt ((p.get? "offset").getD "")).getD 0
  let s ← settingsFor d p file
  let tag := match p.get? "language" with
    | some l => if l.isEmpty then none else some l
    | none => none
  let language := tag.orElse fun _ => (Language.ofPath file).map Language.name
  let some language := language
    | return finish d 1 "" ("Cannot detect language of " ++ file ++ "; use --language\n")
  let bytes ← (d.readBytes file).mapError .file
  let text := Utf8.readLines (Utf8.decodeLossy bytes)
  let h ← (Analysis.highlight s text language offset).mapError .number
  match h with
  | none => pure (finish d 1 "" s!"No function encloses offset {offset} in {file}\n")
  | some h =>
    let format ← formatOf s
    pure (finish d 0 (Report.formatHighlight format file h ++ "\n") "")

def initCommand (d : Disk) (p : Args.Parsed) : Except Failure Outcome := do
  if d.exists? initFile && !p.flag "force" then
    return finish d 1 ("Configuration file " ++ initFile ++ " already exists.\nUse --force to overwrite.\n") ""
  let d' ← writeText d initFile defaultText
  pure (finish d' 0 ("Created configuration file: " ++ initFile ++ "\n") "")

def versionText : String := "complexitylens 1.0.0\n"

def runCommand (d : Disk) (command : String) (p : Args.Parsed) : Outcome :=
  let result : Except Failure Outcome := match command with
    | "scan" => scanCommand d p
    | "at" => atCommand d p
    | "init" => initCommand d p
    | _ => pure (finish d 0 (String.join (Language.all.map (·.name ++ "\n"))) "")
  match result with
  | .ok o => o
  | .error e => finish d 1 "" ("Error: " ++ e.message ++ "\n")

/-- Runs the words after the options that come before a command: the command's name and its
own words. A stopping option of the command ends the run at once; otherwise a word left over
before the command refuses it. -/
def runFrom (d : Disk) (leftOver : Bool) : List String → Outcome
  | [] => if leftOver then refused d else finish d 0 "" ""
  | command :: rest =>
    match commandSpec command with
    | none => refused d
    | some spec =>
      match Args.parse spec rest with
      | .stopped _ => finish d 0 "" ""
      | .refused => refused d
      | .done p => if leftOver then refused d else runCommand d command p

/-- Runs a command line over a disk. The options before the command are read in order: help
and version end the run at once, an unknown one is left over. -/
def run (argv : List String) (d : Disk) : Outcome :=
  go argv false
where
  go : List String → Bool → Outcome
  | [], leftOver => runFrom d leftOver []
  | w :: rest, leftOver =>
    if w == "--" then refused d
    else if w.startsWith "-" && w.length > 1 then
      match Args.classify topSpec w with
      | some (.option o spelling attached) =>
        match Args.expand topSpec (spelling.length + 1) o spelling attached with
        | some ((first, _) :: _) =>
          if first.key == "version" then finish d 0 versionText "" else finish d 0 "" ""
        | _ => refused d
      | some (.unknown _) => go rest true
      | some (.positional _) => runFrom d leftOver (w :: rest)
      | some .separator | none => refused d
    else runFrom d leftOver (w :: rest)

end Cli

end Cyclomatic
