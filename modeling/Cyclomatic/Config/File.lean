import Cyclomatic.Config.Settings
import Cyclomatic.Files.Disk
import Cyclomatic.Text.Utf8
import Cyclomatic.Value.JsonProblem
import Cyclomatic.Yaml.Load
import Cyclomatic.Yaml.Dump

/-!
Settings files: finding one, reading it, and the file a new project starts with. A settings file
is looked for by name (`fileNames`) in the directory of the start and each directory above it,
nearest first; anything under such a name counts, a directory too. It is read strictly as UTF-8;
a name ending in `.json` is JSON, any other YAML, and the document must be a mapping.
-/

namespace Cyclomatic

namespace Config

/-- Why a settings file gives no settings. -/
inductive LoadError where
  | notFound (path : String)
  | path (f : PathFault)
  | file (f : FileFault)
  | undecodable (fault : Utf8.Fault)
  /-- The YAML text cannot be read, with the text for the message. -/
  | yaml (problem : Yaml.Problem) (text : String)
  | json (message : String)
  /-- A value of the document fails as its own type does. -/
  | failure (kind : String) (message : String)
  | config (e : ConfigError)
deriving Repr

namespace LoadError

def kind : LoadError → String
  | .notFound _ => "FileNotFoundError"
  | .path f => f.kind
  | .file f => f.kind
  | .undecodable _ => "UnicodeDecodeError"
  | .yaml _ _ => "YAMLError"
  | .json _ => "JSONDecodeError"
  | .failure k _ => k
  | .config e => e.kind

def message : LoadError → String
  | .notFound p => "Configuration file not found: " ++ p
  | .path f => f.message
  | .file f => f.message
  | .undecodable f => f.message
  | .yaml p text => p.message text.toList.toArray
  | .json m => m
  | .failure _ m => m
  | .config e => e.message

/-- Whether a failure is one a settings store recovers from by keeping what it had: a file
that cannot be read or parsed, or settings that are refused. A text that is not UTF-8, a value
that fails as its own type and a null character in the path are not. -/
def recoverable : LoadError → Bool
  | .undecodable _ => false
  | .failure _ _ => false
  | .path f => f.isOSError
  | .file f => f.isOSError
  | _ => true

end LoadError

def fileNames : List String :=
  [".complexitylens.yaml", ".complexitylens.yml", ".complexitylens.json", "complexitylens.yaml",
   "complexitylens.yml", "complexitylens.json"]

/-- The directories a search tries, nearest first: a directory and each one above it, up to the
root. -/
def ancestors (dir : List String) : List (List String) :=
  (List.range (dir.length + 1)).reverse.map fun n => dir.take n

/-- How the search gives a place it found: below the working directory by its path there, and
elsewhere from the root. -/
def shown (full : String) : String :=
  match Path.place full with
  | .below ps => "/".intercalate ps
  | _ => full

/-- The directory a search starts in: the place the start resolves to, or the directory that
holds it when its lookup finds a file there. -/
def searchStart (parts : List String) : Option Entry → List String
  | some (.file ..) => parts.dropLast
  | _ => parts

def tryPlace (d : Disk) (place : List String) : Except PathFault (Option String) := do
  let full := Path.absolute place
  pure (if (← d.stat full).isSome then some (shown full) else none)

/-- The search from a directory: it and each directory above it, nearest first, and in each the
names in their order; a lookup that fails ends the search. -/
def searchFrom (d : Disk) (dir : List String) : Except PathFault (Option String) :=
  (ancestors dir).findSomeM? fun dir => fileNames.findSomeM? fun name => tryPlace d (dir ++ [name])

/-- The settings file for a place. Resolving the start looks up each of its components, so a
null character in it is refused before anything else. -/
def find (d : Disk) (start : String) : Except PathFault (Option String) := do
  if '\x00' ∈ start.toList then throw .nullByte
  let parts := Path.resolveParts start
  searchFrom d (searchStart parts (← d.stat (Path.absolute parts)))

def suffix (p : String) : String :=
  let name := (Path.split (Path.pure p)).getLastD ""
  let cs := name.toList
  match (cs.reverse.findIdx? (· == '.')) with
  | some r =>
    let i := cs.length - 1 - r
    if 0 < i && i < cs.length - 1 then String.ofList (cs.drop i) else ""
  | none => ""

/-- The text of a file, read strictly as UTF-8 with its line breaks read as a text file's. -/
def readText (d : Disk) (p : String) : Except LoadError String := do
  let bytes ← (d.readBytes p).mapError .file
  match Utf8.decode bytes with
  | .ok s => pure (Utf8.readLines s)
  | .error f => throw (.undecodable f)

/-- The document of a settings file, which must be a mapping. Whether the file exists is asked
of the path object, which answers false for a null character and fails on a name too long. -/
def loadDocument (d : Disk) (path : String) : Except LoadError Value.Entries := do
  let p := Path.pure path
  match d.stat p with
  | .ok (some _) => pure ()
  | .error (.nameTooLong q) => throw (.path (.nameTooLong q))
  | _ => throw (.notFound p)
  let text ← readText d p
  let data ← if suffix p == ".json" then
      match Json.faultOf text, Json.parse text with
      | some (.decode msg pos), _ => throw (.json (Json.describeAt text msg pos))
      | some f, _ => let (k, m) := f.report text; throw (.failure k m)
      | none, some v => pure v
      | none, none => throw (.json (Json.describeAt text "Expecting value" 0))
    else
      match Yaml.load text with
      | .ok v => pure (if v.truthy then v else .map [])
      | .error (.problem pr) => throw (.yaml pr text)
      | .error (.failure k m) => throw (.failure k m)
  match data with
  | .map es => pure es
  | _ => throw (.config (.notMapping p))

/-- The settings for a settings file, or for the file found from a place when none is given;
the defaults when there is no file. -/
def load (d : Disk) (path : Option String) (start : String) : Except LoadError Settings := do
  let found ← match path with
    | some p => pure (some p)
    | none => (find d start).mapError .path
  match found with
  | none => pure Settings.default
  | some p =>
    let es ← loadDocument d p
    match Settings.ofEntries es with
    | .ok s => pure s
    | .error e => throw (.config e)

def defaultDocument : Value :=
  .map [(.str "scan", .map [(.str "exclude", .seq (Settings.defaultExclude.map .str)),
                             (.str "max_file_size", .int Settings.defaultMaxFileSize)]),
        (.str "complexity", .map [(.str "start_complexity", .int Scale.defaultStart),
                                   (.str "max_complexity", .int Scale.defaultStop),
                                   (.str "count_logical_operators", .bool false)]),
        (.str "output", .map [(.str "format", .str "text"), (.str "color", .bool true)])]

def defaultText : String := Yaml.dump defaultDocument

end Config

end Cyclomatic
