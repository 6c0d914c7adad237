import Cyclomatic.Config.Scale

/-!
Scan settings: which files to leave out or take in, the largest file to read, the complexity
scale and the output options. A `scan` section is merged into the top level first; the scale
settings of the top level are collected in order with a `complexity` section merged over them.
`exclude` and `include` replace the pattern settings, anything else that is not a setting is
dropped, and nothing but the scale is checked.
-/

namespace Cyclomatic

namespace Config

/-- Output options: a record of the three known options, or a value that was given in place of
a mapping and is kept unread. -/
inductive Output where
  | fields (format color verbose : Value)
  | other (v : Value)
deriving Repr

namespace Output

def default : Output := .fields (.str "text") (.bool true) (.bool false)

/-- Output options from a mapping: the known options, defaults for the rest. -/
def ofEntries (es : Value.Entries) : Output :=
  .fields ((es.get? "format").getD (.str "text")) ((es.get? "color").getD (.bool true))
    ((es.get? "verbose").getD (.bool false))

def toValue : Output → Value
  | .fields f c v => .map [(.str "format", f), (.str "color", c), (.str "verbose", v)]
  | .other v => v

end Output

structure Settings where
  excludePatterns : Value
  includePatterns : Value
  maxFileSize : Value
  scale : Scale
  output : Output
deriving Repr

namespace Settings

def defaultExclude : List String :=
  ["node_modules/**", ".git/**", "vendor/**", "dist/**", "build/**", "coverage/**", "*.min.js",
   "*.bundle.js"]

def defaultMaxFileSize : Int := 10 * 1024 * 1024

def default : Settings :=
  { excludePatterns := .seq (defaultExclude.map .str), includePatterns := .null,
    maxFileSize := .int defaultMaxFileSize, scale := Scale.default, output := Output.default }

/-- The top level of a settings document with its `scan` section merged in. -/
def mergeScan (data : Value.Entries) : Value.Entries :=
  match data.get? "scan" with
  | some (.map part) => (data.erase (.str "scan")).update part
  | _ => data

/-- The scale settings of a document: the top-level ones in document order, then the
`complexity` section merged over them. -/
def scaleEntries (top : Value.Entries) : Value.Entries :=
  let fromTop : Value.Entries := top.filter fun e => Scale.isScaleKey e.1
  match top.get? "complexity" with
  | some (.map part) => fromTop.update part
  | _ => fromTop

def ofEntries (data : Value.Entries) : Except ConfigError Settings := do
  let top := mergeScan data
  let scale ← Scale.ofEntries (scaleEntries top)
  let rest : Value.Entries := top.filter fun e => !Scale.isScaleKey e.1
  let output := match rest.get? "output" with
    | some (.map es) => Output.ofEntries es
    | some v => Output.other v
    | none => Output.default
  let excludePatterns :=
    (rest.get? "exclude").getD ((rest.get? "exclude_patterns").getD default.excludePatterns)
  let includePatterns :=
    (rest.get? "include").getD ((rest.get? "include_patterns").getD default.includePatterns)
  let maxFileSize := (rest.get? "max_file_size").getD default.maxFileSize
  pure { excludePatterns, includePatterns, maxFileSize, scale, output }

def toValue (s : Settings) : Value :=
  .map [(.str "exclude_patterns", s.excludePatterns), (.str "include_patterns", s.includePatterns),
    (.str "max_file_size", s.maxFileSize), (.str "complexity", s.scale.toValue),
    (.str "output", s.output.toValue)]

end Settings

end Config

end Cyclomatic
