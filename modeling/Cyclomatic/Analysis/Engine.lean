import Cyclomatic.Analysis.Document
import Cyclomatic.Config.Settings
import Cyclomatic.Tint

/-!
Analysis passes over one document: the score of every function, the score of the function under
an offset, inline hints and the highlight of the function under an offset. A language without a
parser and a text that does not parse leave nothing to analyze. Each pass asks for the current
settings only once it has something to score, over any monad that gives them.
-/

namespace Cyclomatic

structure Hint where
  line : Int
  column : Nat := 0
  label : String
deriving Repr, DecidableEq

structure Highlight where
  startLine : Int
  endLine : Int
  complexity : Nat
  tooltip : String
  tint : Tint
deriving Repr

namespace Analysis

open Config

/-- The document of a text in the language a tag names, when there is a parser for it and the
text parses. -/
def document (text tag : String) : Option Document :=
  match Language.ofTag tag with
  | some l =>
    match l.parse text with
    | .ok d => some d
    | .error _ => none
  | none => none

section Passes

variable {m : Type → Type} [Monad m]

/-- The score of every function of a document, in document order, with the settings asked for
once the text has parsed. -/
def analyzeWith (current : m Settings) (text tag : String) : m (List FunctionScore) :=
  match document text tag with
  | some d => do
    let settings ← current
    pure (d.outline.functions.map (·.score settings.scale.countsLogical))
  | none => pure []

/-- The score of the innermost function whose span holds an offset, with the settings asked for
once that function is found. -/
def scoreAtWith (current : m Settings) (text tag : String) (offset : Int) :
    m (Option FunctionScore) :=
  if offset < 0 || offset > text.length then pure none
  else
    match document text tag with
    | some d =>
      match d.outline.enclosing offset with
      | some f => do
        let settings ← current
        pure (some (f.score settings.scale.countsLogical))
      | none => pure none
    | none => pure none

def hintsWith (current : m Settings) (text tag : String) : m (List Hint) := do
  let scores ← analyzeWith current text tag
  pure ((scores.filter (·.hasLocation)).map fun f => { line := f.startLine, label := f.label })

/-- The highlight of the function under an offset, if it has a location; the settings are asked
for again for its tint. -/
def highlightWith (current : m Settings) (text tag : String) (offset : Int) :
    m (Except NumError (Option Highlight)) := do
  match ← scoreAtWith current text tag offset with
  | some f =>
    if f.hasLocation then
      let settings ← current
      pure do
        let t ← Tint.ofScore (.int f.complexity) settings.scale.start settings.scale.stop
        pure (some { startLine := f.startLine, endLine := f.endLine, complexity := f.complexity,
                     tooltip := "Function complexity: " ++ toString f.complexity, tint := t })
    else pure (.ok none)
  | none => pure (.ok none)

end Passes

def analyze (settings : Settings) (text tag : String) : List FunctionScore :=
  Id.run (analyzeWith (pure settings) text tag)

/-- The score of the innermost function whose span holds an offset. -/
def scoreAt (settings : Settings) (text tag : String) (offset : Int) : Option FunctionScore :=
  Id.run (scoreAtWith (pure settings) text tag offset)

def hints (settings : Settings) (text tag : String) : List Hint :=
  Id.run (hintsWith (pure settings) text tag)

def highlight (settings : Settings) (text tag : String) (offset : Int) :
    Except NumError (Option Highlight) :=
  Id.run (highlightWith (pure settings) text tag offset)

end Analysis

end Cyclomatic
