import Cyclomatic.Outline.Score
import Cyclomatic.Tint
import Cyclomatic.Value.Basic

/-!
Document forms of analysis results, as the program writes them in JSON.

A function score is the mapping `name`, `complexity`, `start_line`, `end_line`, in that order; a
colour is the list `[red, green, blue]`.
-/

namespace Cyclomatic

def Value.ofOption : Option String → Value
  | some s => .str s
  | none => .null

namespace FunctionScore

def toValue (f : FunctionScore) : Value :=
  .map [(.str "name", Value.ofOption f.name), (.str "complexity", .int f.complexity),
    (.str "start_line", .int f.startLine), (.str "end_line", .int f.endLine)]

end FunctionScore

namespace Tint

def rgbValue (t : Tint) : Value := .seq [.int t.red, .int t.green, .int t.blue]

end Tint

end Cyclomatic
