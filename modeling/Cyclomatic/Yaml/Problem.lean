import Cyclomatic.Value.Notation

/-!
Why a YAML text cannot be read, and where. A problem names what was being read and where that
started, what went wrong and where; its message gives each place with its line and column from
one and the line of text around it, with a caret under the place.
-/

namespace Cyclomatic

namespace Yaml

/-- A place in a YAML text: the character index, and the line and column from zero. -/
structure Mark where
  index : Nat
  line : Nat
  column : Nat
deriving Repr, Inhabited, DecidableEq

inductive Problem where
  | marked (context : Option String) (contextMark : Option Mark) (problem : String)
      (problemMark : Option Mark)
  | unacceptable (code : Nat) (index : Nat)
  /-- An escape naming a number beyond the last code point, which makes no character. -/
  | beyondUnicode
deriving Repr, Inhabited

def isLineEnd (c : Char) : Bool :=
  c == '\x00' || c == '\r' || c == '\n' || c == '\x85' || c == '\u2028' || c == '\u2029'

def charAt (text : Array Char) (i : Nat) : Char := text.getD i '\x00'

def snippetStart (text : Array Char) (pointer : Nat) : Nat × Bool :=
  let rec go (start : Nat) : Nat → Nat × Bool
    | 0 => (start, false)
    | fuel + 1 =>
      if start > 0 && !isLineEnd (charAt text (start - 1)) then
        if pointer - (start - 1) ≥ 37 then (start - 1 + 5, true) else go (start - 1) fuel
      else (start, false)
  go pointer (pointer + 1)

def snippetEnd (text : Array Char) (pointer : Nat) : Nat × Bool :=
  let rec go (stop : Nat) : Nat → Nat × Bool
    | 0 => (stop, false)
    | fuel + 1 =>
      if stop < text.size + 1 && !isLineEnd (charAt text stop) then
        if stop + 1 - pointer ≥ 37 then (stop + 1 - 5, true) else go (stop + 1) fuel
      else (stop, false)
  go pointer (text.size + 2)

/-- The line around a mark, indented by four, with a caret under the mark. -/
def Mark.snippet (text : Array Char) (m : Mark) : String :=
  let (start, headCut) := snippetStart text m.index
  let (stop, tailCut) := snippetEnd text m.index
  let head := if headCut then " ... " else ""
  let tail := if tailCut then " ... " else ""
  let body := String.ofList ((text.extract start stop).toList)
  "    " ++ head ++ body ++ tail ++ "\n" ++
    String.ofList (List.replicate (4 + (m.index - start) + head.length) ' ') ++ "^"

def Mark.describe (text : Array Char) (m : Mark) : String :=
  s!"  in \"<unicode string>\", line {m.line + 1}, column {m.column + 1}:\n" ++ m.snippet text

def Problem.message (text : Array Char) : Problem → String
  | .marked context contextMark problem problemMark =>
    let showContext := match contextMark, problemMark with
      | some c, some p => c.line != p.line || c.column != p.column
      | some _, none => true
      | none, _ => false
    let lines := context.toList ++
      (if showContext then (contextMark.map (·.describe text)).toList else []) ++
      [problem] ++ (problemMark.map (·.describe text)).toList
    "\n".intercalate lines
  | .unacceptable code index =>
    s!"unacceptable character #x{Value.hexPad 4 code}: special characters are not allowed\n" ++
      s!"  in \"<unicode string>\", position {index}"
  | .beyondUnicode => "chr() arg not in range(0x110000)"

def quoteChar (c : Char) : String := Value.literal (.str (String.singleton c))

end Yaml

end Cyclomatic
