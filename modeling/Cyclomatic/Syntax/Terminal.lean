import Cyclomatic.Syntax.Rule

/-!
Terminals shared by the grammar modules: names and the words that cannot be names, literal
tokens, property names and the end of a statement.

A statement ends at a semicolon, or where the semicolon rule of `Source.semicolonMayEnd`
lets it be left out.
-/

namespace Cyclomatic

namespace Syntax

/-- Words that never name a variable, though they may name a property. -/
def reservedWords : List String :=
  ["break", "case", "catch", "class", "const", "continue", "debugger", "default", "delete", "do",
   "else", "export", "extends", "false", "finally", "for", "function", "if", "import", "in",
   "instanceof", "new", "null", "return", "super", "switch", "this", "throw", "true", "try",
   "typeof", "var", "void", "while", "with"]

def isVariableWord (w : String) : Bool := !reservedWords.contains w

namespace Parse

/-- Which words may name a variable. The plain dialect sets the reserved words apart
everywhere; the typed ones read a word as a keyword only where the keyword could stand, and
the grammar tries those places before a name. -/
def variableWords : Parse (String → Bool) := do
  if (← dialect).typed then pure fun _ => true else pure isVariableWord

def identifier : Parse Node := do
  if (← peekWord) == "undefined" then keywordNode "undefined" "undefined"
  else nameNode "identifier" (← variableWords)

def identifierAs (kind : String) : Parse Node := do nameNode kind (← variableWords)

def anyName (kind : String) : Parse Node := nameNode kind fun _ => true

/-- Reads a name in an expression. There `export`, though a keyword where statements start,
names a variable in every dialect. -/
def valueName : Parse Node := do
  if (← peekWord) == "export" then anyName "identifier" else identifier

def number : Parse Node := scanned "number" Source.numberEnd

/-- Reads a quoted string token by token: the opening quote, runs of plain characters as
`string_fragment` nodes, escapes as `escape_sequence` nodes, and the closing quote. A line
break, the end of the text or a backslash that starts no escape stops the reading there, unless
a repaired range follows; repaired ranges inside the string are passed over. -/
def string : Parse Node := do
  match ← placeLeaf "string" with
  | some () => let p ← lastEnd; pure (Node.leaf "string" p p)
  | none =>
    let p ← peekStart
    let s ← source
    let quote := s.get p
    if quote != '"' && quote != '\'' then fail
    else
      let e ← env
      let plain (c : Char) : Bool := c != quote && c != '\\' && c != '\n' && c != '\r'
      let d ← depthNow
      advance p (p + 1)
      let rec parts (acc : List Node) : Nat → Parse (List Node)
        | 0 => fail
        | fuel + 1 => do
          let q ← lastEnd
          match e.repairedFrom q with
          | some b => do skipTo b; parts acc fuel
          | none =>
            let c := s.get q
            if q < s.size && c == quote then do advanceRaw (q + 1); pure acc.reverse
            else
              match (if q < s.size && c == '\\' then s.escapeEnd q else none) with
              | some r => do advanceRaw r; parts (Node.leaf "escape_sequence" q r :: acc) fuel
              | none =>
                if q < s.size && plain c then
                  let r := s.skipWhile q plain
                  let r := match e.nextRepairAfter q with
                    | some a => min a r
                    | none => r
                  do advanceRaw r; parts (Node.leaf "string_fragment" q r :: acc) fuel
                else
                  match e.resumeAfterRepair q with
                  | some r => do skipTo r; parts acc fuel
                  | none => fail
      let kids ← parts [] (s.size + 1)
      finish "string" d p kids

def privateName : Parse Node := do
  let p ← peekStart
  let s ← source
  if s.get p != '#' then fail
  else match s.nameEnd (p + 1) with
    | some q => do advance p q; pure (Node.leaf "private_property_identifier" p q)
    | none => fail

/-- Whether a semicolon may be left out at the cursor. Never right after a zero-width token:
the token after it has to be read as it is. -/
def semicolonMayGo (afterComment : Bool) : Parse Bool := do
  if (← cursor).justPlaced then pure false
  else
    let s ← source
    pure (s.semicolonMayEnd (← lastEnd) afterComment)

/-- Ends a statement: a semicolon, or a place where one may be left out. `afterComment` is
set where no binary operator could continue the statement. Before a zero-width closing brace
the text that follows decides, as the semicolon is read before the brace is placed. -/
def semicolon (afterComment : Bool) : Parse Unit := do
  if (← peekPunct) == some ";" then punct ";"
  else
    match ← peekPending with
    | some k => guard (k == closeBrace && (← semicolonMayGo afterComment))
    | none => guard (← semicolonMayGo afterComment)

def mayEndHere (afterComment : Bool) : Parse Bool := do
  match ← peekPending with
  | some k => pure (k == ";")
  | none => semicolonMayGo afterComment

def lineBreakBefore : Parse Bool := do
  let s ← source
  let a ← lastEnd
  let b ← peekStart
  pure ((s.chars.extract a b).any (· == '\n'))

def propertyName (g : Grammar) : Parse Node := do
  let c ← peekChar
  if c == '"' || c == '\'' then string
  else if c.isDigit || (c == '.' && ((← source).get ((← peekStart) + 1)).isDigit) then number
  else if c == '#' then privateName
  else if c == '[' then
    node "computed_property_name" do
      punct "["
      let e ← g .expression
      punct "]"
      pure [e]
  else anyName "property_identifier"

def startsPropertyName : Parse Bool := do
  let c ← peekChar
  if c == '"' || c == '\'' || c.isDigit || c == '#' || c == '[' || c == '.' then pure true
  else
    match ← peekName with
    | some _ => pure true
    | none => pure false

end Parse

end Syntax

end Cyclomatic
