import Cyclomatic.Value.Notation

/-!
The complexity scale: where tinting starts, where it is full, and whether logical operators count
as branches. The start and the end must be integers, checked in that order. Settings may be
spelled in snake case or by their editor names; when both occur, the later one wins.
-/

namespace Cyclomatic

namespace Config

/-- Why a configuration is refused. -/
inductive ConfigError where
  | notInteger (field : String) (value : Value)
  | notMapping (path : String)
  | unexpectedSetting (name : String)
deriving Repr

namespace ConfigError

def kind : ConfigError → String
  | .unexpectedSetting _ => "TypeError"
  | _ => "ConfigError"

def message : ConfigError → String
  | .notInteger field v => field ++ " must be an integer, got " ++ v.literal
  | .notMapping path => "Configuration file " ++ path ++ " must contain a mapping"
  | .unexpectedSetting name =>
    "ComplexityConfig.__init__() got an unexpected keyword argument '" ++ name ++ "'"

end ConfigError

structure Scale where
  start : Int
  stop : Int
  countLogical : Value
deriving Repr

namespace Scale

def defaultStart : Int := 11
def defaultStop : Int := 51

def default : Scale := ⟨defaultStart, defaultStop, .bool false⟩

def startKey : String := "start_complexity"
def stopKey : String := "max_complexity"
def logicalKey : String := "count_logical_operators"

def isField (k : String) : Bool := k == startKey || k == stopKey || k == logicalKey

def aliases : List (String × String) :=
  [("startComplexity", startKey), ("maxComplexity", stopKey), ("countLogicalOperators", logicalKey)]

/-- A key with an editor name replaced by the setting name. -/
def canonicalKey : Value → Value
  | .str s => .str ((aliases.lookup s).getD s)
  | k => k

def isScaleKey (k : Value) : Bool :=
  match canonicalKey k with
  | .str s => isField s
  | _ => false

def requireInt (field : String) : Value → Except ConfigError Int
  | .int n => .ok n
  | v => .error (.notInteger field v)

/-- A scale from its three settings, each possibly absent; the start is checked first. -/
def make (start stop countLogical : Option Value) : Except ConfigError Scale := do
  let s ← match start with
    | some v => requireInt startKey v
    | none => pure defaultStart
  let m ← match stop with
    | some v => requireInt stopKey v
    | none => pure defaultStop
  pure ⟨s, m, countLogical.getD (.bool false)⟩

/-- A scale from settings given by setting name only; any other name is refused first. -/
def ofSettings (kw : Value.Entries) : Except ConfigError Scale := do
  for (k, _) in kw do
    match k with
    | .str s => if !isField s then throw (.unexpectedSetting s)
    | other => throw (.unexpectedSetting other.plainText)
  make (kw.get? startKey) (kw.get? stopKey) (kw.get? logicalKey)

/-- A scale from a mapping in which editor names are accepted and unknown keys ignored; of two
spellings of one setting the later entry wins. -/
def ofEntries (data : Value.Entries) : Except ConfigError Scale :=
  let named := Value.Entries.ofList (data.map fun e => (canonicalKey e.1, e.2))
  make (named.get? startKey) (named.get? stopKey) (named.get? logicalKey)

def countsLogical (s : Scale) : Bool := s.countLogical.truthy

def toValue (s : Scale) : Value :=
  .map [(.str startKey, .int s.start), (.str stopKey, .int s.stop),
    (.str logicalKey, s.countLogical)]

end Scale

end Config

end Cyclomatic
