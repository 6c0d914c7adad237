import Cyclomatic.Yaml.Resolve
import Cyclomatic.Value.Notation

/-!
Writing values as block-style YAML: one `key: value` line per entry of a mapping, one `- item`
line per item of a sequence, a nested collection on the lines after its key. A string is written
plain when reading it back gives the same string, in single quotes otherwise, and in double
quotes when it holds surrogates.
-/

namespace Cyclomatic

namespace Yaml

def indicatorStarts : List Char :=
  ['#', ',', '[', ']', '\x7b', '\x7d', '&', '*', '!', '|', '>', '\'', '"', '%', '@', '`']

/-- Whether a string can be written plain and read back as the same string. -/
def isPlainSafe (s : String) : Bool :=
  let cs := s.toList
  match cs with
  | [] => false
  | c :: rest =>
    let blankAfter := match rest with
      | [] => true
      | d :: _ => d == ' '
    !indicatorStarts.contains c &&
      !((c == '-' || c == '?' || c == ':') && blankAfter) &&
      cs.head? != some ' ' && cs.getLast? != some ' ' &&
      !cs.any (fun d => d == '\n' || d == '\r' || d == '\t') &&
      (s.splitOn ": ").length == 1 && (s.splitOn " #").length == 1 &&
      !s.endsWith ":" &&
      !(s.startsWith "---" || s.startsWith "...") &&
      implicitTag s == standard "str"

/-- A string as a scalar: plain when that is safe, single-quoted otherwise. -/
def scalarText (s : String) : String :=
  if isPlainSafe s then s
  else "'" ++ String.join (s.toList.map fun c => if c == '\'' then "''" else String.singleton c) ++ "'"

/-- A value that fits on its key's line. -/
def inlineText : Value → String
  | .null => "null"
  | .bool b => if b then "true" else "false"
  | .int n => toString n
  | .float x => x.render Value.floatLayout
  | .str s => scalarText s
  | .date y m d => (Value.date y m d).plainText
  | .moment t => (Value.moment t).plainText
  | .bytes bs => (Value.bytes bs).plainText
  | .set xs => (Value.set xs).plainText
  | .tuple _ => "[]"
  | .seq _ => "[]"
  | .map _ => "\x7b\x7d"
  | .codes ps =>
    let one (n : Nat) : String :=
      if Value.isSurrogate n then "\\u" ++ (Value.hexPad 4 n).toUpper
      else if n == 34 || n == 92 then String.ofList ['\\', Char.ofNat n]
      else String.singleton (Char.ofNat n)
    "\"" ++ String.join (ps.map one) ++ "\""

def isBlock : Value → Bool
  | .seq (_ :: _) => true
  | .map (_ :: _) => true
  | _ => false

def pad (n : Nat) : String := String.ofList (List.replicate n ' ')

/-- Lines of a block that follows `- ` on its first line. -/
def underDash (indent : Nat) : List String → List String
  | [] => []
  | l :: ls => (pad indent ++ "- " ++ (l.drop (indent + 2)).toString) :: ls

mutual
def blockLines (indent : Nat) : Value → List String
  | .seq items => if items.isEmpty then [pad indent ++ "[]"] else seqLines indent items
  | .map es => if es.isEmpty then [pad indent ++ "\x7b\x7d"] else mapLines indent es
  | v => [pad indent ++ inlineText v]

def seqLines (indent : Nat) : List Value → List String
  | [] => []
  | v :: rest =>
    let first := if isBlock v then underDash indent (blockLines (indent + 2) v)
      else [pad indent ++ "- " ++ inlineText v]
    first ++ seqLines indent rest

def mapLines (indent : Nat) : List (Value × Value) → List String
  | [] => []
  | (k, v) :: rest =>
    let key := pad indent ++ inlineText k ++ ":"
    let here := match v with
      | .seq items => if items.isEmpty then [key ++ " []"] else key :: seqLines indent items
      | .map es => if es.isEmpty then [key ++ " \x7b\x7d"] else key :: mapLines (indent + 2) es
      | _ => [key ++ " " ++ inlineText v]
    here ++ mapLines indent rest
end

/-- A value as a YAML document, each line ended by a line break. -/
def dump (v : Value) : String :=
  String.join ((blockLines 0 v).map (· ++ "\n"))

end Yaml

end Cyclomatic
