import Cyclomatic.Yaml.Token
import Cyclomatic.Yaml.Resolve

/-!
The node tree of a YAML stream: scalars, sequences and mappings, each with its tag. An alias
stands for the node a name anchors; a name anchored twice, or an alias to a name not yet
anchored, is a problem. A plain scalar with no tag of its own is tagged by its form. A stream
holds at most one document.
-/

namespace Cyclomatic

namespace Yaml

inductive Node where
  /-- A scalar: its tag, its text, its code points when some are surrogates (which the text
  shows as the replacement character), and where it starts. -/
  | scalar (tag : String) (text : String) (codes : Option (List Nat)) (start : Mark)
  | seq (tag : String) (items : List Node) (start : Mark)
  | map (tag : String) (entries : List (Node × Node)) (start : Mark)
deriving Repr, Inhabited

def Node.start : Node → Mark
  | .scalar _ _ _ m => m
  | .seq _ _ m => m
  | .map _ _ m => m

def Node.tag : Node → String
  | .scalar t _ _ _ => t
  | .seq t _ _ => t
  | .map t _ _ => t

inductive Kind where
  | streamEnd
  | directive
  | documentStart
  | documentEnd
  | blockSequenceStart
  | blockMappingStart
  | blockEnd
  | flowSequenceStart
  | flowMappingStart
  | flowSequenceEnd
  | flowMappingEnd
  | blockEntry
  | flowEntry
  | key
  | value
  | alias
  | anchor
  | tag
  | scalar
deriving DecidableEq, Repr

def Token.kind : Token → Kind
  | .streamEnd => .streamEnd
  | .directive _ _ => .directive
  | .documentStart => .documentStart
  | .documentEnd => .documentEnd
  | .blockSequenceStart => .blockSequenceStart
  | .blockMappingStart => .blockMappingStart
  | .blockEnd => .blockEnd
  | .flowSequenceStart => .flowSequenceStart
  | .flowMappingStart => .flowMappingStart
  | .flowSequenceEnd => .flowSequenceEnd
  | .flowMappingEnd => .flowMappingEnd
  | .blockEntry => .blockEntry
  | .flowEntry => .flowEntry
  | .key => .key
  | .value => .value
  | .alias _ => .alias
  | .anchor _ => .anchor
  | .tag _ _ => .tag
  | .scalar _ _ _ => .scalar

def defaultHandles : List (String × String) := [("!", "!"), ("!!", standard "")]

/-- The state of reading nodes: the tokens read so far, the problem that stopped the reading of
tokens if one did, the next token, the anchored nodes, the anchors of nodes still being read
and the tag handles. -/
structure Composing where
  tokens : Array Placed
  stop : Option Problem
  pos : Nat := 0
  anchors : List (String × Node) := []
  opened : List (String × Mark) := []
  handles : List (String × String) := defaultHandles

abbrev Compose := StateT Composing (Except Problem)

namespace Compose

/-- The next token; past the tokens read, the problem that stopped their reading. -/
def peek : Compose Placed := do
  let s ← get
  match s.tokens[s.pos]? with
  | some t => pure t
  | none =>
    match s.stop with
    | some p => throw p
    | none => pure ⟨.streamEnd, ⟨0, 0, 0⟩⟩

def peekKind : Compose Kind := do pure (← peek).token.kind

def nextIs (ks : List Kind) : Compose Bool := do pure (ks.contains (← peekKind))

def take : Compose Placed := do
  let t ← peek
  modify fun s => { s with pos := s.pos + 1 }
  pure t

def problem (context : Option String) (contextMark : Option Mark) (what : String)
    (m : Mark) : Compose α :=
  throw (.marked context contextMark what (some m))

def empty (m : Mark) : Node := .scalar (standard "null") "" none m

def quoted (t : Token) : String := "'" ++ t.describe ++ "'"

/-- Reads an anchor and a tag before a node, in either order: the anchor, the tag as written,
the place of the first of them and the place of the tag. -/
def properties : Compose (Option String × Option (Option String × String) × Option Mark × Option Mark) := do
  let t ← peek
  match t.token with
  | .anchor a =>
    let _ ← take
    let u ← peek
    match u.token with
    | .tag h s =>
      let _ ← take
      pure (some a, some (h, s), some t.start, some u.start)
    | _ => pure (some a, none, some t.start, none)
  | .tag h s =>
    let _ ← take
    let u ← peek
    match u.token with
    | .anchor a =>
      let _ ← take
      pure (some a, some (h, s), some t.start, some t.start)
    | _ => pure (none, some (h, s), some t.start, some t.start)
  | _ => pure (none, none, none, none)

def fullTag (startMark tagMark : Mark) : Option String × String → Compose String
  | (none, suffix) => pure suffix
  | (some h, suffix) => do
    match (← get).handles.lookup h with
    | some pfx => pure (pfx ++ suffix)
    | none =>
      problem (some "while parsing a node") (some startMark)
        ("found undefined tag handle " ++ Value.literal (.str h)) tagMark

def openAnchor (anchor : Option String) (m : Mark) : Compose Unit := do
  match anchor with
  | none => pure ()
  | some a =>
    let s ← get
    let first := (s.anchors.lookup a).map Node.start |>.orElse fun _ => s.opened.lookup a
    match first with
    | some f =>
      throw (.marked (some ("found duplicate anchor " ++ Value.literal (.str a) ++ "; first occurrence"))
        (some f) "second occurrence" (some m))
    | none => set { s with opened := (a, m) :: s.opened }

def closeAnchor (anchor : Option String) (n : Node) : Compose Node := do
  match anchor with
  | none => pure n
  | some a =>
    modify fun s => { s with anchors := (a, n) :: s.anchors,
                             opened := s.opened.filter (·.1 != a) }
    pure n

mutual

/-- Reads a node: an alias, or properties and then content. `block` allows block collections;
`indentless` allows a sequence of `-` entries at the indentation of its mapping. -/
def node (block indentless : Bool) : Nat → Compose Node
  | 0 => do problem none none "nesting too deep" (← peek).start
  | fuel + 1 => do
    let t ← peek
    match t.token with
    | .alias a =>
      let _ ← take
      match (← get).anchors.lookup a with
      | some n => pure n
      | none => problem none none ("found undefined alias " ++ Value.literal (.str a)) t.start
    | _ =>
      let (anchor, written, startMark, tagMark) ← properties
      let startMark := startMark.getD (← peek).start
      let tag ← match written with
        | some w => some <$> fullTag startMark (tagMark.getD startMark) w
        | none => pure none
      openAnchor anchor startMark
      let untagged := tag.isNone || tag == some "!"
      let next ← peek
      let n ← match next.token with
        | .blockEntry =>
          if indentless then do
            let items ← indentlessItems [] fuel
            pure (.seq (if untagged then standard "seq" else tag.getD "") items startMark)
          else content block untagged tag anchor startMark next fuel
        | _ => content block untagged tag anchor startMark next fuel
      closeAnchor anchor n

def content (block untagged : Bool) (tag : Option String) (anchor : Option String)
    (startMark : Mark) (next : Placed) : Nat → Compose Node
  | 0 => do problem none none "nesting too deep" next.start
  | fuel + 1 => do
    let seqTag := if untagged then standard "seq" else tag.getD ""
    let mapTag := if untagged then standard "map" else tag.getD ""
    match next.token with
    | .scalar text plain codes =>
      let _ ← take
      let t :=
        if tag.isNone && plain || tag == some "!" then implicitTag text
        else tag.getD (standard "str")
      pure (.scalar t text codes startMark)
    | .flowSequenceStart =>
      let _ ← take
      pure (.seq seqTag (← flowItems next.start [] true fuel) startMark)
    | .flowMappingStart =>
      let _ ← take
      pure (.map mapTag (← flowEntries next.start [] true fuel) startMark)
    | .blockSequenceStart =>
      if block then do
        let _ ← take
        pure (.seq seqTag (← blockItems next.start [] fuel) startMark)
      else noContent block anchor tag startMark next
    | .blockMappingStart =>
      if block then do
        let _ ← take
        pure (.map mapTag (← blockEntries next.start [] fuel) startMark)
      else noContent block anchor tag startMark next
    | _ => noContent block anchor tag startMark next

/-- A node with properties and no content is an empty scalar; a node with neither is a
problem. -/
def noContent (block : Bool) (anchor : Option String) (tag : Option String) (startMark : Mark)
    (next : Placed) : Compose Node := do
  if anchor.isSome || tag.isSome then
    let t := if tag.isNone || tag == some "!" then standard "null" else tag.getD ""
    pure (.scalar t "" none startMark)
  else
    problem (some (if block then "while parsing a block node" else "while parsing a flow node"))
      (some startMark) ("expected the node content, but found " ++ quoted next.token) next.start

def blockItems (start : Mark) (acc : List Node) : Nat → Compose (List Node)
  | 0 => do problem none none "nesting too deep" (← peek).start
  | fuel + 1 => do
    let t ← peek
    match t.token with
    | .blockEntry =>
      let _ ← take
      if ← nextIs [.blockEntry, .blockEnd] then blockItems start (acc ++ [empty t.start]) fuel
      else
        let n ← node true false fuel
        blockItems start (acc ++ [n]) fuel
    | .blockEnd =>
      let _ ← take
      pure acc
    | other =>
      problem (some "while parsing a block collection") (some start)
        ("expected <block end>, but found " ++ quoted other) t.start

def indentlessItems (acc : List Node) : Nat → Compose (List Node)
  | 0 => do problem none none "nesting too deep" (← peek).start
  | fuel + 1 => do
    let t ← peek
    match t.token with
    | .blockEntry =>
      let _ ← take
      if ← nextIs [.blockEntry, .key, .value, .blockEnd] then
        indentlessItems (acc ++ [empty t.start]) fuel
      else
        let n ← node true false fuel
        indentlessItems (acc ++ [n]) fuel
    | _ => pure acc

def blockEntries (start : Mark) (acc : List (Node × Node)) : Nat → Compose (List (Node × Node))
  | 0 => do problem none none "nesting too deep" (← peek).start
  | fuel + 1 => do
    let t ← peek
    match t.token with
    | .key =>
      let _ ← take
      let k ← if ← nextIs [.key, .value, .blockEnd] then pure (empty t.start)
        else node true true fuel
      let v ← blockValue fuel
      blockEntries start (acc ++ [(k, v)]) fuel
    | .blockEnd =>
      let _ ← take
      pure acc
    | other =>
      problem (some "while parsing a block mapping") (some start)
        ("expected <block end>, but found " ++ quoted other) t.start

def blockValue : Nat → Compose Node
  | 0 => do problem none none "nesting too deep" (← peek).start
  | fuel + 1 => do
    let t ← peek
    match t.token with
    | .value =>
      let _ ← take
      if ← nextIs [.key, .value, .blockEnd] then pure (empty t.start)
      else node true true fuel
    | _ => pure (empty t.start)

/-- Reads the rest of a pair inside a flow collection after its key token: the key and the
value, each empty when left out. -/
def flowPair (close : Kind) (keyMark : Mark) : Nat → Compose (Node × Node)
  | 0 => do problem none none "nesting too deep" (← peek).start
  | fuel + 1 => do
    let k ← if ← nextIs [.value, .flowEntry, close] then pure (empty keyMark)
      else node false false fuel
    let t ← peek
    match t.token with
    | .value =>
      let _ ← take
      if ← nextIs [.flowEntry, close] then pure (k, empty t.start)
      else pure (k, ← node false false fuel)
    | _ => pure (k, empty t.start)

/-- Reads the entries of a flow sequence after its start. A `key: value` entry is a mapping of
one pair. -/
def flowItems (start : Mark) (acc : List Node) (first : Bool) : Nat → Compose (List Node)
  | 0 => do problem none none "nesting too deep" (← peek).start
  | fuel + 1 => do
    let t ← peek
    match t.token with
    | .flowSequenceEnd =>
      let _ ← take
      pure acc
    | _ =>
      if !first then
        let u ← peek
        match u.token with
        | .flowEntry => let _ ← take
        | other =>
          problem (some "while parsing a flow sequence") (some start)
            ("expected ',' or ']', but got " ++ quoted other) u.start
      let u ← peek
      match u.token with
      | .key =>
        let _ ← take
        let (k, v) ← flowPair .flowSequenceEnd u.start fuel
        flowItems start (acc ++ [.map (standard "map") [(k, v)] u.start]) false fuel
      | .flowSequenceEnd => flowItems start acc false fuel
      | _ =>
        let n ← node false false fuel
        flowItems start (acc ++ [n]) false fuel

/-- Reads the entries of a flow mapping after its start. A key without `:` has an empty
value. -/
def flowEntries (start : Mark) (acc : List (Node × Node)) (first : Bool) :
    Nat → Compose (List (Node × Node))
  | 0 => do problem none none "nesting too deep" (← peek).start
  | fuel + 1 => do
    let t ← peek
    match t.token with
    | .flowMappingEnd =>
      let _ ← take
      pure acc
    | _ =>
      if !first then
        let u ← peek
        match u.token with
        | .flowEntry => let _ ← take
        | other =>
          problem (some "while parsing a flow mapping") (some start)
            ("expected ',' or '\x7d', but got " ++ quoted other) u.start
      let u ← peek
      match u.token with
      | .key =>
        let _ ← take
        let pair ← flowPair .flowMappingEnd u.start fuel
        flowEntries start (acc ++ [pair]) false fuel
      | .flowMappingEnd => flowEntries start acc false fuel
      | _ =>
        let k ← node false false fuel
        let v := empty (← peek).start
        flowEntries start (acc ++ [(k, v)]) false fuel

end

/-- Reads the directives before an explicit document, setting the tag handles. `version`
tells whether a `%YAML` directive was read and `named` holds the handles the document's own
`%TAG` directives named; the handles every document knows stay unless a directive names them. -/
def directives (version : Bool) (named : List String) : Nat → Compose Unit
  | 0 => pure ()
  | fuel + 1 => do
    let t ← peek
    match t.token with
    | .directive _ (.version major _) =>
      let _ ← take
      if version then problem none none "found duplicate YAML directive" t.start
      if major != 1 then
        problem none none "found incompatible YAML document (version 1.* is required)" t.start
      directives true named fuel
    | .directive _ (.tagPrefix handle pfx) =>
      let _ ← take
      if named.contains handle then
        problem none none ("duplicate tag handle " ++ Value.literal (.str handle)) t.start
      modify fun s => { s with handles := (handle, pfx) :: s.handles }
      directives version (handle :: named) fuel
    | .directive _ .other =>
      let _ ← take
      directives version named fuel
    | _ => pure ()

def skipDocumentEnds : Nat → Compose Unit
  | 0 => pure ()
  | fuel + 1 => do
    if (← peekKind) == .documentEnd then
      let _ ← take
      skipDocumentEnds fuel

/-- Reads the explicit documents of a stream after a first one, if any; a second document is a
problem. -/
def explicitDocuments (found : Option Node) : Nat → Compose (Option Node)
  | 0 => pure found
  | fuel + 1 => do
    skipDocumentEnds (← get).tokens.size
    if (← peekKind) == .streamEnd then return found
    modify fun s => { s with handles := defaultHandles }
    directives false [] (← get).tokens.size
    let t ← peek
    if t.token.kind != .documentStart then
      problem none none ("expected '<document start>', but found " ++ quoted t.token) t.start
    if let some first := found then
      throw (.marked (some "expected a single document in the stream") (some first.start)
        "but found another document" (some t.start))
    let _ ← take
    let n ← if ← nextIs [.directive, .documentStart, .documentEnd, .streamEnd] then
        pure (empty t.start)
      else node true false (3 * (← get).tokens.size + 8)
    if (← peekKind) == .documentEnd then
      let _ ← take
    explicitDocuments (some n) fuel

def stream : Compose (Option Node) := do
  let size := (← get).tokens.size
  let first ← if ← nextIs [.directive, .documentStart, .streamEnd] then pure none
    else do
      let n ← node true false (3 * size + 8)
      if (← peekKind) == .documentEnd then
        let _ ← take
      pure (some n)
  explicitDocuments first (size + 1)

end Compose

/-- The node of a text's one document, `none` for a text with no document. -/
def compose (text : String) : Except Problem (Option Node) :=
  let (ts, stop) := tokens text
  match Compose.stream.run { tokens := ts, stop } with
  | .ok (n, _) => .ok n
  | .error p => .error p

end Yaml

end Cyclomatic
