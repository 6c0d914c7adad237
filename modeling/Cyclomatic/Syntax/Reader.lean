import Cyclomatic.Syntax.Lexeme

/-!
The reading state of the parser and the combinators the grammar is written with. Choice is
ordered and backtracks. Besides the position, the cursor keeps what an error report needs: the
stack of completed parts of the unfinished constructs, latest first, and the furthest stop seen
over every alternative tried. A `Repair` changes the text the parser sees: ranges passed over
like blanks, and zero-width tokens read as if they were there.
-/

namespace Cyclomatic

namespace Syntax

/-- A completed part on the parse stack: where it starts and ends, how many visible trees it
holds, the parts it was made of when it was folded from several (latest first), and whether
nothing can follow its last part inside it, so that it is folded as soon as that part is. -/
inductive Boundary where
  | mk (start stop weight : Nat) (parts : List Boundary) (complete : Bool)
deriving Inhabited, Repr

namespace Boundary

def start : Boundary → Nat
  | mk start _ _ _ _ => start

def stop : Boundary → Nat
  | mk _ stop _ _ _ => stop

def weight : Boundary → Nat
  | mk _ _ weight _ _ => weight

def parts : Boundary → List Boundary
  | mk _ _ _ parts _ => parts

def complete : Boundary → Bool
  | mk _ _ _ _ complete => complete

def token (start stop : Nat) : Boundary := mk start stop 1 [] false

mutual
def sameAs : Boundary → Boundary → Bool
  | mk a b w ps k, mk a' b' w' ps' k' =>
    a == a' && b == b' && w == w' && k == k' && sameParts ps ps'

def sameParts : List Boundary → List Boundary → Bool
  | [], [] => true
  | x :: xs, y :: ys => sameAs x y && sameParts xs ys
  | _, _ => false
end

/-- Whether a part is a construct whose last token is a closing bracket, a quote or a
semicolon, or one that nothing can extend after its last part: nothing can follow inside it,
so it is folded as soon as that token is read. -/
def closedIn (s : Source) (b : Boundary) : Bool :=
  b.complete ||
  match b.parts with
  | last :: _ =>
    last.parts.isEmpty && last.stop == last.start + 1 &&
      [')', ']', '}', '"', '\'', '`', ';', '>'].contains (s.get last.start)
  | [] => false

end Boundary

/-- Where a reading stopped: the start of the token that could not be read, the end of the
last token read, the stack at that point, and whether the last zero-width token read on the
way ended a construct. -/
structure Stop where
  token : Nat
  stop : Nat
  stack : List Boundary
  closed : Bool := false
  seen : Option (List Boundary) := none
  lastName : Option (Nat × String) := none
deriving Inhabited, Repr

/-- Changes to the text: ranges read as blanks, and zero-width tokens, each at a position,
named by the token's text or by `identifier`. Both lists are in text order. -/
structure Repair where
  skips : List (Nat × Nat) := []
  missing : List (Nat × String) := []
  resumed : List Nat := []
deriving Inhabited, Repr

/-- What the parser reads: the text and the repair applied to it, and whether no reading of
the text so repaired gets to its end (some bracket, string or template in it is left open). -/
structure Env where
  src : Source
  repair : Repair
  unfinishable : Thunk Bool := Thunk.pure false
  watch : Option Nat := none

structure Cursor where
  pos : Nat
  stack : List Boundary
  depth : Nat
  extras : Nat
  best : Option Stop
  placed : Nat
  justPlaced : Bool
  closedOnPlaced : Bool
  seen : Option (List Boundary) := none
  lastName : Option (Nat × String) := none
deriving Inhabited

inductive Step (α : Type) where
  | ok (value : α) (cursor : Cursor)
  | stop (reason : Stop)

def Parse (α : Type) : Type := Env → Cursor → Step α

/-- Whether a stop ends the reading at once: it is at the end of the text, past which no stop
gets, and no reading of the text gets to its end, so every alternative still open would end
in this same stop, the earliest one as far being the one kept. -/
def Env.settles (e : Env) (s : Stop) : Bool := s.token ≥ e.src.size && e.unfinishable.get

namespace Parse

protected def pure (a : α) : Parse α := fun _ c => .ok a c

protected def bind (p : Parse α) (f : α → Parse β) : Parse β := fun e c =>
  match p e c with
  | .ok a c' => f a e c'
  | .stop s => .stop s

instance : Monad Parse where
  pure := Parse.pure
  bind := Parse.bind

def further (new : Stop) : Option Stop → Stop
  | some old => if new.token > old.token then new else old
  | none => new

/-- Ordered choice: the second parser runs from the same cursor when the first stops, and
knows how far the first one got; a stop that settles the reading is passed on. -/
def orElse (p : Parse α) (q : Unit → Parse α) : Parse α := fun e c =>
  match p e c with
  | .ok a c' => .ok a c'
  | .stop s => if e.settles s then .stop s else q () e { c with best := some s }

instance : OrElse (Parse α) := ⟨orElse⟩

def env : Parse Env := fun e c => .ok e c

def cursor : Parse Cursor := fun _ c => .ok c c

def source : Parse Source := fun e c => .ok e.src c

def dialect : Parse Dialect := fun e c => .ok e.src.dialect c

end Parse

namespace Env

def skipTrivia (e : Env) (p : Nat) : Nat × Nat :=
  let rec go (q count : Nat) : Nat → Nat × Nat
    | 0 => (q, count)
    | fuel + 1 =>
      let (r, n) := e.src.blankEnd q
      match e.repair.skips.find? fun (a, b) => a ≤ r && r < b with
      | some (_, b) => go b (count + n) fuel
      | none => (r, count + n)
  go p 0 (e.repair.skips.length + 1)

def repairedFrom (e : Env) (q : Nat) : Option Nat :=
  (e.repair.skips.find? fun (a, _) => a == q).map (·.2)

def nextRepairAfter (e : Env) (q : Nat) : Option Nat :=
  ((e.repair.skips.map (·.1)).filter (· > q)).min?

/-- Where reading inside quoted text goes on from a position where none of its tokens starts:
past the blanks and comments there and a repaired range after them. None when no repaired
range follows. -/
def resumeAfterRepair (e : Env) (q : Nat) : Option Nat :=
  let r := (e.skipTrivia q).1
  if e.repair.skips.any fun (a, b) => q ≤ a && b ≤ r then some r else none

def pending (e : Env) (c : Cursor) : Option String :=
  match e.repair.missing.drop c.placed with
  | (m, k) :: _ => if m == c.pos then some k else none
  | [] => none

def nextStart (e : Env) (c : Cursor) : Nat :=
  match e.pending c with
  | some _ => c.pos
  | none => (e.skipTrivia c.pos).1

def noteAt (e : Env) (c : Cursor) (start : Nat) : Option (List Boundary) :=
  if c.seen.isNone && e.watch == some start then some c.stack else c.seen

end Env

namespace Cursor

def initial : Cursor :=
  { pos := 0, stack := [], depth := 0, extras := 0, best := none, placed := 0,
    justPlaced := false, closedOnPlaced := false }

/-- Folds the entries pushed since the stack had `depth` entries into one entry, marked
`complete` when nothing can follow them inside it. -/
def fold (c : Cursor) (depth start : Nat) (visible complete : Bool) : Cursor :=
  let pushed := c.stack.take (c.depth - depth)
  if pushed.isEmpty && !visible then c
  else
    let weight := if visible then 1 else (pushed.map (·.weight)).foldr (· + ·) 0
    { c with stack := .mk start c.pos weight pushed complete :: c.stack.drop (c.depth - depth),
             depth := depth + 1,
             closedOnPlaced := c.closedOnPlaced || c.justPlaced }

end Cursor

namespace Parse

def fail : Parse α := fun e c =>
  .stop (further { token := e.nextStart c, stop := c.pos, stack := c.stack,
                   closed := c.closedOnPlaced, seen := c.seen, lastName := c.lastName } c.best)

def guard (b : Bool) : Parse Unit := if b then pure () else fail

def peekStart : Parse Nat := fun e c => .ok (e.nextStart c) c

def peekPending : Parse (Option String) := fun e c => .ok (e.pending c) c

/-- The character where the next token starts, NUL at the end of the text or before a
zero-width token. -/
def peekChar : Parse Char := fun e c =>
  match e.pending c with
  | some _ => .ok '\x00' c
  | none => .ok (e.src.get (e.skipTrivia c.pos).1) c

def lastEnd : Parse Nat := fun _ c => .ok c.pos c

def advance (start stop : Nat) : Parse Unit := fun e c =>
  let (_, comments) := e.skipTrivia c.pos
  .ok () { c with pos := stop, stack := .token start stop :: c.stack, depth := c.depth + 1,
                  extras := c.extras + comments, justPlaced := false,
                  seen := e.noteAt c start }

def place : Parse Unit := fun _ c =>
  .ok () { c with stack := .token c.pos c.pos :: c.stack, depth := c.depth + 1,
                  placed := c.placed + 1, justPlaced := true, closedOnPlaced := false }

/-- Reads a zero-width token of a kind if one is waiting; `none` when none is waiting, stops
when one of another kind is. -/
def placeKind (kind : String) : Parse (Option Unit) := fun e c =>
  match e.pending c with
  | some k =>
    if k == kind then place e c |> fun
      | .ok () c' => .ok (some ()) c'
      | .stop s => .stop s
    else fail e c
  | none => .ok none c

/-- Reads a waiting zero-width token that stands for a whole leaf, such as a name: the leaf
is a construct that it ends. -/
def placeLeaf (kind : String) : Parse (Option Unit) := fun e c =>
  match placeKind kind e c with
  | .ok (some ()) c' => .ok (some ()) { c' with closedOnPlaced := true }
  | r => r

/-- Marks the zero-width token just read, if the last token read is one, as ending no
construct: the rule that holds it goes on with the next token without ending. -/
def keepPlacedOpen : Parse Unit := fun _ c =>
  .ok () (if c.justPlaced then { c with closedOnPlaced := false } else c)

def lit (t : String) : Parse Unit := do
  match ← placeKind t with
  | some () => pure ()
  | none =>
    let p ← peekStart
    let s ← source
    if s.hasAt p t then advance p (p + t.length) else fail

def peekPunct : Parse (Option String) := fun e c =>
  match e.pending c with
  | some k => .ok (some k) c
  | none => .ok (e.src.punctuatorAt (e.skipTrivia c.pos).1) c

def punct (t : String) : Parse Unit := do
  match ← placeKind t with
  | some () => pure ()
  | none =>
    let p ← peekStart
    let s ← source
    if s.punctuatorAt p == some t then advance p (p + t.length) else fail

def isPunct (t : String) : Parse Bool := do
  return (← peekPunct) == some t

def peekName : Parse (Option (String × Nat)) := fun e c =>
  match e.pending c with
  | some "identifier" => .ok (some ("", c.pos)) c
  | some _ => .ok none c
  | none =>
    let p := (e.skipTrivia c.pos).1
    match e.src.nameEnd p with
    | some q => .ok (some (e.src.slice p q, q)) c
    | none => .ok none c

def peekWord : Parse String := do
  match ← peekName with
  | some (w, _) => pure w
  | none => pure ""

def wordAhead (e : Env) (c : Cursor) (w : String) : Bool :=
  match e.pending c with
  | some _ => w == ""
  | none =>
    let p := (e.skipTrivia c.pos).1
    match e.src.nameEnd p with
    | some q => q - p == w.length && e.src.hasAt p w
    | none => w == ""

def isWord (w : String) : Parse Bool := fun e c => .ok (wordAhead e c w) c

def keyword (w : String) : Parse Unit := do
  match ← placeKind w with
  | some () => pure ()
  | none =>
    let e ← env
    let c ← cursor
    if w != "" && wordAhead e c w then
      let p := (e.skipTrivia c.pos).1
      advance p (p + w.length)
    else fail

def noteName (p : Nat) (kind : String) : Parse Unit := fun _ c =>
  .ok () { c with lastName := some (p, kind) }

def keywordTokens (typed : Bool) : List String :=
  let plain :=
    ["break", "case", "catch", "class", "const", "continue", "debugger", "default", "delete",
     "do", "else", "export", "extends", "false", "finally", "for", "function", "if", "import",
     "in", "instanceof", "new", "null", "return", "super", "switch", "this", "throw", "true",
     "try", "typeof", "var", "void", "while", "with", "as", "async", "await", "from", "get",
     "let", "of", "set", "static", "target", "meta", "yield", "using"]
  if typed then
    plain ++ ["abstract", "accessor", "any", "asserts", "bigint", "boolean", "declare", "enum",
      "global", "implements", "infer", "interface", "is", "keyof", "module", "namespace", "never",
      "number", "object", "override", "private", "protected", "public", "readonly", "require",
      "satisfies", "string", "symbol", "type", "unique", "unknown"]
  else plain

def nameKeywords (typed : Bool) : List String :=
  let plain := ["get", "set", "async", "static", "export", "let"]
  if typed then
    plain ++ ["declare", "namespace", "type", "public", "private", "protected", "override",
      "readonly", "module", "any", "number", "boolean", "string", "symbol", "object", "new"]
  else plain

/-- Whether the word at a position can be no name of a kind because the reading resumes there
after tokens passed over: there the word was read as the keyword it is, which a type's name
never is, and a variable's name only as one of `nameKeywords`. -/
def keywordOnly (p : Nat) (w kind : String) : Parse Bool := do
  let e ← env
  let typed := e.src.dialect.typed
  if !e.repair.resumed.contains p || !(keywordTokens typed).contains w then pure false
  else if kind == "type_identifier" then pure true
  else if kind == "identifier" then pure !(nameKeywords typed).contains w
  else pure false

def nameNode (kind : String) (allowed : String → Bool) : Parse Node := do
  let p ← peekStart
  match ← placeLeaf "identifier" with
  | some () => pure (Node.leaf kind p p)
  | none =>
    match ← peekName with
    | some (w, q) =>
      if allowed w && !(← keywordOnly p w kind) then do
        advance p q; noteName p kind; pure (Node.leaf kind p q)
      else fail
    | none => fail

def keywordNode (w kind : String) : Parse Node := do
  let p ← peekStart
  keyword w
  let q ← lastEnd
  pure (Node.leaf kind p q)

def scanned (kind : String) (scan : Source → Nat → Option Nat) : Parse Node := do
  match ← placeLeaf kind with
  | some () => let p ← lastEnd; pure (Node.leaf kind p p)
  | none =>
    let p ← peekStart
    match scan (← source) p with
    | some q => do advance p q; pure (Node.leaf kind p q)
    | none => fail

def advanceRaw (stop : Nat) : Parse Unit := fun e c =>
  .ok () { c with pos := stop, stack := .token c.pos stop :: c.stack, depth := c.depth + 1,
                  justPlaced := false, seen := e.noteAt c c.pos }

def skipTo (q : Nat) : Parse Unit := fun _ c => .ok () { c with pos := q }

def depthNow : Parse Nat := fun _ c => .ok c.depth c

/-- Whether nothing can follow the last child of a node of a kind inside it: a member access
ends with its property and a call with its arguments; a `new` expression with arguments, a
function or method with a block body and a class end with those. -/
def closesAfterLast (kind : String) (kids : List Node) : Bool :=
  let last := (kids.getLast?.map (·.kind)).getD ""
  match kind with
  | "member_expression" | "call_expression" => true
  | "new_expression" => last == "arguments"
  | "arrow_function" | "function_expression" | "function" | "generator_function"
  | "method_definition" =>
    last == "statement_block"
  | "class" => last == "class_body"
  | _ => false

def finish (kind : String) (depth start : Nat) (kids : List Node) (op : String := "") :
    Parse Node := fun _ c =>
  .ok { kind, start, stop := c.pos, children := kids, op }
    (c.fold depth start true (closesAfterLast kind kids))

def nodeWith (body : Parse (String × List Node)) : Parse Node := fun e c =>
  let start := e.nextStart c
  match body e c with
  | .ok (kind, kids) c' =>
    let start := if c'.pos ≤ start then c'.pos else start
    .ok { kind, start, stop := c'.pos, children := kids }
      (c'.fold c.depth start true (closesAfterLast kind kids))
  | .stop s => .stop s

def node (kind : String) (body : Parse (List Node)) : Parse Node := fun e c =>
  let start := e.nextStart c
  match body e c with
  | .ok kids c' =>
    let start := if c'.pos ≤ start then c'.pos else start
    .ok { kind, start, stop := c'.pos, children := kids }
      (c'.fold c.depth start true (closesAfterLast kind kids))
  | .stop s => .stop s

def group (body : Parse α) : Parse α := fun e c =>
  let start := e.nextStart c
  match body e c with
  | .ok a c' => .ok a (c'.fold c.depth (min start c'.pos) false false)
  | .stop s => .stop s

/-- Runs a parser whose reading forms one part of the stack without a node of its own, and
which nothing can extend once it is read: the part is folded as soon as its last token is. -/
def sealed (body : Parse α) : Parse α := fun e c =>
  let start := e.nextStart c
  match body e c with
  | .ok a c' => .ok a (c'.fold c.depth (min start c'.pos) false true)
  | .stop s => .stop s

/-- Folds the entries pushed since the stack had `depth` entries into one part without a node
of its own, as a repetition folds each unit it reads with the units before it. Nothing follows
the last part of a unit inside it, so the part is closed when that last part is. -/
def foldRepeat (depth : Nat) : Parse Unit := fun e c =>
  let start := ((c.stack.drop (c.depth - depth - 1)).head?.map (·.start)).getD c.pos
  let closed := (c.stack.head?.map (·.closedIn e.src)).getD false
  .ok () (c.fold depth start false closed)

def spanned (body : Parse α) : Parse (α × Nat × Nat) := fun e c =>
  let start := e.nextStart c
  match body e c with
  | .ok a c' => .ok (a, min start c'.pos, c'.pos) c'
  | .stop s => .stop s

def optional (p : Parse α) : Parse (Option α) :=
  orElse (some <$> p) fun _ => pure none

def succeeds (p : Parse α) : Parse Bool := fun e c =>
  match p e c with
  | .ok _ c' => .ok true { c with best := c'.best }
  | .stop s => if e.settles s then .stop s else .ok false { c with best := some s }

/-- One turn of `many` over the stack above `depth`: the items so far, latest first, and the
cursor after one more item, folded with those before it into one entry, or none when no item
can be read or one reads nothing; then the cursor to end with is the one given, knowing how far
the last attempt got. -/
def manyTurn (item : Parse (List Node)) (depth : Nat) (e : Env) (rev : List Node) (c : Cursor) :
    (List Node × Cursor) ⊕ Cursor :=
  match item e c with
  | .ok kids c' =>
    if c'.pos ≤ c.pos && kids.isEmpty then .inr { c with best := c'.best }
    else
      let start := (c'.stack.drop (c'.depth - depth - 1)).head?.map (·.start) |>.getD c'.pos
      .inl (kids.reverse ++ rev, c'.fold depth start false false)
  | .stop s => .inr { c with best := some s }

/-- Goes on reading items after some have been read (given latest first), the stack above
`depth` holding them; gives all the items in order, unless a stop met on the way settles the
reading. -/
def manyFrom (item : Parse (List Node)) (depth : Nat) (rev : List Node) : Parse (List Node) :=
  fun e c0 =>
    let rec go (rev : List Node) (c : Cursor) : Nat → Step (List Node)
      | 0 => .ok rev.reverse c
      | fuel + 1 =>
        match manyTurn item depth e rev c with
        | .inl (rev, c) => go rev c fuel
        | .inr c =>
          match c.best with
          | some s => if e.settles s then .stop s else .ok rev.reverse c
          | none => .ok rev.reverse c
    go rev c0 (e.src.size + 2)

def many (item : Parse (List Node)) : Parse (List Node) := fun e c0 =>
  manyFrom item c0.depth [] e c0

def manyTrail (item : Parse (List Node)) (depth : Nat) (e : Env) (rev : List Node)
    (c : Cursor) : List (List Node × Cursor) :=
  go rev c (e.src.size + 2)
where
  go (rev : List Node) (c : Cursor) : Nat → List (List Node × Cursor)
    | 0 => []
    | fuel + 1 =>
      match manyTurn item depth e rev c with
      | .inl (rev, c) => (rev, c) :: go rev c fuel
      | .inr _ => []

/-- Reads one or more items separated by a token. With `trailing`, a separator may also end
the list. A stop that settles the reading is passed on. -/
def sepBy (item : Parse (List Node)) (sep : Parse Unit) (trailing : Bool) : Parse (List Node) :=
  fun e c0 =>
  let rec go (rev : List Node) (c : Cursor) : Nat → Step (List Node)
    | 0 => .ok rev.reverse c
    | fuel + 1 =>
      match sep e c with
      | .ok () c1 =>
        match item e c1 with
        | .ok kids c2 => go (kids.reverse ++ rev) c2 fuel
        | .stop s => if e.settles s then .stop s
                     else if trailing then .ok rev.reverse { c1 with best := some s }
                     else .ok rev.reverse { c with best := some s }
      | .stop s => if e.settles s then .stop s else .ok rev.reverse { c with best := some s }
  match item e c0 with
  | .ok kids c1 => go kids.reverse c1 (e.src.size + 2)
  | .stop s => .stop s

end Parse

end Syntax

end Cyclomatic
