import Cyclomatic.Syntax.Recovery
import Cyclomatic.Syntax.Merge

/-!
Recovering from errors the way a parser that follows several readings of a text at once does.
Each reading has a repair and a cost. One that meets a token it cannot read is paused, and when
it ranks first it is taken up again as three readings: one with a token taken as present, one
that passes over completed parts of its stack, and one that passes over the tokens that follow,
trying at each to go back to an earlier state of its stack. The readings advance together and
are ranked after each step, those in error after the others and cheaper ones first; the
cheapest tree that gets to the end of the text wins, a later one winning a tie.
-/

namespace Cyclomatic

namespace Syntax

namespace Source

/-- Whether no token starts at a position: a `#` that does not begin a private name (the line
a script may start with apart), or a character that is neither blank nor the start of a quote,
a name, a number or punctuation. The lexer reads such text as an error token of its own, which
no earlier state can read. -/
def unreadable (s : Source) (p : Nat) : Bool :=
  let c := s.get p
  p < s.size &&
    if c == '#' then !(p == 0 && s.get 1 == '!') && (s.nameEnd (p + 1)).isNone
    else c != '"' && c != '\'' && c != '`' && !isBlank c && !c.isDigit &&
      (s.nameEnd p).isNone && (s.punctuatorAt p).isNone

/-- The end of the text no token starts in, from a position where none starts: the lexer
passes over it character by character until a token can start. -/
def unreadableEnd (s : Source) (p : Nat) : Nat :=
  let rec go (q : Nat) : Nat → Nat
    | 0 => q
    | fuel + 1 => if s.unreadable q then go (q + 1) fuel else q
  go (p + 1) (s.size - p)

/-- The end of the token starting at a position as tokens are read while recovering: quotes
and backquotes stand alone, text no token starts in is one token, other tokens are read as
`tokenEnd` reads them. -/
def looseTokenEnd (s : Source) (p : Nat) : Nat :=
  let c := s.get p
  if c == '"' || c == '\'' || c == '`' then p + 1
  else if s.unreadable p then s.unreadableEnd p
  else max (s.tokenEnd p) (p + 1)

/-- The tokens from a position, at most `most` of them, as tokens are read while recovering:
where each starts and ends. -/
def looseTokensFrom (s : Source) (p most : Nat) : List (Nat × Nat) :=
  let rec go (q : Nat) : Nat → List (Nat × Nat)
    | 0 => []
    | fuel + 1 =>
      if q ≥ s.size then []
      else
        let r := s.looseTokenEnd q
        (q, r) :: go (s.blankEnd r).1 fuel
  go p most

end Source

namespace Versions

open Recovery

/-- Where a reading is: reading on toward the stop it will meet (none when it reads to the
end), paused at a stop, passing over the tokens after a stop, or held while passing over them
at text no token starts with. A reading passing over tokens keeps the cost it had before the
stop, the tokens still ahead, and how many it passed over. -/
inductive Mode where
  | reading (next : Option Stop)
  | paused (st : Stop)
  | skipping (st : Stop) (base : Nat) (ahead : List (Nat × Nat)) (skipped : Nat)
  | held (st : Stop) (base : Nat) (ahead : List (Nat × Nat)) (skipped : Nat)

structure Version where
  repair : Repair
  /-- The cost of its tree so far; while passing over tokens, with the text passed over. -/
  cost : Nat
  /-- Its faults, in the order they were made, except that text passed over comes before the
  faults it holds. -/
  faults : List Fault
  mode : Mode
  pos : Nat
  /-- Where its last error was, from which its nodes are counted. -/
  since : Nat
  /-- The nodes it made at its last error: the error node and the tokens passed over in it. -/
  made : Nat := 0
  gone : Bool := false
  /-- Whether it was started at a recovery and took the token there ahead of its turn. -/
  behind : Bool := false
  /-- For a reading started by one passing over tokens, at the state that one stopped in: the
  stop and the base cost of that one. -/
  startedAt : Option (Nat × Nat) := none

structure Context where
  src : Source
  bytes : Array Nat
  starts : Array Nat
  points : List Resume

def Context.tokensBefore (cx : Context) (p : Nat) : Nat :=
  let rec go (lo hi : Nat) : Nat → Nat
    | 0 => lo
    | fuel + 1 =>
      if lo ≥ hi then lo
      else
        let mid := (lo + hi) / 2
        if cx.starts.getD mid 0 < p then go (mid + 1) hi fuel else go lo mid fuel
  go 0 cx.starts.size (cx.starts.size + 1)

def Context.byteSpan (cx : Context) (a b : Nat) : Nat := cx.bytes.getD b 0 - cx.bytes.getD a 0

def Context.lineSpan (cx : Context) (a b : Nat) : Nat := cx.src.line b - cx.src.line a

def Context.spanCost (cx : Context) (a b : Nat) : Nat :=
  cx.byteSpan a b + skippedLineCost * cx.lineSpan a b

/-- The visible nodes a reading has made since its last error: those made at the error, and
three for every two tokens read after it. -/
def Context.nodes (cx : Context) (v : Version) : Nat :=
  v.made + (cx.tokensBefore v.pos - cx.tokensBefore v.since) * 3 / 2

/-- How a reading ranks: its cost, the nodes it read since its last error, and whether it is
in error. A paused reading costs a recovery and a skipped tree more. -/
structure Status where
  cost : Nat
  nodes : Nat
  inError : Bool

/-- The status of a reading. A paused reading has just met its error, so it has read no nodes
since. -/
def Context.status (cx : Context) (v : Version) : Status :=
  match v.mode with
  | .paused _ | .held .. => ⟨v.cost + recoveryCost + skippedTreeCost, 0, true⟩
  | .skipping .. => ⟨v.cost, cx.nodes v, true⟩
  | .reading _ => ⟨v.cost, cx.nodes v, false⟩

/-- How one reading compares with another: the first is to be kept and the second dropped, the
first ranks before the second, neither, the second ranks first, or the second is to be kept
and the first dropped. -/
inductive Verdict where
  | takeLeft
  | preferLeft
  | even
  | preferRight
  | takeRight

/-- How much more than another a reading may cost, weighed by the nodes the better one read,
before it is dropped. -/
def maxCostDifference : Nat := 16 * skippedTreeCost

/-- Compares two readings: one in error ranks after one that is not, and is dropped when it
also costs more; otherwise the cheaper ranks first, and the dearer is dropped when the
difference, weighed by the nodes the cheaper one read, is too large. -/
def compare (a b : Status) : Verdict :=
  if !a.inError && b.inError then
    if a.cost < b.cost then .takeLeft else .preferLeft
  else if a.inError && !b.inError then
    if b.cost < a.cost then .takeRight else .preferRight
  else if a.cost < b.cost then
    if (b.cost - a.cost) * (1 + a.nodes) > maxCostDifference then .takeLeft else .preferLeft
  else if b.cost < a.cost then
    if (a.cost - b.cost) * (1 + b.nodes) > maxCostDifference then .takeRight else .preferRight
  else .even

/-- The readings followed, the best tree found so far (its cost, its faults and the repair it
was read with, none for a tree that is one error), how many more readings of the text may be
tried, and whether the search has ended. -/
structure World where
  versions : List Version
  finished : Option (Nat × List Fault × Option Repair) := none
  checks : Nat
  ended : Bool := false

/-- The stack a reading under a repair ends with, when it reads the whole text; none at once
when the repaired text leaves something open at its end. -/
def Context.finalStack (cx : Context) (r : Repair) : Option (List Boundary) :=
  if (envFor cx.src r).unfinishable.get then none
  else match readProgramFrom cx.src cx.points r with
  | .ok _ c => some c.stack
  | .stop _ => none

/-- Whether the tree read with one repair is kept over one of the same cost read later with
another: the two readings meet and differ below that only in one construct holding an error
in each. -/
def Context.keepsEarlier (cx : Context) (first later : Repair) : Bool :=
  let marks (r : Repair) := r.skips.map (·.2) ++ r.missing.map (·.1)
  let after := (marks first ++ marks later).foldl max 0
  let tokens := (cx.starts.toList.filter (· ≥ after)).take 400
  match cx.finalStack first, cx.finalStack later with
  | some a, some b => Merge.keepsFirst a first.skips b later.skips tokens
  | _, _ => false

/-- Keeps a finished tree: the new one wins unless it costs more, or costs the same and the
kept one stays when the two readings meet. -/
def Context.accept (cx : Context) (w : World) (cost : Nat) (faults : List Fault)
    (repair : Option Repair) : World :=
  let keep := { w with finished := some (cost, faults, repair) }
  match w.finished with
  | some (c, _, old) =>
    if cost < c then keep
    else if cost == c then
      match old, repair with
      | some a, some b => if cx.keepsEarlier a b then w else keep
      | _, _ => keep
    else w
  | none => keep

/-- Whether some reading other than the one at `self` is clearly better than a reading of a
cost at a position would be: a finished tree that costs no more, or a reading going on at or
past the position whose cost is lower by more than the weighed difference allows. -/
def World.betterExists (cx : Context) (w : World) (self : Nat) (cost pos nodes : Nat) : Bool :=
  (match w.finished with
    | some (c, _, _) => c ≤ cost
    | none => false) ||
  w.versions.zipIdx.any fun (v, i) =>
    i != self && !v.gone && v.pos ≥ pos &&
      (match v.mode with
        | .paused _ | .held .. => false
        | _ => true) &&
      (match compare ⟨cost, nodes, false⟩ (cx.status v) with
        | .takeRight => true
        | _ => false)

/-- Where the reading with a repair goes, if it reads past a position (a token taken as
present must also end a construct): its next stop, or none when it reads to the end. No stop
is past the end of the text, so from there only a reading of the whole text goes on, and
none does when the repaired text leaves something open at its end. -/
def follow (cx : Context) (r : Repair) (past : Nat) (missing : Bool) : Option (Option Stop) :=
  if past ≥ cx.src.size && (envFor cx.src r).unfinishable.get then none
  else match readProgramFrom cx.src cx.points r with
  | .ok (_, closed) _ => if !missing || closed then some none else none
  | .stop st => if st.token > past && (!missing || st.closed) then some (some st) else none

/-- An earlier state a reading passing over tokens may go back to: the parts popped to reach
it, where it was reached, how deep it lies, where the passed-over text would start, and the
stack left there. -/
structure Entry where
  popped : List Boundary
  reached : Nat
  depth : Nat
  start : Nat
  below : List Boundary

/-- How deep the earlier states of a stack that a recovery may go back to lie at most: the
error itself counts as one level, each part popped as one more. -/
def maxSummaryDepth : Nat := 16

/-- The earlier states of a stop's stack, shallowest first, the least text first among those
equally deep, down to `maxSummaryDepth`; with `skipped` tokens passed over, the state at the
stop itself comes first. -/
def entries (s : Source) (st : Stop) (skipped : Nat) : List Entry :=
  let tail := s.lastCommentEnd st.stop
  let here : List Entry :=
    if skipped > 0 then [⟨[], tail, 1, st.token, openedView s st.stop unfoldLimit st.stack⟩]
    else []
  let popped := (pops s st.stop unfoldLimit st.stack).filterMap fun (ps, below) =>
    if ps.length + 1 > maxSummaryDepth then none
    else
      let e : Entry :=
        { popped := ps, reached := s.lastCommentEnd ((below.head?.map (·.stop)).getD 0),
          depth := ps.length + 1, start := (ps.getLast?.map (·.start)).getD st.token, below }
      some e
  here ++ popped.mergeSort fun a b => a.depth < b.depth || (a.depth == b.depth && a.start ≥ b.start)

/-- The stack a reading under a repair has when it reads the token at a position, if it
reads that token. -/
def Context.stackBefore (cx : Context) (r : Repair) (t : Nat) : Option (List Boundary) :=
  match readProgramFrom cx.src cx.points r (some t) with
  | .ok _ c => c.seen
  | .stop st => st.seen

/-- Whether the expression starting at a position is a simple value, which a member access,
a subscript or a tagged template may follow as it stands: not an element of markup, a type
assertion, an operator applied to an operand, or a `new` expression. -/
def startsValue (s : Source) (p : Nat) : Bool :=
  let c := s.get p
  if c == '<' || c == '!' || c == '-' || c == '+' || c == '~' then false
  else match s.nameEnd p with
    | some q =>
      let w := s.slice p q
      !(["await", "typeof", "void", "delete", "yield"].contains w) &&
        !(w == "new" && s.get (s.blankEnd q).1 != '.')
    | none => true

/-- The kinds of token a member's name may be. Names of different kinds end different
states. -/
inductive NameToken where
  | word
  | privateName
  | string
  | number
deriving BEq

def nameClass (s : Source) (p : Nat) : NameToken :=
  let c := s.get p
  if c == '#' then .privateName
  else if c == '"' || c == '\'' then .string
  else if c.isDigit then .number
  else .word

/-- Names that end a state with nothing to shift before they are folded into the name of a
member: at such a stop, the state the reading is in is that of a member's name whatever
member it is. A name used as a value is not among them: a value may still be followed by `=>`
or `:` as it stands, so its state there keeps the name itself. -/
def memberNameKinds : List String := ["property_identifier"]

/-- Whether going back to an earlier state would give a reading that another one already is,
so that the state is passed by. The other reading is the one that took a token as present at
the same error and stands where this one does. The reading from the state takes the token at
`t0` right on the stack left there, closing none of its parts, so that it is in the state
itself; the other takes it on a stack of as many parts, which below the top part start where
those of the first do: the two read on in the same state. The state at the stop itself, below
no part popped, is only that of a member's name (`memberNameKinds`), and the other reading's
last token must be a name of the same kind (`nameClass`); after any other token it may still be
folded in ways the other reading has not taken. When the part popped is the mark
of a member access, the state below it is that of its object: of a simple value
(`startsValue`) when the object is one, else of an expression. The other reading folds
its member access only as far as the token needs, to a simple value for a token such a value
takes as it stands (`.`, `?.`, `[` or a template) and on to an expression for any other, so
the two states are the same only when the two kinds agree. Below an opening bracket the
state is inside the construct it opens, which the other reading has closed. -/
def Context.wouldMerge (cx : Context) (w : World) (self : Nat) (v : Version) (st : Stop)
    (e : Entry) (repair : Repair) (t0 : Nat) : Bool :=
  let s := cx.src
  let lastStart := ((cx.starts.toList.filter (· < v.pos)).getLast?).getD 0
  let atName := match st.lastName, e.below.head? with
    | some (p, k), some top =>
      p == top.start && memberNameKinds.contains k && nameClass s p == nameClass s lastStart
    | _, _ => false
  let takenByValue := s.get t0 == '`' ||
    (match s.punctuatorAt t0 with
      | some p => p == "." || p == "?." || p == "["
      | none => false)
  let memberMark := e.popped.length == 1 &&
    (s.get e.start == '.' || (s.get e.start == '?' && s.get (e.start + 1) == '.'))
  let sameLevel := !memberMark ||
    (match e.below.head? with
      | some top => startsValue s top.start == takenByValue
      | none => false)
  let belowOpening := match e.below.head? with
    | some top => top.parts.isEmpty && top.stop == top.start + 1 &&
        ['{', '(', '['].contains (s.get top.start)
    | none => false
  let others := w.versions.zipIdx.filter fun (u, j) =>
    j != self && !u.gone && u.pos == v.pos &&
      (match u.mode with
        | .reading _ => true
        | _ => false) &&
      (match u.faults.getLast? with
        | some (.missing _ _) => u.faults.dropLast == v.faults
        | _ => false)
  if others.isEmpty || (e.popped.isEmpty && !atName) || !sameLevel || belowOpening then false
  else
    match cx.stackBefore repair t0 with
    | none => false
    | some rs =>
      Boundary.sameParts rs e.below &&
        others.any fun (u, _) =>
          match cx.stackBefore u.repair t0 with
          | some us => us.length == rs.length &&
              (us.drop 1).map (·.start) == (rs.drop 1).map (·.start)
          | none => false

/-- Tries the earlier states of the reading at `self`, passing over tokens from a stop, for
the token from `t0`: the first state in which the token can be read starts a new reading,
unless a clearly better reading exists first. -/
def tryEntries (cx : Context) (self : Nat) (v : Version) (st : Stop) (base skipped t0 : Nat) :
    List Entry → World → World
  | [], w => w
  | e :: rest, w =>
    if e.reached == v.pos then tryEntries cx self v st base skipped t0 rest w
    else
      let estimate := v.cost + skippedTreeCost * e.depth + cx.spanCost e.reached v.pos
      if w.betterExists cx self estimate v.pos (cx.nodes v) || w.checks == 0 then w
      else
        let w := { w with checks := w.checks - 1 }
        let skip := v.repair.withSkip e.start t0
        let repair := if skipped > 0 then { skip with resumed := t0 :: skip.resumed } else skip
        match follow cx repair t0 false with
        | none => tryEntries cx self v st base skipped t0 rest w
        | some next =>
          if cx.wouldMerge w self v st e repair t0 then tryEntries cx self v st base skipped t0 rest w
          else
          let last := if skipped == 0 then st.stop else v.pos
          let weight := (e.popped.map (·.weight)).foldr (· + ·) 0 + skipped
          let tree := recoveryCost + skippedTreeCost * weight + cx.spanCost e.start last
          let spawned : Version :=
            { repair, cost := base + tree, faults := Fault.addSkip v.faults e.start (e.popped.any Merge.holdsPlaced),
              mode := .reading next, pos := v.pos, since := v.pos, made := 1 + skipped,
              startedAt := if e.popped.isEmpty then some (st.token, base) else none }
          { w with versions := w.versions ++ [spawned] }

def maxVersions : Nat := 6

def World.put (w : World) (i : Nat) (v : Version) : World :=
  { w with versions := w.versions.set i v }

/-- The step of the reading at `i`, passing over tokens from a stop, at the token ahead of it:
it tries the earlier states of its stack for the token, then passes over the token, or is
dropped when a clearly better reading exists. At the end of the text it gives a tree that is
one error holding everything read. Text no token starts in is an error token that no state can
read: taken at the stop it costs only its text, and met later it holds the reading, which
then ranks as a paused one. -/
def skipStep (cx : Context) (i : Nat) (v : Version) (st : Stop) (base : Nat)
    (ahead : List (Nat × Nat)) (skipped : Nat) (w : World) : World :=
  match ahead with
  | [] => w.put i { v with gone := true }
  | (t0, t1) :: rest =>
    if skipped > 0 && cx.src.unreadable t0 then
      w.put i { v with mode := .held st base ahead skipped }
    else
      let before := w.versions.length
      let w := tryEntries cx i v st base skipped t0 (entries cx.src st skipped) w
      let crowded := w.versions.length > before &&
        (w.versions.filter (!·.gone)).length > maxVersions
      if crowded then w.put i { v with gone := true }
      else if t0 ≥ cx.src.size then
        let first := cx.src.skipWhile 0 isBlank
        let last := if skipped == 0 then st.stop else v.pos
        let weight := (st.stack.map (·.weight)).foldr (· + ·) 0 + skipped
        let cost := base + recoveryCost + skippedTreeCost * weight + cx.spanCost first last
        let w := cx.accept w cost (.skipped first :: v.faults) none
        w.put i { v with gone := true }
      else
        let estimate := v.cost + skippedTreeCost + cx.spanCost v.pos t1
        if w.betterExists cx i estimate v.pos (cx.nodes v) then w.put i { v with gone := true }
        else
          let tree := if skipped == 0 && cx.src.unreadable t0 then 0 else skippedTreeCost
          let added := tree + (if skipped == 0 then cx.spanCost t0 t1 else cx.spanCost v.pos t1)
          w.put i { v with cost := v.cost + added, pos := t1,
                           since := t1, made := skipped + 2,
                           mode := .skipping st base rest (skipped + 1) }

/-- The position of a reading's next event: the token it stops at, the end of the text, or
the token it passes over next. -/
def Context.event (cx : Context) (v : Version) : Option Nat :=
  if v.gone then none
  else match v.mode with
    | .reading (some st) => some st.token
    | .reading none => some cx.src.size
    | .skipping _ _ ((t, _) :: _) _ => some t
    | .skipping _ _ [] _ => some cx.src.size
    | .paused _ | .held .. => none

/-- Whether a reading passing over tokens is held at the token at `p`: then no reading has got
past `p` in the round. -/
def World.stalled (w : World) (p : Nat) : Bool :=
  w.versions.any fun u =>
    match u.mode with
    | .held _ _ ((t, _) :: _) _ => !u.gone && t == p
    | _ => false

/-- The step of the reading at `i` in the round at position `p`. A reading started at a
recovery is one token behind the others, so in a round where nothing got past `p` it only
catches up. -/
def stepAt (cx : Context) (p : Nat) (i : Nat) (w : World) : World :=
  match w.versions[i]? with
  | none => w
  | some v =>
    if v.gone then w
    else if v.behind && w.stalled p then w.put i { v with behind := false }
    else
      let v := { v with behind := false }
      match v.mode with
        | .paused _ | .held .. => w
        | .reading (some st) =>
          if st.token ≤ p then w.put i { v with mode := .paused st, pos := cx.src.lastCommentEnd st.stop }
          else w.put i { v with pos := max v.pos (cx.src.looseTokenEnd p) }
        | .reading none =>
          if p ≥ cx.src.size then (cx.accept w v.cost v.faults (some v.repair)).put i { v with gone := true }
          else w.put i { v with pos := max v.pos (cx.src.looseTokenEnd p) }
        | .skipping st base ahead skipped =>
          match ahead with
          | (t0, _) :: _ => if t0 ≤ p then skipStep cx i v st base ahead skipped w else w
          | [] => skipStep cx i v st base ahead skipped w

/-- Takes the readings in turn for a round at position `p`, those started during the round
included. -/
def round (cx : Context) (p : Nat) (w : World) : World :=
  let rec go (i : Nat) (w : World) : Nat → World
    | 0 => w
    | fuel + 1 => if i ≥ w.versions.length then w else go (i + 1) (stepAt cx p i w) fuel
  go 0 w (w.versions.length * 4 + 16)

def swapAt (vs : List Version) (i j : Nat) : List Version :=
  match vs[i]?, vs[j]? with
  | some a, some b => (vs.set i b).set j a
  | _, _ => vs

/-- Whether a reading was started by another, passing over tokens, at the state that one
stopped in. -/
def Version.startedBy (r v : Version) : Bool :=
  match v.mode, r.startedAt with
  | .skipping st base _ _, some k => k == (st.token, base)
  | _, _ => false

/-- How two readings compare when they are ranked: as `compare` has it, except that neither of
a reading passing over tokens and one it started at the state it stopped in drops the other. -/
def Context.judge (cx : Context) (a b : Version) : Verdict :=
  let kin := a.startedBy b || b.startedBy a
  match compare (cx.status a) (cx.status b) with
  | .takeLeft => if kin then .preferLeft else .takeLeft
  | .takeRight => if kin then .preferRight else .takeRight
  | x => x

/-- Ranks the readings pairwise, dropping those clearly worse, and gives the lowest cost of a
reading not in error. Each reading is compared, as it was before the comparisons moved it,
with every reading before it. -/
def rank (cx : Context) (vs : List Version) : List Version × Nat :=
  let rec inner (vi : Version) (i j : Nat) (vs : List Version) : Nat → Nat × List Version
    | 0 => (i, vs)
    | fuel + 1 =>
      if j ≥ i then (i, vs)
      else
        match vs[j]? with
        | none => (i, vs)
        | some vj =>
          match cx.judge vj vi with
          | .takeLeft => (i - 1, vs.eraseIdx i)
          | .preferLeft | .even => inner vi i (j + 1) vs fuel
          | .preferRight => inner vi i (j + 1) (swapAt vs i j) fuel
          | .takeRight => inner vi (i - 1) j (vs.eraseIdx j) fuel
  let rec outer (i : Nat) (vs : List Version) (least : Nat) : Nat → List Version × Nat
    | 0 => (vs, least)
    | fuel + 1 =>
      match vs[i]? with
      | none => (vs, least)
      | some vi =>
        let si := cx.status vi
        let least := if !si.inError && si.cost < least then si.cost else least
        let (i, vs) := inner vi i 0 vs (vs.length + 1)
        outer (i + 1) vs least fuel
  outer 0 vs noBound (vs.length + 1)

/-- Takes up a paused reading at `i` again: a reading with a token taken as present, and the
reading itself passing over the token it stopped at, which first tries the earlier states of
its stack for that token. The readings started here take that token at once, as the others
take it in the round. -/
def resume (cx : Context) (i : Nat) (v : Version) (st : Stop) (w : World) : World :=
  let s := cx.src
  let before := w.versions.length
  let tail := s.lastCommentEnd st.stop
  let rec missing (w : World) : List String → World
    | [] => w
    | k :: rest =>
      if w.checks == 0 then w
      else
        let w := { w with checks := w.checks - 1 }
        let repair := v.repair.withMissing st.stop k
        match follow cx repair st.token true with
        | some next =>
          let m : Version :=
            { repair, cost := v.cost + missingTreeCost + recoveryCost,
              faults := v.faults ++ [.missing tail k], mode := .reading next, pos := tail,
              since := tail, made := 2 }
          { w with versions := w.versions ++ [m] }
        | none => missing w rest
  -- Right after a simple value the first state with a token to shift is that of the value,
  -- where only `?.` can be taken as present; the states reduced further are tried after it.
  let afterValue := match (openedView s st.stop unfoldLimit st.stack).head? with
    | some top =>
      let c := s.get top.start
      (c.isAlphanum || c == '_' || c == '$' || c == '"' || c == '\'' || c == '(' || c == '[' ||
        c == '{' || c == '`') && startsValue s top.start
    | none => false
  let w := missing w (if afterValue then "?." :: missingTokens.erase "?." else missingTokens)
  let ahead := s.looseTokensFrom st.token skipWindow ++ [(s.size, s.size)]
  let v' : Version :=
    { v with cost := v.cost + recoveryCost, pos := tail, since := tail, made := 0,
             mode := .skipping st v.cost ahead 0 }
  let w := skipStep cx i v' st v.cost ahead 0 (w.put i v')
  let past := s.looseTokenEnd st.token
  { w with versions := w.versions.zipIdx.map fun (u, j) =>
      match u.mode with
      | .reading _ => if j ≥ before then { u with pos := max u.pos past, behind := true } else u
      | _ => u }
where
  skipWindow : Nat := 400

/-- Takes up a reading held at text no token starts with: it passes over that text as a new
error, which counts a recovery and the text but no skipped tree. -/
def Version.resumeHeld (v : Version) (cx : Context) (st : Stop) (base : Nat)
    (ahead : List (Nat × Nat)) (skipped : Nat) : Version :=
  match ahead with
  | [] => { v with gone := true }
  | (_, t1) :: rest =>
    { v with cost := v.cost + recoveryCost + cx.spanCost v.pos t1, pos := t1, since := t1,
             made := skipped + 2, mode := .skipping st base rest (skipped + 1) }

/-- Ranks the readings, keeps at most `maxVersions`, and takes up the paused reading that
ranks first when no reading going on ranks before it; other paused readings are dropped. The
search is over once the best tree costs less than every reading not in error. -/
def condense (cx : Context) (w : World) : World :=
  let live := w.versions.filter (!·.gone)
  let (vs, least) := rank cx live
  let vs := vs.take maxVersions
  let count := vs.length
  let rec go (i : Nat) (going : Bool) (least : Nat) (w : World) : Nat → World × Nat
    | 0 => (w, least)
    | fuel + 1 =>
      if i ≥ count then (w, least)
      else
        match w.versions[i]? with
        | none => (w, least)
        | some v =>
          match v.mode with
          | .paused st =>
            if going then go (i + 1) going least (w.put i { v with gone := true }) fuel
            else
              let least := v.cost + recoveryCost
              go (i + 1) true least (resume cx i v st w) fuel
          | .held st base ahead skipped =>
            if going then go (i + 1) going least (w.put i { v with gone := true }) fuel
            else
              let least := v.cost + recoveryCost
              go (i + 1) true least (w.put i (v.resumeHeld cx st base ahead skipped)) fuel
          | _ => go (i + 1) true least w fuel
  let (w, least) := go 0 false least { w with versions := vs } (count + 1)
  let w := { w with versions := w.versions.filter (!·.gone) }
  match w.finished with
  | some (c, _, _) => if c < least then { w with ended := true } else w
  | none => w

/-- The faults a reading stands for when the search stops early: its own, and for one that has
met an error it has not got over yet, text passed over from that error. -/
def Version.pending (v : Version) : List Fault :=
  match v.mode with
  | .paused st | .skipping st .. | .held st .. => v.faults ++ [.skipped st.token]
  | .reading _ => v.faults

/-- The first fault that every reading still followed and the best tree found share, if they
share one. -/
def World.agreedFirst (w : World) : Option Fault :=
  let firsts := w.versions.map (fun v => Fault.first v.pending) ++
    (w.finished.map fun (_, fs, _) => Fault.first fs).toList
  match firsts with
  | some f :: rest => if rest.all (· == some f) then some f else none
  | _ => none

/-- For how many rounds in a row the readings must share their first fault before the search
stops: past that, only the faults after it are still open. -/
def agreementRounds : Nat := 64

/-- Follows the readings round after round until none is left, the search is over, no more
readings of the text may be tried, or the readings have shared their first fault for
`agreementRounds` rounds; gives the number of rounds they have shared it. -/
def run (cx : Context) (agreed : Nat) : Nat → World → World × Nat
  | 0, w => (w, agreed)
  | fuel + 1, w =>
    if w.ended || w.versions.isEmpty || w.checks == 0 || agreed ≥ agreementRounds then (w, agreed)
    else
      match (w.versions.filterMap cx.event).min? with
      | none => (w, agreed)
      | some p =>
        let next := condense cx (round cx p w)
        let shared := next.agreedFirst
        let agreed := if shared.isSome && shared == w.agreedFirst then agreed + 1 else 0
        run cx agreed fuel next

def maxChecks : Nat := 600

/-- The faults of the tree the recovery from a first stop ends with. When the search stops
early, the first fault the readings share, or else those of the reading that ranks first if it
costs less than the best tree found. -/
def recover (s : Source) (st : Stop) : Option (List Fault × Option Repair) :=
  let cx : Context :=
    { src := s, bytes := s.byteOffsets,
      starts := ((s.looseTokensFrom (s.blankEnd 0).1 (s.size + 1)).map (·.1)).toArray,
      points := resumePoints s }
  let first : Version :=
    { repair := {}, cost := 0, faults := [], mode := .paused st,
      pos := s.lastCommentEnd st.stop, since := 0 }
  let (w, agreed) :=
    run cx 0 (4 * s.size + 64) (condense cx { versions := [first], checks := maxChecks })
  let settled := w.finished.map (·.2)
  if agreed ≥ agreementRounds then w.agreedFirst.map fun f => ([f], none)
  else if w.checks > 0 then settled
  else
    match w.versions.head?, w.finished with
    | some v, some (c, fs, r) =>
      if c ≤ (cx.status v).cost then some (fs, r) else some (v.pending, none)
    | some v, none => some (v.pending, none)
    | none, _ => settled

end Versions

/-- A name taken as present is named as the leaf it became in the tree read with the repair
that places it, where the tree is known: a property name is a `property_identifier`. -/
def Fault.named (s : Source) (repair : Option Repair) : Fault → Fault
  | .missing p k =>
    if k != "identifier" then .missing p k
    else
      match repair with
      | none => .missing p k
      | some r =>
        match r.missing.find? (fun (m, k') => k' == k && s.lastCommentEnd m == p),
            readProgram s r with
        | some (m, _), .ok (prog, _) _ => .missing p ((prog.root.emptyLeafAt m).getD k)
        | _, _ => .missing p k
  | f => f

/-- Reads a text as a program, or names the first repair that reading it needs. -/
def readOrFault (s : Source) : Except Fault Program :=
  match readProgram s {} with
  | .ok (p, _) _ => .ok p
  | .stop st =>
    match Versions.recover s st with
    | some (fs, r) =>
      match Fault.first fs with
      | some f => .error (f.named s r)
      | none => .error (.skipped st.token)
    | none => .error (.skipped st.token)

end Syntax

end Cyclomatic
