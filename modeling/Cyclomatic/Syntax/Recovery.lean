import Cyclomatic.Syntax.Grammar

/-!
The vocabulary of error recovery: the faults a repaired reading shows, the repairs that make a
reading go on, and what they cost. A token taken as present costs `missingTreeCost +
recoveryCost`; text passed over costs `recoveryCost`, `skippedTreeCost` for each part and token,
one for each byte and `skippedLineCost` for each line break. The search among repaired readings
is in `Versions`.
-/

namespace Cyclomatic

namespace Syntax

/-- A repair as it shows in the tree: text passed over from a position, or a token taken as
present at a position. -/
inductive Fault where
  | skipped (start : Nat)
  | missing (position : Nat) (token : String)
deriving Repr, Inhabited, DecidableEq

def Fault.position : Fault → Nat
  | .skipped p => p
  | .missing p _ => p

def Fault.before (a b : Fault) : Bool :=
  a.position < b.position

/-- The repair that shows first among several listed in the order they show in the tree where
two are at one place. -/
def Fault.first : List Fault → Option Fault
  | [] => none
  | f :: fs =>
    match Fault.first fs with
    | none => some f
    | some g => if g.before f then some g else some f

/-- Adds text passed over from `p` to the repairs made so far: it shows after them, or, when
it holds a token taken as present, before those from `p` on, which it holds. -/
def Fault.addSkip (fs : List Fault) (p : Nat) (holds : Bool) : List Fault :=
  if holds then fs.filter (·.position < p) ++ [.skipped p] ++ fs.filter (·.position ≥ p)
  else fs ++ [.skipped p]

namespace Source

/-- The end of the token starting at a position, read as any token: a name, a number, a
string, a punctuation token or one character. -/
def tokenEnd (s : Source) (p : Nat) : Nat :=
  let c := s.get p
  if c == '"' || c == '\'' then
    match s.stringParts p with
    | some (_, q) => q
    | none => p + 1
  else match s.nameEnd p with
    | some q => q
    | none =>
      match (if c == '#' then s.nameEnd (p + 1)
        else if c.isDigit || c == '.' then s.numberEnd p else none) with
      | some q => q
      | none =>
        match s.punctuatorAt p with
        | some t => p + t.length
        | none => p + 1

def byteOffsets (s : Source) : Array Nat :=
  s.chars.foldl (fun acc c => acc.push (acc.back?.getD 0 + c.utf8Size)) #[0]

end Source

namespace Repair

def withMissing (r : Repair) (p : Nat) (token : String) : Repair :=
  { r with missing := r.missing ++ [(p, token)] }

/-- The repair with a range read as blanks, joined with the ranges it meets; zero-width tokens
inside it are dropped. -/
def withSkip (r : Repair) (a b : Nat) : Repair :=
  let meets (x : Nat × Nat) : Bool := x.1 ≤ b && a ≤ x.2
  let joined := r.skips.filter meets
  let lo := joined.foldl (fun m x => min m x.1) a
  let hi := joined.foldl (fun m x => max m x.2) b
  { skips := r.skips.filter (fun x => !meets x) ++ [(lo, hi)],
    missing := r.missing.filter fun (m, _) => m < lo || hi ≤ m,
    resumed := r.resumed.filter fun m => m < lo || hi < m }

end Repair

namespace Recovery

def recoveryCost : Nat := 500

def skippedTreeCost : Nat := 100

def skippedLineCost : Nat := 30

def missingTreeCost : Nat := 110

def missingTokens : List String :=
  ["identifier", openBrace, ",", closeBrace, "(", ";", ")", ":", "=", "[", "]", ">", "/>", "?.",
    "!", "`", "/", "number", "target", "meta", "unique symbol"]

/-- The ways to pass over completed parts at the top of the stack where a reading stopped:
the parts passed over, latest first, and the stack left below them. The stack is seen as read,
and with the parts that end at the last token read opened one level after another, since a
construct is only folded once the token after it shows that it ends; opening a part adds the
ways that pass over some but not all of what it was made of. A part that `Boundary.closedIn`
accepts is never open. -/
def pops (s : Source) (stop : Nat) (fuel : Nat) (stack : List Boundary) :
    List (List Boundary × List Boundary) :=
  (List.range stack.length).map (fun k => (stack.take (k + 1), stack.drop (k + 1))) ++
    opened fuel stack
where
  opened : Nat → List Boundary → List (List Boundary × List Boundary)
    | 0, _ => []
    | fuel + 1, b :: rest =>
      if b.stop == stop && !b.parts.isEmpty && !b.closedIn s then
        let view := b.parts ++ rest
        (List.range (b.parts.length - 1)).map (fun k => (view.take (k + 1), view.drop (k + 1))) ++
          opened fuel view
      else []
    | _ + 1, [] => []

/-- The stack where a reading stopped with every part that ends at the last token read opened,
as `pops` opens them: the stack as it stands before any of those parts is folded. -/
def openedView (s : Source) (stop : Nat) : Nat → List Boundary → List Boundary
  | 0, stack => stack
  | fuel + 1, b :: rest =>
    if b.stop == stop && !b.parts.isEmpty && !b.closedIn s then
      openedView s stop fuel (b.parts ++ rest)
    else b :: rest
  | _ + 1, [] => []

def unfoldLimit : Nat := 10000

def noBound : Nat := Nat.pow 2 96

end Recovery

end Syntax

end Cyclomatic
