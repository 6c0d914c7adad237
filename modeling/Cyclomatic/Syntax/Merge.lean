import Cyclomatic.Syntax.Grammar

/-!
Which of two trees of the same cost a reading with errors keeps. Readings that meet at the same
token with the same cost go on as one; the first wins when the two differ below that point in a
single construct of the same extent that holds an error in each, and the later one wins
otherwise. A tree is seen as the stack its reading ends with and the ranges its repair passes
over.
-/

namespace Cyclomatic

namespace Syntax

namespace Merge

mutual

def holdsPlaced : Boundary → Bool
  | .mk start stop _ parts _ => (parts.isEmpty && start == stop) || holdsPlacedAll parts

def holdsPlacedAll : List Boundary → Bool
  | [] => false
  | b :: bs => holdsPlaced b || holdsPlacedAll bs

end

/-- Whether a passed-over range lies inside a part: the part has something before the range
and something after it. -/
def encloses (b : Boundary) (range : Nat × Nat) : Bool :=
  b.start < range.1 && range.2 < b.stop

/-- Whether a part holds an error: a passed-over range inside it or a placed token. -/
def holdsError (passed : List (Nat × Nat)) (b : Boundary) : Bool :=
  passed.any (encloses b) || holdsPlaced b

inductive Item where
  | read (b : Boundary)
  | passed (start stop : Nat)

def Item.start : Item → Nat
  | .read b => b.start
  | .passed a _ => a

/-- The items of a construct whose parts, in text order, are given: the parts and the
passed-over ranges that lie in none of them, in text order. -/
def items (passed : List (Nat × Nat)) (parts : List Boundary) : List Item :=
  let own := passed.filter fun r => !parts.any (encloses · r)
  let all := parts.map Item.read ++ own.map fun (a, z) => Item.passed a z
  all.mergeSort fun x y => x.start ≤ y.start

/-- The extents of the constructs around the token that starts at a position, outermost
first, from a list of parts in text order. -/
def around (t : Nat) : Nat → List Boundary → List (Nat × Nat)
  | 0, _ => []
  | fuel + 1, parts =>
    match parts.find? fun b => b.start ≤ t && t < b.stop with
    | some b =>
      if b.parts.isEmpty then [] else (b.start, b.stop) :: around t fuel b.parts.reverse
    | none => []

def partsAt (span : Nat × Nat) : Nat → List Boundary → List Boundary
  | 0, _ => []
  | fuel + 1, parts =>
    match parts.find? fun b => b.start ≤ span.1 && span.2 ≤ b.stop && !b.parts.isEmpty with
    | some b =>
      if b.start == span.1 && b.stop == span.2 then b.parts.reverse
      else partsAt span fuel b.parts.reverse
    | none => []

/-- Whether two items are the same thing read alike: the same extent, neither of them
passed over nor holding an error. -/
def same (passedA passedB : List (Nat × Nat)) : Item → Item → Bool
  | .read a, .read b =>
    a.start == b.start && a.stop == b.stop && !holdsError passedA a && !holdsError passedB b
  | _, _ => false

/-- Whether two items count as one: constructs of the same extent that both hold an error. -/
def alike (passedA passedB : List (Nat × Nat)) : Item → Item → Bool
  | .read a, .read b =>
    a.start == b.start && a.stop == b.stop && holdsError passedA a && holdsError passedB b
  | _, _ => false

/-- Compares the items before the meeting token, latest first: the first wins when the first
items that differ count as one and everything before them is the same. -/
def firstKept (passedA passedB : List (Nat × Nat)) : List Item → List Item → Bool
  | x :: xs, y :: ys =>
    if same passedA passedB x y then firstKept passedA passedB xs ys
    else alike passedA passedB x y && xs.length == ys.length &&
      (xs.zip ys).all fun (x, y) => same passedA passedB x y
  | _, _ => false

def depthLimit : Nat := 100000

/-- Whether, of two trees of the same cost (the stacks their readings end with, latest first,
and the ranges their repairs pass over), the first is kept: the readings meet at one of the
tokens starting at `tokens`, and the items before that token differ in one construct holding
an error in each. -/
def keepsFirst (stackA : List Boundary) (passedA : List (Nat × Nat))
    (stackB : List Boundary) (passedB : List (Nat × Nat)) (tokens : List Nat) : Bool :=
  let rootA := stackA.reverse
  let rootB := stackB.reverse
  match tokens.find? fun t => around t depthLimit rootA == around t depthLimit rootB with
  | none => false
  | some t =>
    let spans := around t depthLimit rootA
    let (partsA, partsB) := match spans.getLast? with
      | some span => (partsAt span depthLimit rootA, partsAt span depthLimit rootB)
      | none => (rootA, rootB)
    let before (passed : List (Nat × Nat)) (parts : List Boundary) :=
      ((items passed parts).filter fun x => x.start < t).reverse
    let scope (passed : List (Nat × Nat)) := match spans.getLast? with
      | some (a, z) => passed.filter fun r => a < r.1 && r.2 < z
      | none => passed
    firstKept passedA passedB (before (scope passedA) partsA) (before (scope passedB) partsB)

end Merge

end Syntax

end Cyclomatic
