/-!
Shell-style name patterns, over code points, so that a pattern may hold lone surrogates. A
pattern matches a whole name: `*` matches any run, `/` included; `?` one code point; `[...]` one
of a set and `[!...]` one outside it, where `a-z` is a range, a `]` right after the opening (or
after `!`) and a `-` at either end stand for themselves, a range whose ends are out of order is
dropped, and a set left empty matches nothing. A `[` with no closing `]` stands for itself.
-/

namespace Cyclomatic

namespace Pattern

inductive Part where
  | star
  | any
  | point (c : Nat)
  | set (negated : Bool) (ranges : List (Nat × Nat))
deriving Repr, DecidableEq

def inRanges (ranges : List (Nat × Nat)) (c : Nat) : Bool :=
  ranges.any fun (lo, hi) => lo ≤ c && c ≤ hi

/-- The chunks of a set's text between the hyphens that make ranges. The search for such a
hyphen starts after the first code point (after `!` and one more in a negated set), and starts
again two code points after each one found. A text ending in such a hyphen keeps it in its last
chunk. -/
def chunks (body : List Nat) (negated : Bool) : List (List Nat) :=
  let rec go (start k : Nat) (acc : List (List Nat)) : Nat → List (List Nat) × Nat
    | 0 => (acc, start)
    | fuel + 1 =>
      match ((body.drop k).findIdx? (· == '-'.toNat)) with
      | some r =>
        let pos := k + r
        go (pos + 1) (pos + 3) (acc ++ [(body.drop start).take (pos - start)]) fuel
      | none => (acc, start)
  let (found, start) := go 0 (if negated then 2 else 1) [] (body.length + 1)
  let last := body.drop start
  if last.isEmpty then
    match found.getLast? with
    | some c => found.dropLast ++ [c ++ ['-'.toNat]]
    | none => [last]
  else found ++ [last]

/-- Chunks with each range whose ends are out of order dropped: the two chunks are joined
without the range's ends, from the last range to the first. -/
def dropBackwardRanges (cs : List (List Nat)) : List (List Nat) :=
  cs.foldr (fun c acc =>
    match acc with
    | next :: more =>
      match c.getLast?, next.head? with
      | some a, some b => if b < a then (c.dropLast ++ next.drop 1) :: more else c :: acc
      | _, _ => c :: acc
    | [] => [c]) []

/-- The code points of a set, each with whether it is a hyphen that makes a range. -/
def atomsOf (cs : List (List Nat)) : List (Bool × Nat) :=
  (cs.map fun c => c.map fun x => (false, x)).intersperse [(true, '-'.toNat)] |>.flatten

def rangesOfAtoms : List (Bool × Nat) → List (Nat × Nat)
  | (false, x) :: (true, _) :: (false, y) :: rest => (x, y) :: rangesOfAtoms rest
  | (false, x) :: (true, _) :: rest => (x, x) :: ('-'.toNat, '-'.toNat) :: rangesOfAtoms rest
  | (_, x) :: rest => (x, x) :: rangesOfAtoms rest
  | [] => []

/-- The part a set's text stands for; a set that is only `!` matches any code point. -/
def setPart (body : List Nat) : Part :=
  let negated := body.head? == some '!'.toNat
  let cs := if body.contains '-'.toNat then dropBackwardRanges (chunks body negated) else [body]
  match atomsOf cs with
  | [] => .set false []
  | atoms@((false, c) :: rest) =>
    if c == '!'.toNat then
      if rest.isEmpty then .any else .set true (rangesOfAtoms rest)
    else .set false (rangesOfAtoms atoms)
  | atoms => .set false (rangesOfAtoms atoms)

/-- The end of a set starting after its `[`: the position of its closing `]`, if any. -/
def setEnd (cs : List Nat) : Option Nat :=
  let start := if cs.head? == some '!'.toNat then 1 else 0
  let start := if cs[start]? == some ']'.toNat then start + 1 else start
  ((cs.drop start).findIdx? (· == ']'.toNat)).map (· + start)

def compile (p : List Nat) : List Part :=
  let rec go (cs : List Nat) (acc : List Part) : Nat → List Part
    | 0 => acc
    | fuel + 1 =>
      match cs with
      | [] => acc
      | c :: rest =>
        if c == '*'.toNat then
          go rest (if acc.getLast? == some .star then acc else acc ++ [.star]) fuel
        else if c == '?'.toNat then go rest (acc ++ [.any]) fuel
        else if c == '['.toNat then
          match setEnd rest with
          | some j => go (rest.drop (j + 1)) (acc ++ [setPart (rest.take j)]) fuel
          | none => go rest (acc ++ [.point c]) fuel
        else go rest (acc ++ [.point c]) fuel
  go p [] (p.length + 1)

def suffixes : List α → List (List α)
  | [] => [[]]
  | x :: xs => (x :: xs) :: suffixes xs

def matchParts : List Part → List Nat → Bool
  | [], cs => cs.isEmpty
  | .star :: ps, cs => (suffixes cs).any (matchParts ps)
  | .any :: ps, _ :: cs => matchParts ps cs
  | .point c :: ps, d :: cs => c == d && matchParts ps cs
  | .set negated ranges :: ps, d :: cs => (inRanges ranges d != negated) && matchParts ps cs
  | _ :: _, [] => false

def matchesName (pattern : List Nat) (name : String) : Bool :=
  matchParts (compile pattern) (name.toList.map Char.toNat)

end Pattern

end Cyclomatic
