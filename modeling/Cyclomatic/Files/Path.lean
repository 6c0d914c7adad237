/-!
Slash-separated paths, as text.

Paths are relative to a working directory unless they start with `/`. `normalize` removes empty
and `.` components and resolves `..` against the component before it; a `..` that climbs above
the working directory climbs into `workingDir`, which stands for the place of the working
directory in the tree. `relative` is the path from one place to another.
-/

namespace Cyclomatic

namespace Path

def workingDir : List String := ["work", "dir"]

/-- The components of a path between slashes, empty ones included. Split character by character,
so that the components of a given path can be computed in proofs. -/
def split (p : String) : List String := (p.toList.splitOn '/').map String.ofList

def basename (p : String) : String := (split p).getLastD ""

/-- Everything up to the last slash, trailing slashes removed unless nothing else is left. -/
def dirname (p : String) : String :=
  let cs := p.toList
  match cs.reverse.dropWhile (· != '/') with
  | [] => ""
  | rest =>
    let head := rest.reverse
    let trimmed := (head.reverse.dropWhile (· == '/')).reverse
    if trimmed.isEmpty then String.ofList head else String.ofList trimmed

/-- The extension of the last component: from its last dot, unless that dot only follows other
leading dots. `a.b/c` and `.js` have none. -/
def extension (p : String) : String :=
  let name := basename p
  let body := name.toList.dropWhile (· == '.')
  let lead := name.length - body.length
  match (name.toList.drop lead).reverse.findIdx? (· == '.') with
  | none => ""
  | some i =>
    let pos := name.length - 1 - i
    String.ofList (name.toList.drop pos)

def join (a b : String) : String :=
  if b.startsWith "/" then b
  else if a.isEmpty || a.endsWith "/" then a ++ b
  else a ++ "/" ++ b

/-- One component of a path applied to the components resolved so far: an empty component and
`.` stay, `..` climbs, and a name goes down. -/
def resolveStep (acc : List String) (c : String) : List String :=
  if c.isEmpty || c == "." then acc
  else if c == ".." then acc.dropLast
  else acc ++ [c]

def origin (p : String) : List String := if p.startsWith "/" then [] else workingDir

def resolveParts (p : String) : List String := (split p).foldl resolveStep (origin p)

def absolute (parts : List String) : String := "/" ++ "/".intercalate parts

/-- A component of a resolved path: not empty, without a slash, and neither `.` nor `..`. -/
def IsName (c : String) : Prop := c ≠ "" ∧ '/' ∉ c.toList ∧ c ≠ "." ∧ c ≠ ".."

instance : DecidablePred IsName := fun c =>
  inferInstanceAs (Decidable (c ≠ "" ∧ '/' ∉ c.toList ∧ c ≠ "." ∧ c ≠ ".."))

/-- Components of a path relative to the working directory, when it stays inside it. -/
def localParts (p : String) : Option (List String) :=
  let parts := resolveParts p
  if workingDir.isPrefixOf parts then some (parts.drop workingDir.length) else none

/-- A normalized path: no empty or `.` components and no `..` after a name. -/
def normalize (p : String) : String :=
  let absolute := p.startsWith "/"
  let step (acc : List String) (c : String) : List String :=
    if c.isEmpty || c == "." then acc
    else if c == ".." then
      match acc.getLast? with
      | some last => if last == ".." then acc ++ [c] else acc.dropLast
      | none => if absolute then acc else acc ++ [c]
    else acc ++ [c]
  let parts := (split p).foldl step []
  let body := "/".intercalate parts
  if absolute then "/" ++ body else if body.isEmpty then "." else body

def relative (p start : String) : Option String :=
  if p.isEmpty then none
  else
    let a := resolveParts start
    let b := resolveParts p
    let common := (List.zip a b).takeWhile (fun (x, y) => x == y) |>.length
    let parts := List.replicate (a.length - common) ".." ++ b.drop common
    some (if parts.isEmpty then "." else "/".intercalate parts)

end Path

end Cyclomatic
