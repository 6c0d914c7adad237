import Cyclomatic.Files.Path
import Cyclomatic.Value.Notation

/-!
The working tree, and what the system's calls on paths find in it. A place is named by its
components below the working directory; the working directory and the directories above it
always exist. A path is looked up component by component, `.` and `..` included, each in the
directory reached so far (`Disk.reach`), and the lookup stops on a null character, on a path of
`maxPathBytes` bytes or more, or on a name too long in a directory it reaches (`Disk.stat`).
-/

namespace Cyclomatic

/-- A file holds its bytes, the time it was last written and whether its mode lets it be read; a
directory holds its time. -/
inductive Entry where
  | file (bytes : List UInt8) (mtime : Nat) (readable : Bool)
  | dir (mtime : Nat)
deriving Repr, Inhabited, DecidableEq

namespace Entry

def isDir : Entry → Bool
  | .dir _ => true
  | .file .. => false

def mtime : Entry → Nat
  | .file _ t _ => t
  | .dir t => t

end Entry

structure Disk where
  entries : List (List String × Entry)
deriving Repr, Inhabited

inductive PathFault where
  | nullByte
  | nameTooLong (path : String)
deriving Repr, DecidableEq

namespace PathFault

def kind : PathFault → String
  | .nullByte => "ValueError"
  | .nameTooLong _ => "OSError"

def message : PathFault → String
  | .nullByte => "embedded null byte"
  | .nameTooLong p => "[Errno 36] File name too long: " ++ Value.quote p

/-- Whether the fault is an `OSError`, which the program's handlers catch; a null character is a
`ValueError`. -/
def isOSError : PathFault → Bool
  | .nullByte => false
  | .nameTooLong _ => true

end PathFault

inductive FileFault where
  | path (f : PathFault)
  | notFound (path : String)
  | isDirectory (path : String)
  | permissionDenied (path : String)
deriving Repr, DecidableEq

namespace FileFault

def kind : FileFault → String
  | .path f => f.kind
  | .notFound _ => "FileNotFoundError"
  | .isDirectory _ => "IsADirectoryError"
  | .permissionDenied _ => "PermissionError"

def message : FileFault → String
  | .path f => f.message
  | .notFound p => "[Errno 2] No such file or directory: " ++ Value.quote p
  | .isDirectory p => "[Errno 21] Is a directory: " ++ Value.quote p
  | .permissionDenied p => "[Errno 13] Permission denied: " ++ Value.quote p

def isOSError : FileFault → Bool
  | .path f => f.isOSError
  | _ => true

end FileFault

namespace Path

/-- A path with empty and `.` components dropped, `.` when nothing is left, as path objects
write paths. -/
def pure (p : String) : String :=
  let parts := (split p).filter fun c => !c.isEmpty && c != "."
  let body := "/".intercalate parts
  if p.startsWith "/" then "/" ++ body
  else if body.isEmpty then "." else body

/-- The place a path names below the working directory, or whether it is the working directory
or one above it. -/
inductive Place where
  | below (parts : List String)
  | above
  | outside

def place (p : String) : Place :=
  let parts := resolveParts p
  if workingDir.isPrefixOf parts then .below (parts.drop workingDir.length)
  else if parts.isPrefixOf workingDir then .above
  else .outside

def components (p : String) : List String := (split p).filter (!·.isEmpty)

end Path

namespace Disk

/-- The longest path text the system takes, in bytes, is one less than this. -/
def maxPathBytes : Nat := 4096

def maxNameBytes : Nat := 255

/-- Every directory above a place, from the top, the working directory left out. -/
def parentsOf (parts : List String) : List (List String) :=
  (List.range parts.length).filterMap fun n => if n == 0 then none else some (parts.take n)

def find? (d : Disk) (parts : List String) : Option Entry :=
  if parts.isEmpty then some (.dir 0) else d.entries.lookup parts

def makeDirs (d : Disk) (parts : List String) (mtime : Nat) : Disk :=
  (parentsOf parts ++ [parts]).foldl (fun (acc : Disk) ps =>
    if ps.isEmpty || (acc.entries.lookup ps).isSome then acc
    else { entries := acc.entries ++ [(ps, .dir mtime)] }) d

def putFile (d : Disk) (parts : List String) (bytes : List UInt8) (mtime : Nat) : Disk :=
  let d := (parentsOf parts).foldl (fun d ps => d.makeDirs ps mtime) d
  if (d.entries.lookup parts).isSome then
    { entries := d.entries.map fun e =>
        if e.1 == parts then (parts, .file bytes mtime true) else e }
  else { entries := d.entries ++ [(parts, .file bytes mtime true)] }

def ofLists (files : List (String × List UInt8)) (dirs : List String) : Disk :=
  let withDirs := dirs.foldl (fun d p =>
    match Path.place p with
    | .below parts => d.makeDirs parts 0
    | _ => d) { entries := [] }
  files.foldl (fun d (p, bytes) =>
    match Path.place p with
    | .below parts => d.putFile parts bytes 0
    | _ => d) withDirs

/-- The entry at a place given by its components from the root: below the working directory
what the disk holds, the working directory and the directories above it, and nothing else. -/
def at? (d : Disk) (parts : List String) : Option Entry :=
  if Path.workingDir.isPrefixOf parts then d.find? (parts.drop Path.workingDir.length)
  else if parts.isPrefixOf Path.workingDir then some (.dir 0)
  else none

def isDirAt (d : Disk) (parts : List String) : Bool :=
  match d.at? parts with
  | some (.dir _) => true
  | _ => false

/-- The place reached by looking up components one by one from a place: each is looked up in the
directory reached so far, which must exist. -/
def reach (d : Disk) : List String → List String → Option (List String)
  | here, [] => some here
  | here, c :: cs => if d.isDirAt here then d.reach (Path.resolveStep here c) cs else none

/-- Whether a lookup of components from a place meets, in a directory it reaches, a name longer
than a directory can hold. -/
def meetsLongName (d : Disk) : List String → List String → Bool
  | _, [] => false
  | here, c :: cs =>
    d.isDirAt here &&
      (maxNameBytes < c.utf8ByteSize || d.meetsLongName (Path.resolveStep here c) cs)

def resolve? (d : Disk) (p : String) : Option (List String) :=
  d.reach (Path.origin p) (Path.components p)

/-- What a path names; a path that ends with `/` names only a directory, and the empty path
names nothing. -/
def entry? (d : Disk) (p : String) : Option Entry :=
  if p.isEmpty then none
  else
    match d.resolve? p with
    | none => none
    | some parts =>
      match d.at? parts with
      | some (.file ..) => if p.endsWith "/" then none else d.at? parts
      | found => found

/-- What the system's `stat` gives for a path: what it names, or the fault that stops it. -/
def stat (d : Disk) (p : String) : Except PathFault (Option Entry) :=
  if '\x00' ∈ p.toList then .error .nullByte
  else if maxPathBytes ≤ p.utf8ByteSize ||
      d.meetsLongName (Path.origin p) (Path.components p) then .error (.nameTooLong p)
  else .ok (d.entry? p)

/-- What a path names when its lookup succeeds: the system's tests on a path answer false on a
fault. -/
def statEntry? (d : Disk) (p : String) : Option Entry :=
  match d.stat p with
  | .ok e => e
  | .error _ => none

def exists? (d : Disk) (p : String) : Bool := (d.statEntry? p).isSome

def isFile (d : Disk) (p : String) : Bool :=
  match d.statEntry? p with
  | some (.file ..) => true
  | _ => false

def isDir (d : Disk) (p : String) : Bool :=
  match d.statEntry? p with
  | some (.dir _) => true
  | _ => false

def bytes? (d : Disk) (p : String) : Option (List UInt8) :=
  match d.entry? p with
  | some (.file bs _ _) => some bs
  | _ => none

def mtime? (d : Disk) (p : String) : Option Nat :=
  match d.entry? p with
  | some (.file _ t _) => some t
  | _ => none

/-- The size of the file a path names; none when the lookup fails. -/
def fileSize? (d : Disk) (p : String) : Option Nat :=
  match d.statEntry? p with
  | some (.file bs _ _) => some bs.length
  | _ => none

def readBytes (d : Disk) (p : String) : Except FileFault (List UInt8) :=
  match d.stat p with
  | .error f => .error (.path f)
  | .ok none => .error (.notFound p)
  | .ok (some (.dir _)) => .error (.isDirectory p)
  | .ok (some (.file bs _ readable)) => if readable then .ok bs else .error (.permissionDenied p)

def children (d : Disk) (p : String) : List (String × Bool) :=
  match Path.place p with
  | .below parts =>
    d.entries.filterMap fun (ps, e) =>
      if ps.length == parts.length + 1 && parts.isPrefixOf ps then
        some (ps.getLastD "", e.isDir)
      else none
  | .above =>
    let parts := Path.resolveParts p
    match Path.workingDir.drop parts.length with
    | next :: _ => [(next, true)]
    | [] => []
  | .outside => []

/-- The disk with a file written at a path whose directory exists; `none` when it does not, or
when the path names a directory or a place outside the working directory. -/
def write (d : Disk) (p : String) (bytes : List UInt8) (mtime : Nat) : Option Disk :=
  match d.resolve? p with
  | some parts =>
    if d.isDir p || !Path.workingDir.isPrefixOf parts then none
    else
      let below := parts.drop Path.workingDir.length
      if below.isEmpty then none
      else if d.isDirAt parts.dropLast then some (d.putFile below bytes mtime)
      else none
  | none => none

def remove (d : Disk) (p : String) : Disk :=
  match d.resolve? p with
  | some parts =>
    if d.isFile p then
      let below := parts.drop Path.workingDir.length
      { entries := d.entries.filter fun e => e.1 != below }
    else d
  | none => d

def changedFiles (before after : Disk) : List (String × List UInt8) :=
  after.entries.filterMap fun (ps, e) =>
    match e with
    | .file bs _ _ =>
      match before.entries.lookup ps with
      | some (.file old _ _) => if old == bs then none else some ("/".intercalate ps, bs)
      | _ => some ("/".intercalate ps, bs)
    | .dir _ => none

end Disk

end Cyclomatic
