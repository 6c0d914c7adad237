import Cyclomatic.Config.File

/-!
A settings store: settings read from a file, read again when the file's time changes. When the
file is missing, or reading it fails in a way the store recovers from
(`Config.LoadError.recoverable`), the store keeps what it had, or the defaults; other failures
are passed on. A store with no file always gives the defaults.
-/

namespace Cyclomatic

namespace Config

/-- A settings store: its file, the settings it holds and the file time it read them at. -/
structure Store where
  path : Option String
  settings : Option Settings := none
  mtime : Option Nat := none
deriving Repr

namespace Store

def ofPath (path : Option String) : Store := { path }

/-- The modification time of what a path names, a directory's too: none when nothing is there
or the lookup fails with an `OSError`, and a failure for a null character, which is no
`OSError`. -/
def timeOf (d : Disk) (p : String) : Except PathFault (Option Nat) :=
  match d.stat p with
  | .ok e => .ok (e.map Entry.mtime)
  | .error f => if f.isOSError then .ok none else .error f

def keepLast (s : Store) : Settings × Store :=
  let settings := s.settings.getD Settings.default
  (settings, { s with settings := some settings })

/-- The current settings of a store over a disk, or the failure it passes on, and the store
after asking; a failed reading still records the file's time. -/
def current (s : Store) (d : Disk) : Except LoadError Settings × Store :=
  match s.path with
  | none => let (v, s) := keepLast s; (.ok v, s)
  | some p =>
    match timeOf d p with
    | .error f => (.error (.path f), s)
    | .ok none => let (v, s) := keepLast s; (.ok v, s)
    | .ok (some t) =>
      if s.settings.isNone || s.mtime != some t then
        let s := { s with mtime := some t }
        match load d (some p) "." with
        | .ok settings => (.ok settings, { s with settings := some settings })
        | .error e =>
          if e.recoverable then let (v, s) := keepLast s; (.ok v, s) else (.error e, s)
      else (.ok (s.settings.getD Settings.default), s)

/-- A computation that asks a store for its settings: it may fail with a load error, and the
store it leaves holds even when it fails. -/
abbrev Pass := ExceptT LoadError (StateM Store)

def ask (d : Disk) : Pass Settings :=
  ExceptT.mk fun s => (current s d : Except LoadError Settings × Store)

def Pass.runFrom {α : Type} (pass : Pass α) (s : Store) : Except LoadError α × Store :=
  pass.run.run s

end Store

end Config

end Cyclomatic
