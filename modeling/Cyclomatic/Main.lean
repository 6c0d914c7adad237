import Cyclomatic.Cli.Run

/-!
The program: runs the command line over the working directory.

The working tree is read once, every file with its bytes, into a `Disk`; the command runs on
that disk; the files it wrote are written back, and what it printed is printed.
-/

namespace Cyclomatic

namespace WorkingTree

/-- The files and the directories below a directory of the working tree, named by their paths
relative to the working directory (the empty path is the working directory itself). -/
partial def read (rel : String) : IO (List (String × List UInt8) × List String) := do
  let cwd ← IO.currentDir
  let entries ← (if rel.isEmpty then cwd else cwd / rel).readDir
  let mut files : List (String × List UInt8) := []
  let mut dirs : List String := []
  for entry in entries do
    let path := if rel.isEmpty then entry.fileName else rel ++ "/" ++ entry.fileName
    if ← entry.path.isDir then
      let (fs, ds) ← read path
      files := files ++ fs
      dirs := dirs ++ [path] ++ ds
    else
      let bytes ← IO.FS.readBinFile entry.path
      files := files ++ [(path, bytes.toList)]
  pure (files, dirs)

end WorkingTree

end Cyclomatic

/-- Runs the command line over the working directory and exits with its status. -/
def main (args : List String) : IO UInt32 := do
  let (files, dirs) ← Cyclomatic.WorkingTree.read ""
  let before := Cyclomatic.Disk.ofLists files dirs
  let outcome := Cyclomatic.Cli.run args before
  for (path, bytes) in Cyclomatic.Disk.changedFiles before outcome.disk do
    IO.FS.writeBinFile path (ByteArray.mk bytes.toArray)
  IO.print outcome.stdout
  IO.eprint outcome.stderr
  pure outcome.exit.toUInt32
