import SprayWatch.Log.Moment
import SprayWatch.Program
import Std.Time.DateTime.Timestamp
/-!
# The command line

Gathers the files that a run looks at, with random numbers for its waits, carries the run out, and
prints what it says.  A directory that the run has removed is removed here too.
-/

namespace SprayWatch.Main

/-- A machine's files as far as a path leads to one here.  Every file may be executed. -/
def gather (t : Files.Tree) (p : Path) : IO Files.Tree := do
  try
    let there ← IO.FS.realPath p.text
    if ← there.isDir then return t.add p .dir
    else return t.add p (.file 0o755 (← IO.FS.readBinFile there).toList)
  catch _ => return t

def drawCount : Nat := 4096

def draw : IO UInt64 := return (← IO.rand 0 (Backoff.wordCount - 1)).toUInt64

def now : IO Log.Moment := do
  return ⟨(← Std.Time.Timestamp.now).toMillisecondsSinceUnixEpoch.toInt.toNat⟩

def tell : Print → IO Unit
  | .line text => IO.println text
  | .record r => do IO.println (r.line (← now).text)

/-- Removes a directory that was there before a run and is not afterwards. -/
def removeGone (before after : Files.Tree) (p : Path) : IO Unit := do
  if before.isThere p && !after.isThere p then IO.FS.removeDirAll p.text

def run (words : List String) : IO UInt32 := do
  let here := (Files.Tree.namesOf (← IO.currentDir).toString).filter (· ≠ "")
  let files ← (Program.configPath? words).toList.foldlM gather (Files.systemTree.goTo here)
  let paths := Program.pathsBeside words files
  let files ← paths.foldlM gather files
  let draws ← (List.replicate drawCount ()).mapM fun _ => draw
  let session := Program.run words ⟨draws⟩ files
  session.prints.forM tell
  paths.forM (removeGone files session.files)
  return session.exitCode.toUInt32

end SprayWatch.Main

def main (words : List String) : IO UInt32 := SprayWatch.Main.run words
