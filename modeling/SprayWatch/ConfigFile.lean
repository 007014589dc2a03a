import SprayWatch.Config
import SprayWatch.Files.Tree
/-!
# Configuration files

A configuration is read from a file and checked against the files there are.  The tool that it names
must be there, and must be executable before commands can be built for it.
-/

namespace SprayWatch

open Files (Tree)

def Config.load (t : Tree) (p : Path) : Except Failure Config := do
  let text ← (t.readText p).mapError Failure.io
  Config.parse t.isFile text

def Connection.baseCommand (t : Tree) (c : Connection) : Except Failure Command := do
  let tool : Path := ⟨c.command⟩
  if !t.isExecutable tool then .error (.config (.notExecutable c.command))
  let executable ← (t.canonical tool).mapError Failure.io
  return (Command.bare executable).withArgs c.args

end SprayWatch
