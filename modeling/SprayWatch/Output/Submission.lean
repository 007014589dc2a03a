import SprayWatch.Log
import SprayWatch.Text.Blank
/-!
# Output of a submission

A submission names the job that it started on a line that begins with a fixed phrase.  The last such
line that names anything counts.
-/

namespace SprayWatch.Output

/-- What has been read of a submission's output: the job it named, if any. -/
structure Submission where
  jobId : Option String
  deriving Repr, DecidableEq

namespace Submission

def start : Submission := ⟨none⟩

def marker : String := "Submitted WUID "

def jobOf? (line : String) : Option String :=
  if marker.toList.isPrefixOf line.toList then
    let id := Text.trimChars (line.toList.drop marker.length)
    if id.isEmpty then none else some (String.ofList id)
  else none

def feed (s : Submission) (line : String) : Submission :=
  match jobOf? line with
  | some id => ⟨some id⟩
  | none => s

def records (_ : Submission) (line : String) : List Log.Record :=
  Log.Record.of .trace "parser" ["Processing Line", line] ::
    ((jobOf? line).map fun id => Log.Record.of .trace "parser" ["WUID", id]).toList

end Submission

end SprayWatch.Output
