import SprayWatch.Job.State
import SprayWatch.Log
import SprayWatch.Text.Blank
import SprayWatch.Text.Letter
import SprayWatch.Text.Lowercase
/-!
# Output of a status query

A line tells the state of a job when, apart from letter case and blanks around it, it is the job's
status line for that state, or begins with it at the end of a word.  Other lines, those on other jobs
among them, change nothing.
-/

namespace SprayWatch.Output

/-- What has been read about one job. -/
structure Status where
  jobId : String
  state : Job.State
  status : Job.Status
  deriving Repr, DecidableEq

namespace Status

def start? (name : String) : Option Status :=
  let id := Text.trim name
  if id.isEmpty then none else some ⟨id, .unknown, .notComplete⟩

def statusLine (jobId : String) : Job.State → String
  | .finished => jobId ++ " Finished"
  | s => jobId ++ " status: " ++ s.name

/-- The status line in the form in which lines are compared. -/
def key (jobId : String) (s : Job.State) : List Char :=
  Text.lowerAfter [] (statusLine jobId s).toList

def comparable (line : String) : List Char :=
  Text.lowerAfter [] (Text.trimChars line.toList)

/-- Does the line begin with the key, at the end of a word? -/
def continues (line key : List Char) : Bool :=
  key.isPrefixOf line &&
    match line.drop key.length with
    | c :: _ => !Text.isAlphanumeric c
    | [] => false

def classify (jobId : String) (line : String) : Option Job.State :=
  let l := comparable line
  match Job.State.all.find? fun s => l == key jobId s with
  | some s => some s
  | none => Job.State.all.find? fun s => continues l (key jobId s)

def feed (p : Status) (line : String) : Status :=
  match classify p.jobId line with
  | some s => { p with state := s, status := s.status }
  | none => p

def records (p : Status) (line : String) : List Log.Record :=
  let read := p.feed line
  Log.Record.of .trace "parser" ["Processing Line", line] ::
    (if read.status = p.status then []
    else
      [.of .trace "parser" ["Status change for WUID", p.jobId,
        "now " ++ read.status.text ++ "(" ++ read.state.name ++ ")"]])

end Status

end SprayWatch.Output
