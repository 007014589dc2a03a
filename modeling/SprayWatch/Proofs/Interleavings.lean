import SprayWatch.Proofs.JobRuns

/-!
# Interleavings of a run

A monitored run is carried on by its caller and by a worker, and anybody may call for it to be
cancelled.  Each of them takes one small step at a time, in any order.  They share the signal of the
run, its being listed as the current run, and the place where the worker leaves the result.

The caller begins, submits the job, hands it over, waits for the worker, concludes, has the job
aborted if it was given up, and finishes.  The worker polls.  A command or a pause that starts while
the signal is raised fails as interrupted; one that started before may end in any way.
-/

namespace SprayWatch

/-- A submission that succeeds and names a job. -/
structure Course.Submits (course : Course Ending) (jobId : String) : Prop where
  exited : course.ending = some (.exited .finished)
  named : course.jobId? = some jobId

/-- A command that started with the signal raised or not, and has come to its end. -/
structure Course.Obeys (course : Course Ending) (raised : Bool) : Prop where
  ended : course.ending ≠ none
  interrupted : raised = true → course.ending = some (.failed .interrupted)

namespace Interleaving

/-! ## Parties, events and states -/

/-- Those who take part in a run. -/
inductive Party where
  | caller
  | worker
  | other
  deriving DecidableEq

/-- What a command is run for. -/
inductive Purpose where
  | submission
  | query
  | abort
  deriving DecidableEq

/-- What happens in a run. -/
inductive Event where
  | begins
  | starts (who : Party) (purpose : Purpose) (c : Command)
  | ends (purpose : Purpose) (course : Course Ending)
  | handsOver
  | isRefused
  | receives (result : Except Break Job.Status)
  | expires
  | raises
  | concludes (outcome : Outcome)
  | leaves
  | finishes (outcome : Outcome)
  | takes
  | pauses (ms : Nat)
  | wakes (ms : Nat) (result : Except Break Unit)
  | delivers (result : Except Break Job.Status)
  | cancels

/-- Where the caller stands.  While a submission runs it matters whether the signal was raised when
it started. -/
inductive Caller where
  | idle
  | begun
  | submitting (raised : Bool)
  | submitted
  | waiting
  | expired
  | concluding (result : Except Failure Job.Status)
  | settling (outcome : Outcome)
  | aborting (outcome : Outcome)
  | closing (outcome : Outcome)
  | home (outcome : Outcome)

/-- Where the worker stands, with what it has read, the pause that comes next or came last, and for
how long the pauses before it have lasted together. -/
inductive Worker where
  | absent
  | queued (read : Output.Status)
  | ready (read : Output.Status) (previous total : Nat)
  | querying (raised : Bool) (read : Output.Status) (wait total : Nat)
  | answered (read : Output.Status) (wait total : Nat)
  | pausing (raised : Bool) (read : Output.Status) (wait total : Nat)
  | ended (result : Except Break Job.Status)
  | gone

/-- The state of a run: where caller and worker stand, how the submission ended once it has, the
result that the worker left, whether the signal is raised, whether the run is listed as the current
one, and whether the pool accepts work. -/
structure State where
  caller : Caller
  submission : Option (Course Ending)
  worker : Worker
  mailbox : Option (Except Break Job.Status)
  raised : Bool
  listed : Bool
  accepting : Bool

def State.start (accepting : Bool) : State :=
  ⟨.idle, none, .absent, none, false, false, accepting⟩

/-- The job that the submission has named. -/
def State.jobId? (s : State) : Option String := s.submission.bind Course.jobId?

namespace Worker

/-- Where an answer takes the worker. -/
def afterAnswer (verdict : Verdict Output.Status Job.Status) (wait total : Nat) : Worker :=
  match verdict with
  | .settled status => .ended (.ok status)
  | .broke b => .ended (.error b)
  | .notYet read => .answered read wait total

/-- Where the end of a pause takes the worker. -/
def afterPause (budget : Nat) (result : Except Break Unit) (read : Output.Status)
    (wait total : Nat) : Worker :=
  match result with
  | .error b => .ended (.error b)
  | .ok () =>
    if budget ≤ Backoff.saturate (total + wait) then .ended (.error (.failed .timeoutExceeded))
    else .ready read wait (Backoff.saturate (total + wait))

end Worker

/-! ## Moves -/

/-- The moves of a run in which a monitor follows the job that a command submits. -/
inductive Move {σ : Type} (m : Monitor σ) (c : Command) : State → Event → State → Prop
  /-- The caller lists the run, with a new signal, as the current one. -/
  | begins {s : State} (hcaller : s.caller = .idle) :
      Move m c s .begins { s with caller := .begun, listed := true }
  | submits {s : State} (hcaller : s.caller = .begun) :
      Move m c s (.starts .caller .submission c) { s with caller := .submitting s.raised }
  /-- The submission ends; it does not break down, for then there would be no caller any more. -/
  | submitted {s : State} {raised : Bool} {course : Course Ending}
      (hcaller : s.caller = .submitting raised) (hobeys : course.Obeys raised)
      (hsound : course.ending ≠ some .brokeDown) :
      Move m c s (.ends .submission course)
        { s with caller := .submitted, submission := some course }
  /-- The submission has named a job, and the poll for it becomes a task of the pool. -/
  | handsOver {s : State} {course : Course Ending} {jobId : String} {read : Output.Status}
      (hcaller : s.caller = .submitted) (hsubmission : s.submission = some course)
      (hsubmits : course.Submits jobId) (hread : Output.Status.start? jobId = some read)
      (haccepting : s.accepting = true) :
      Move m c s .handsOver { s with caller := .waiting, worker := .queued read }
  /-- A pool that is shut down takes no task. -/
  | isRefused {s : State} {course : Course Ending} {jobId : String} {read : Output.Status}
      (hcaller : s.caller = .submitted) (hsubmission : s.submission = some course)
      (hsubmits : course.Submits jobId) (hread : Output.Status.start? jobId = some read)
      (haccepting : s.accepting = false) :
      Move m c s .isRefused { s with caller := .concluding (.error .poolShutDown) }
  | declines {s : State} {course : Course Ending} {jobId : String}
      (hcaller : s.caller = .submitted) (hsubmission : s.submission = some course)
      (hsubmits : course.Submits jobId) (hread : Output.Status.start? jobId = none) :
      Move m c s (.concludes (.failed .blankJobId))
        { s with caller := .settling (.failed .blankJobId) }
  /-- There is no job to follow. -/
  | passes {s : State} {course : Course Ending} (hcaller : s.caller = .submitted)
      (hsubmission : s.submission = some course)
      (hsubmits : ∀ jobId, ¬ course.Submits jobId) :
      Move m c s (.concludes (Monitor.unfollowed course.ending))
        { s with caller := .settling (Monitor.unfollowed course.ending) }
  | receives {s : State} {result : Except Break Job.Status} (hcaller : s.caller = .waiting)
      (hmailbox : s.mailbox = some result) :
      Move m c s (.receives result)
        { s with caller := .concluding (Monitor.handed result), mailbox := none }
  /-- The caller's wait may expire at any moment. -/
  | expires {s : State} (hcaller : s.caller = .waiting) :
      Move m c s .expires { s with caller := .expired }
  /-- A caller whose wait has expired tells the worker to stop. -/
  | raises {s : State} (hcaller : s.caller = .expired) :
      Move m c s .raises
        { s with caller := .concluding (.error .timeoutExceeded), raised := true }
  | concludes {s : State} {result : Except Failure Job.Status} {jobId : String}
      (hcaller : s.caller = .concluding result) (hnamed : s.jobId? = some jobId) :
      Move m c s (.concludes (Monitor.concluded jobId result))
        { s with caller := .settling (Monitor.concluded jobId result) }
  /-- A job that is given up is aborted, under a signal that nobody else has. -/
  | aborts {s : State} {outcome : Outcome} {jobId : String}
      (hcaller : s.caller = .settling outcome) (hgivenUp : outcome.isGivenUp = true)
      (hnamed : s.jobId? = some jobId) :
      Move m c s (.starts .caller .abort (m.base.abort jobId))
        { s with caller := .aborting outcome }
  | aborted {s : State} {outcome : Outcome} {course : Course Ending}
      (hcaller : s.caller = .aborting outcome) (hended : course.ending ≠ none)
      (hsound : course.ending ≠ some .brokeDown) :
      Move m c s (.ends .abort course) { s with caller := .closing outcome }
  | leaves {s : State} {outcome : Outcome} (hcaller : s.caller = .settling outcome)
      (hleft : outcome.isGivenUp = false ∨ s.jobId? = none) :
      Move m c s .leaves { s with caller := .closing outcome }
  /-- The caller takes the run off the list and returns its outcome. -/
  | finishes {s : State} {outcome : Outcome} (hcaller : s.caller = .closing outcome) :
      Move m c s (.finishes outcome) { s with caller := .home outcome, listed := false }
  /-- A worker of the pool begins the task. -/
  | takes {s : State} {read : Output.Status} (hworker : s.worker = .queued read) :
      Move m c s .takes { s with worker := .ready read 0 0 }
  | queries {s : State} {read : Output.Status} {previous total : Nat} (draws : Backoff.Draws)
      (hworker : s.worker = .ready read previous total) :
      Move m c s (.starts .worker .query (m.base.status read.jobId))
        { s with
          worker := .querying s.raised read
            (Backoff.nextWait previous (Backoff.truncate m.pollCeiling) draws).1 total }
  | answers {s : State} {raised : Bool} {read : Output.Status} {wait total : Nat}
      {course : Course Ending} (hworker : s.worker = .querying raised read wait total)
      (hobeys : course.Obeys raised) :
      Move m c s (.ends .query course)
        { s with worker := .afterAnswer (course.verdict read) wait total }
  | pauses {s : State} {read : Output.Status} {wait total : Nat}
      (hworker : s.worker = .answered read wait total) :
      Move m c s (.pauses wait) { s with worker := .pausing s.raised read wait total }
  | wakes {s : State} {raised : Bool} {read : Output.Status} {wait total : Nat}
      {result : Except Break Unit} (hworker : s.worker = .pausing raised read wait total)
      (hended : result ≠ .error .abandoned)
      (hobeys : raised = true → result = .error (.failed .interrupted)) :
      Move m c s (.wakes wait result)
        { s with worker := .afterPause m.budget result read wait total }
  /-- The worker leaves the result, whether anybody still waits for it or not. -/
  | delivers {s : State} {result : Except Break Job.Status}
      (hworker : s.worker = .ended result) :
      Move m c s (.delivers result) { s with worker := .gone, mailbox := some result }
  /-- Somebody calls for the current run to be cancelled. -/
  | cancels {s : State} : Move m c s .cancels { s with raised := s.raised || s.listed }

/-- Runs from one state to another, with what happens on the way. -/
inductive Run {σ : Type} (m : Monitor σ) (c : Command) : State → List Event → State → Prop
  | nil (s : State) : Run m c s [] s
  | cons {s t u : State} {e : Event} {es : List Event} (hmove : Move m c s e t)
      (hrun : Run m c t es u) : Run m c s (e :: es) u

/-! ## What is seen of a run -/

namespace Event

/-- Who makes the move. -/
def party : Event → Party
  | .starts who _ _ => who
  | .ends .query _ | .takes | .pauses _ | .wakes _ _ | .delivers _ => .worker
  | .cancels => .other
  | _ => .caller

def outcome? : Event → Option Outcome
  | .finishes outcome => some outcome
  | _ => none

/-- Who has what run to abort the job. -/
def abort? : Event → Option (Party × Command)
  | .starts who .abort c => some (who, c)
  | _ => none

def query? : Event → Option Command
  | .starts _ .query c => some c
  | _ => none

def submission? : Event → Option (Course Ending)
  | .ends .submission course => some course
  | _ => none

/-- The deed that an event is, as a transcript tells it. -/
def deed? : Event → Option Entry
  | .starts _ _ c => some (.ran c)
  | .wakes ms (.ok ()) => some (.waited ms)
  | _ => none

end Event

def outcomes (es : List Event) : List Outcome := es.filterMap Event.outcome?

def aborts (es : List Event) : List (Party × Command) := es.filterMap Event.abort?

def queries (es : List Event) : List Command := es.filterMap Event.query?

def submissions (es : List Event) : List (Course Ending) := es.filterMap Event.submission?

def deeds (es : List Event) : Transcript := es.filterMap Event.deed?

/-- Does an event raise the signal of the run: a cancellation between begin and finish, or the
caller whose wait has expired? -/
inductive Signals (before : List Event) : Event → Prop
  | cancels (hbegun : .begins ∈ before) (hunfinished : outcomes before = []) :
      Signals before .cancels
  | raises : Signals before .raises

end Interleaving

end SprayWatch
