/-!
# Job states

The cluster reports each job in one of ten states.  For the one who waits there are three cases: the
job has succeeded, it has failed, or it is not complete.
-/

namespace SprayWatch.Job

/-- What a state means to the one who waits. -/
inductive Status where
  | success
  | failure
  | notComplete
  deriving Repr, DecidableEq

def Status.isTerminal : Status → Bool
  | .notComplete => false
  | _ => true

def Status.text : Status → String
  | .success => "SUCCESS"
  | .failure => "FAILURE"
  | .notComplete => "NOT_COMPLETE"

/-- What the cluster says of a job. -/
inductive State where
  | unknown
  | scheduled
  | queued
  | started
  | aborted
  | failed
  | finished
  | monitoring
  | aborting
  | deleted
  deriving Repr, DecidableEq

def State.all : List State :=
  [.unknown, .scheduled, .queued, .started, .aborted, .failed, .finished, .monitoring, .aborting,
    .deleted]

def State.name : State → String
  | .unknown => "unknown"
  | .scheduled => "scheduled"
  | .queued => "queued"
  | .started => "started"
  | .aborted => "aborted"
  | .failed => "failed"
  | .finished => "finished"
  | .monitoring => "monitoring"
  | .aborting => "aborting"
  | .deleted => "deleted"

def State.status : State → Status
  | .finished | .monitoring => .success
  | .scheduled | .queued | .started => .notComplete
  | .unknown | .aborted | .failed | .aborting | .deleted => .failure

end SprayWatch.Job
