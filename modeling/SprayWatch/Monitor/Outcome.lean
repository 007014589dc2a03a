import SprayWatch.Failure
import SprayWatch.Job.State
/-!
# Outcomes of monitored runs
-/

namespace SprayWatch

/-- How a monitored run came to its end. -/
inductive Outcome where
  | completed (status : Job.Status)
  | timedOut
  | aborted
  | failed (failure : Failure)
  deriving Repr, DecidableEq

namespace Outcome

def isSuccess (o : Outcome) : Bool := o == .completed .success

def text : Outcome → String
  | .completed status => "Completed (" ++ status.text ++ ")"
  | .timedOut => "Timed out"
  | .aborted => "Aborted"
  | .failed f => "Failed: " ++ f.message

end Outcome

end SprayWatch
