import SprayWatch.Monitor.Outcome
import SprayWatch.Operation
/-!
# Reports

What an operation came to, as it is told to whoever asked for it.
-/

namespace SprayWatch

/-- What an operation came to. -/
inductive Report where
  | monitored (outcome : Outcome)
  | deletion (stage : Output.Deletion)
  | listing (files : List String) (hasErrors : Bool)
  deriving Repr, DecidableEq

namespace Report

def isSuccess : Report → Bool
  | .monitored outcome => outcome.isSuccess
  | .deletion stage => stage == .deleted
  | .listing _ hasErrors => !hasErrors

def lines : Report → List String
  | .monitored outcome => [outcome.text]
  | .deletion stage => [stage.text]
  | .listing files _ => files

end Report

def Answer.report : Answer → Report
  | .deletion stage => .deletion stage
  | .listing l => .listing l.files l.hasErrors

end SprayWatch
