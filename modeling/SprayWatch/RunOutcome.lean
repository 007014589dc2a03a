/-!
# How a command ended

A command that ran ended by itself, with success or with another exit code, or was killed because it
took too long.  One that was ended by a signal from elsewhere counts as having the exit code -1.
-/

namespace SprayWatch

/-- How the run of a command ended. -/
inductive RunOutcome where
  | finished
  | watchdogKilled
  | nonZeroExit (code : Int)
  deriving Repr, DecidableEq

namespace RunOutcome

def ofCode (code : Int) : RunOutcome :=
  if code = 0 then .finished else .nonZeroExit code

/-- The outcome for the status that the operating system keeps of an ended process: its low seven
bits are zero when the process ended by itself, and then the next eight bits above one more are its
exit code. -/
def ofWaitStatus (status : Nat) : RunOutcome :=
  if status % 128 = 0 then ofCode (status / 256 % 256 : Nat) else .nonZeroExit (-1)

/-- Does the outcome call off what the command was part of? -/
def isAbort : RunOutcome → Bool
  | .finished => false
  | .watchdogKilled | .nonZeroExit _ => true

def text : RunOutcome → String
  | .finished => "exit code 0"
  | .watchdogKilled => "killed by watchdog"
  | .nonZeroExit code => "exit code " ++ toString code

end RunOutcome

end SprayWatch
