import SprayWatch.Session.Act
/-!
# Polling

Something is attempted again and again, with pauses that grow, until an attempt settles it, fails,
or the pauses together have lasted as long as one is prepared to wait.

Each pause lasts at least a millisecond, so what is left of the longest wait shrinks from round to
round, and polling comes to an end.  Times are kept in 64 bits.
-/

namespace SprayWatch

/-- What an attempt came to.  One that settled nothing may leave something for the next to know. -/
inductive Verdict (μ α : Type) where
  | notYet (memory : μ)
  | settled (a : α)
  | broke (b : Break)

/-- What polls have in common: where they are done, which command theirs begin with, below which
number of milliseconds waits are drawn, and how long they may last together. -/
structure Monitor (σ : Type) where
  site : Site σ
  base : Command
  pollCeiling : Nat
  maxWait : Nat

namespace Monitor

variable {σ μ α : Type}

/-- How long the one who waits for a poll that must end by `deadline` has left. -/
def patience (m : Monitor σ) (deadline : Nat) : Act σ (Option Nat) :=
  Act.look fun s => some (deadline - m.site.clock s.site)

def rest (m : Monitor σ) (deadline wait : Nat) : Act σ (Except Break Unit) := do
  Act.pause m.site wait (← m.patience deadline)

/-- What a round came to: it ended the polling, or its pause is over and another round may follow. -/
inductive Round (μ α : Type) where
  | ended (result : Except Break α)
  | rested (memory : μ) (wait : Backoff.Wait)

/-- One round: an attempt and, when that settles nothing, a pause.  How long the pause is to last is
drawn beforehand. -/
def round (m : Monitor σ) (deadline : Nat) (attempt : μ → Act σ (Verdict μ α)) (memory : μ)
    (previous : Nat) : Act σ (Round μ α) := do
  let wait ← Act.drawWait previous (Backoff.truncate m.pollCeiling)
  match ← attempt memory with
  | .settled a => return .ended (.ok a)
  | .broke b => return .ended (.error b)
  | .notYet memory =>
    match ← m.rest deadline wait.val with
    | .error b => return .ended (.error b)
    | .ok () => return .rested memory wait

/-- For how many milliseconds the pauses of a poll may last together. -/
def budget (m : Monitor σ) : Nat := Backoff.truncate m.maxWait

theorem budget_sub_lt {budget total wait : Nat} (hwait : 0 < wait)
    (hbudget : budget < Backoff.wordCount)
    (hgoesOn : ¬ budget ≤ Backoff.saturate (total + wait)) :
    budget - Backoff.saturate (total + wait) < budget - total := by
  unfold Backoff.saturate at *
  omega

/-- Round after round.  The last pause was `previous`, and all of them have lasted for `total`. -/
def pollFrom (m : Monitor σ) (deadline : Nat) (attempt : μ → Act σ (Verdict μ α)) (memory : μ)
    (previous total : Nat) : Act σ (Except Break α) := do
  match ← m.round deadline attempt memory previous with
  | .ended result => return result
  | .rested memory wait =>
    if _h : m.budget ≤ Backoff.saturate (total + wait.val) then
      return .error (.failed .timeoutExceeded)
    else pollFrom m deadline attempt memory wait.val (Backoff.saturate (total + wait.val))
termination_by m.budget - total
decreasing_by
  exact budget_sub_lt wait.property (Nat.mod_lt _ (by decide)) _h

def poll (m : Monitor σ) (deadline : Nat) (attempt : μ → Act σ (Verdict μ α)) (memory : μ) :
    Act σ (Except Break α) :=
  m.pollFrom deadline attempt memory 0 0

/-- At most one message on progress goes through in this many milliseconds. -/
def tickInterval : Nat := 5 * 60 * 1000

def tick (m : Monitor σ) (message : String) : Act σ Unit := do
  let now ← Act.look fun s => m.site.clock s.site
  if ← Act.look fun s => s.ticks.isDue tickInterval now then
    Act.log (.of .trace "monitor" [message])
  Act.change fun s => { s with ticks := s.ticks.ask tickInterval now }

/-- Runs a command of a poll and reads its output.  Only exit code 0 counts as success. -/
def ask {τ : Type} (m : Monitor σ) (deadline : Nat) (listener : Listener τ) (read : τ)
    (c : Command) : Act σ (τ × Except Break Unit) := do
  let patience ← m.patience deadline
  let watch ← Act.look fun s => Watch.on s.current patience
  let (read, ending) ← Act.runCommand m.site listener read c watch
  match ending with
  | .ok o => return (read, if o.isAbort then .error (.failed (.processAbort o)) else .ok ())
  | .error b => return (read, .error b)

/-- Has a worker poll, with attempts that know the deadline, and waits for the result for as long as
polling may last.  When the result does not come in time the worker is told to stop. -/
def handOver (m : Monitor σ) (attempt : Nat → μ → Act σ (Verdict μ α)) (memory : μ) :
    Act σ (Except Failure α) := do
  if ← Act.look fun s => s.accepting then
    let deadline ← Act.look fun s => m.site.clock s.site + m.maxWait
    match ← m.poll deadline (attempt deadline) memory with
    | .ok a => return .ok a
    | .error (.failed f) => return .error f
    | .error .lost =>
      Act.log (.of .error "pool" ["Worker task panicked"])
      return .error .taskLost
    | .error .abandoned =>
      Act.log (.of .warning "monitor" ["Polling did not finish within the maximum wait"])
      Act.raiseCurrent
      return .error .timeoutExceeded
  else return .error .poolShutDown

def monitored (run : Act σ α) : Act σ α := do
  Act.change fun s => { s with current := some .fresh }
  let result ← run
  Act.change fun s => { s with current := none }
  return result

end Monitor

end SprayWatch
