import SprayWatch.Failure
import SprayWatch.Log
/-!
# Worker pools

A pool accepts tasks and has its workers run them in the order in which they were accepted.  A task
gives a value or panics; a panic ends the task and not the worker.  Whoever holds a task's handle may
take its value, once.  A pool that is shut down accepts nothing more, but what it has accepted still
runs.

A task may stand behind a gate: it has begun, but goes on only when the gate is open.

The pool is a machine with small steps.  A free worker may begin the first task that is waiting, and
a task that has begun may end; in between, the client does what it likes.
-/

namespace SprayWatch

namespace Pool

/-- A task: its value, whether it panics instead, and whether it stands behind the gate. -/
structure Task where
  value : Nat
  panics : Bool
  gated : Bool
  deriving Repr, DecidableEq

/-- How far a task got. -/
inductive Stage where
  | waiting
  | begun
  | ended
  deriving Repr, DecidableEq

/-- An accepted task, how far it got, and whether its value has been taken. -/
structure Slot where
  task : Task
  stage : Stage
  taken : Bool
  deriving Repr, DecidableEq

end Pool

/-- A pool: how many workers it has, the tasks in the order in which they were accepted, the numbers
of those that have begun in the order in which they did, whether it accepts more, and whether the
gate is open. -/
structure Pool where
  workers : Nat
  slots : List Pool.Slot
  order : List Nat
  accepting : Bool
  gateOpen : Bool
  deriving Repr, DecidableEq

namespace Pool

def start (workers : Nat) : Pool := ⟨max workers 1, [], [], true, false⟩

def slot? (p : Pool) (i : Nat) : Option Slot := p.slots[i]?

def setStage (p : Pool) (i : Nat) (stage : Stage) : Pool :=
  { p with slots := p.slots.modify i fun s => { s with stage := stage } }

def isAt (stage : Stage) (s : Slot) : Bool := s.stage == stage

def busy (p : Pool) : Nat := p.slots.countP (isAt .begun)

/-! ## Steps of the workers -/

def begin? (p : Pool) : Option Pool :=
  if p.busy < p.workers then
    (p.slots.findIdx? (isAt .waiting)).map fun i =>
      { p.setStage i .begun with order := p.order ++ [i] }
  else none

def mayEnd (p : Pool) (s : Slot) : Bool := isAt .begun s && (!s.task.gated || p.gateOpen)

def recordsOf (s : Slot) : List Log.Record :=
  if s.task.panics then [.of .error "pool" ["Worker task panicked"]] else []

def end? (p : Pool) : Option (Pool × List Log.Record) := do
  let i ← p.slots.findIdx? p.mayEnd
  let s ← p.slot? i
  return (p.setStage i .ended, recordsOf s)

/-- The workers go on for a number of steps, or until they can do nothing more. -/
def run (p : Pool) : Nat → Pool × List Log.Record
  | 0 => (p, [])
  | n + 1 =>
    match p.end? with
    | some (p, records) =>
      let (p, more) := run p n
      (p, records ++ more)
    | none =>
      match p.begin? with
      | some p => run p n
      | none => (p, [])

/-- The workers go on until they can do nothing more: every task begins once and ends once. -/
def settle (p : Pool) : Pool × List Log.Record := p.run (2 * p.slots.length)

/-! ## Steps of the client -/

def submit (p : Pool) (task : Task) : Except Failure Nat × Pool :=
  if p.accepting then
    (.ok p.slots.length, { p with slots := p.slots ++ [⟨task, .waiting, false⟩] })
  else (.error .poolShutDown, p)

def take (p : Pool) (i : Nat) : Except Failure (Option Nat) × Pool :=
  match p.slot? i with
  | none => (.error .taskLost, p)
  | some s =>
    if s.stage ≠ .ended then (.ok none, p)
    else if s.task.panics || s.taken then (.error .taskLost, p)
    else
      (.ok (some s.task.value),
        { p with slots := p.slots.modify i fun s => { s with taken := true } })

def openGate (p : Pool) : Pool := { p with gateOpen := true }

def close (p : Pool) : Pool := { p with accepting := false }

/-- The values of the tasks that have begun, in the order in which they did. -/
def begun (p : Pool) : List Nat :=
  p.order.filterMap fun i => (p.slot? i).map fun s => s.task.value

end Pool

end SprayWatch
