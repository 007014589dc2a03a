import SprayWatch.Shell.State
/-!
# The course of a script

Loops are left, signals end a script or are acted on, processes that were left to themselves are
waited for, and failures end a script that is to stop on them.
-/

namespace SprayWatch.Shell

open Machine (Work Fate)

def Interpreter.fate (s : Interpreter) : Fate :=
  match s.flow with
  | .ended f => f
  | _ => .exited s.code

def afterRound : Run Bool := do
  match (← Run.shell).flow with
  | .leaving n =>
    Run.setFlow (if n ≤ 1 then .on else .leaving (n - 1))
    return false
  | .skipping n =>
    Run.setFlow (if n ≤ 1 then .on else .skipping (n - 1))
    return n ≤ 1
  | .on => return true
  | _ => return false

/-- The name by which scripts give an action for a signal, or for their end. -/
def conditionName (text : String) : String :=
  match Machine.signal? text with
  | some 0 => "EXIT"
  | some n => (Machine.signalName n).drop 3 |>.toString
  | none => text

/-- How a signal ends the shell, unless there is an action for it. -/
def Interpreter.endBy? (s : Interpreter) (signal : Nat) : Option Fate :=
  if signal ≠ 9 && (s.traps.lookup (conditionName (toString signal))).isSome then none
  else Machine.Fate.ofSignal? signal

/-- Takes a signal: the script is ended by it, or will act on it. -/
def receive (signal : Nat) : Run Unit := do
  match (← Run.shell).endBy? signal with
  | some fate => Run.setFlow (.ended fate)
  | none =>
    let name := conditionName (toString signal)
    Run.changeShell fun s => { s with pending := s.pending ++ [name] }

/-- Takes the signals that other processes have sent by now.  One that ends the script has done so at
the moment at which it was sent. -/
def receiveSent : Run Unit := do
  let s ← get
  let mine (g : Machine.Sent) : Bool := g.target = s.shell.pid && g.time ≤ s.world.clock
  let due := s.world.signals.filter mine
  if !due.isEmpty then
    set { s with world := { s.world with signals := s.world.signals.filter fun g => !mine g } }
    (due.mergeSort fun a b => decide (a.time ≤ b.time)).forM fun g => do
      if ← Run.isOn then
        receive g.signal
        if !(← Run.isOn) then Run.setClock g.time

def sendSignal (target signal : Nat) : Run Bool := do
  let s ← Run.shell
  if target = s.pid then
    receive signal
    return true
  else if target = s.mainPid then
    modify fun s => { s with world := { s.world with
      signals := s.world.signals ++ [⟨s.world.clock, target, signal⟩] } }
    return true
  else Run.work (Machine.send target signal)

def awaitProcess (pid : Nat) : Run Unit := do
  match (← get).world.processes.find? fun p => p.pid = pid with
  | none => Run.setCode 127
  | some p =>
    if p.fate ≠ .never then Run.work (Work.waitUntil p.finish)
    Run.note p.fate

/-- Waits until all processes that were left to themselves have ended. -/
def awaitAll : Run Unit := do
  let ps := (← get).world.processes
  if ps.any fun p => p.fate = .never then Run.setFlow (.ended .never)
  else
    ps.forM fun p => Run.work (Work.waitUntil p.finish)
    Run.setCode 0

/-- The condition under which a command is run, and what stands in its way. -/
def isTested (f : Run Unit) : Run Unit := do
  Run.changeShell fun s => { s with conditions := s.conditions + 1 }
  f
  Run.changeShell fun s => { s with conditions := s.conditions - 1 }

def inLoop (f : Run Unit) : Run Unit := do
  Run.changeShell fun s => { s with loops := s.loops + 1 }
  f
  Run.changeShell fun s => { s with loops := s.loops - 1 }

/-- Ends a script that is to stop on failures when its last command has failed. -/
def stopOnFailure : Run Unit := do
  let s ← Run.shell
  if s.stopsOnFailure && s.conditions = 0 && s.code ≠ 0 && s.flow == .on then
    Run.setFlow (.ended (.exited s.code))

/-- The arguments of a command that sends a signal: the signal, and the processes. -/
def signalArguments (args : List String) : Option Nat × List String :=
  match args with
  | "-s" :: name :: rest => (Machine.signal? name, rest)
  | a :: rest =>
    if a = "--" then (some 15, rest)
    else if a.startsWith "-" then (Machine.signal? (a.drop 1).toString, rest)
    else (some 15, args)
  | [] => (some 15, [])

def sendAll (signal : Nat) (code : Nat) : List String → Run Nat
  | [] => return code
  | t :: ts => do
    match t.toNat? with
    | some pid =>
      if ← sendSignal pid signal then sendAll signal code ts
      else
        Run.complain "kill: No such process\n"
        sendAll signal 1 ts
    | none =>
      Run.complain ("kill: Illegal number: " ++ t)
      sendAll signal 2 ts

end SprayWatch.Shell
