import SprayWatch.Config
import SprayWatch.Executor.Report
import SprayWatch.Monitor.FileWait
import SprayWatch.Monitor.Job
/-!
# Executor

An executor carries out operations one after another, until it is shut down.
-/

namespace SprayWatch

/-- An executor does everything through its monitor. -/
structure Executor (σ : Type) where
  monitor : Monitor σ

def Answer.listener : Listener Answer := ⟨feed, records⟩

namespace Executor

variable {σ : Type}

def of (site : Site σ) (base : Command) (patience : Patience) : Executor σ :=
  ⟨⟨site, base, patience.pollCeiling, patience.maxWait⟩⟩

def fallbackAddress : String := "127.0.0.1"

def localAddress (e : Executor σ) : Act σ String := do
  match ← Act.look fun s => e.monitor.site.localAddress s.site with
  | .ok address => return address
  | .error fault =>
    Act.log (.of .warning "operations" ["Cannot determine local address", fault.message])
    return fallbackAddress

def plan (e : Executor σ) (op : Operation) : Act σ Plan := do
  let address ← if op.needsLocalAddress then e.localAddress else pure fallbackAddress
  return op.plan e.monitor.base address

/-- Removes what is to be removed after an operation has succeeded. -/
def cleanUp (e : Executor σ) (op : Operation) : Act σ (Except IoFault Unit) := do
  match op.toRemove? with
  | none => return .ok ()
  | some dir =>
    Act.log (.of .info "operations" ["Removing sprayed directory", dir.text])
    Act.remove e.monitor.site dir

def runMonitored (e : Executor σ) (op : Operation) (c : Command) : Act σ Report := do
  let outcome ← e.monitor.submit c
  if outcome.isSuccess then
    match ← e.cleanUp op with
    | .ok () => pure ()
    | .error fault =>
      Act.log (.of .warning "operations" ["Cleanup after", op.name, fault.message])
  return .monitored outcome

def runOnce (e : Executor σ) (op : Operation) (c : Command) (q : Question) :
    Act σ (Except Failure Report) := do
  Act.change fun s => { s with single := some .fresh }
  let watch ← Act.look fun s => Watch.on s.single none
  let (read, ending) ← Act.runCommand e.monitor.site Answer.listener (.start q) c watch
  Act.change fun s => { s with single := none }
  match ending.mapError Break.failure with
  | .error f => return .error f
  | .ok o =>
    if o.isAbort then
      Act.log (.of .error "operations" [op.name, o.text])
      return .error (.processAbort o)
    else return .ok read.report

def execute (e : Executor σ) (op : Operation) : Act σ (Except Failure Report) := do
  if ← Act.look fun s => s.accepting then
    let plan ← e.plan op
    Act.log (.of .info "operations" ["Executing", op.name])
    match plan.execution with
    | .monitored => return .ok (← e.runMonitored op plan.command)
    | .fileWait mask => return .ok (.monitored (← e.monitor.waitForFile mask))
    | .once q => e.runOnce op plan.command q
  else return .error .poolShutDown

def closePool : Act σ Unit :=
  Act.change fun s => { s with accepting := false }

/-- Stops whatever is under way and accepts no more operations. -/
def shutdown : Act σ Unit := do
  Act.askStop
  closePool
  Act.log (.of .info "operations" ["Executor shut down"])

/-- What an executor can be asked. -/
inductive Request where
  | execute (op : Operation)
  | stop
  | shutdown
  deriving Repr, DecidableEq

/-- What an executor answers. -/
inductive Response where
  | executed (result : Except Failure Report)
  | stopped
  | shutDown

def serve (e : Executor σ) : Request → Act σ Response
  | .execute op => do return .executed (← e.execute op)
  | .stop => do
    Act.askStop
    return .stopped
  | .shutdown => do
    shutdown
    return .shutDown

end Executor

end SprayWatch
