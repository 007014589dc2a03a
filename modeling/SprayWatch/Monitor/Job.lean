import SprayWatch.Monitor.Outcome
import SprayWatch.Monitor.Polling
import SprayWatch.Output.Status
import SprayWatch.Output.Submission
/-!
# Jobs

A job is submitted, and its status queried until it has succeeded or failed.  When it is given up
before that, whoever gave it up asks the cluster to abort it.
-/

namespace SprayWatch

def Output.Submission.listener : Listener Output.Submission := ⟨feed, records⟩

def Output.Status.listener : Listener Output.Status := ⟨feed, records⟩

namespace Monitor

variable {σ : Type}

def abort (m : Monitor σ) (jobId : Option String) : Act σ Unit := do
  match (jobId.map Text.trim).filter fun id => !id.isEmpty with
  | none => Act.log (.of .debug "monitor" ["No WUID to abort"])
  | some id =>
    Act.log (.of .warning "monitor" ["Aborting WUID", id])
    let (_, ending) ← Act.runCommand m.site .deaf () (m.base.abort id) .undisturbed
    match ending with
    | .ok o =>
      if o.isAbort then
        Act.log (.of .error "monitor" ["Abort of WUID", id, "failed with " ++ o.text])
    | .error b =>
      Act.log (.of .error "monitor" ["Abort of WUID", id, "failed: " ++ b.failure.message])

/-- One status query.  What the queries before it have told is kept. -/
def attemptStatus (m : Monitor σ) (deadline : Nat) (read : Output.Status) :
    Act σ (Verdict Output.Status Job.Status) := do
  let (read, ending) ← m.ask deadline Output.Status.listener read (m.base.status read.jobId)
  match ending with
  | .error b => return .broke b
  | .ok () =>
    m.tick ("WUID [" ++ read.jobId ++ "]; status=[" ++ read.status.text ++ "]")
    return if read.status.isTerminal then .settled read.status else .notYet read

def conclude (m : Monitor σ) (jobId : String) (result : Except Failure Job.Status) :
    Act σ Outcome := do
  match result with
  | .ok .success => return .completed .success
  | .ok _ =>
    let f := Failure.remoteJobFailure jobId
    Act.log (.of .error "monitor" [f.message])
    return .failed f
  | .error .timeoutExceeded =>
    Act.log (.of .error "monitor" ["Timeout exceeded for WUID", jobId])
    m.abort (some jobId)
    return .timedOut
  | .error f =>
    if f.isAbort then
      Act.log (.of .error "monitor" [f.message, jobId])
      m.abort (some jobId)
      return .aborted
    else return .failed f

/-- How the status of a job is asked for, by a worker with a deadline. -/
abbrev StatusAttempt (σ : Type) : Type :=
  Nat → Output.Status → Act σ (Verdict Output.Status Job.Status)

def follow (m : Monitor σ) (attempt : StatusAttempt σ) (jobId : String) : Act σ Outcome := do
  Act.log (.of .info "monitor" ["Submitted WUID", jobId])
  match Output.Status.start? jobId with
  | none => return .failed .blankJobId
  | some read => m.conclude jobId (← m.handOver attempt read)

/-- Goes on after a submission that named a job, if any, and ended in some way. -/
def proceed (m : Monitor σ) (attempt : StatusAttempt σ) (jobId : Option String)
    (submitted : Except Failure RunOutcome) : Act σ Outcome := do
  match submitted with
  | .ok o =>
    if o.isAbort then
      Act.log (.of .error "monitor" ["Submission failed", o.text])
      m.abort jobId
      return .aborted
    else
      match jobId with
      | some id => m.follow attempt id
      | none =>
        Act.log (.of .error "monitor" ["No WUID in submission output"])
        return .failed .missingJobId
  | .error .interrupted =>
    m.abort jobId
    return .aborted
  | .error f => return .failed f

def runJob (m : Monitor σ) (attempt : StatusAttempt σ) (c : Command) : Act σ Outcome := do
  let watch ← Act.look fun s => Watch.on s.current none
  let (read, ending) ← Act.runCommand m.site Output.Submission.listener .start c watch
  m.proceed attempt read.jobId (ending.mapError Break.failure)

/-- Submits a job and waits for its end, asking for its status in some way. -/
def submitBy (m : Monitor σ) (attempt : StatusAttempt σ) (c : Command) : Act σ Outcome := do
  let outcome ← monitored (m.runJob attempt c)
  Act.log (.of .info "monitor" ["Job ended", outcome.text])
  return outcome

def submit (m : Monitor σ) (c : Command) : Act σ Outcome := m.submitBy m.attemptStatus c

end Monitor

end SprayWatch
