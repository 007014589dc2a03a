import SprayWatch.Monitor.Outcome
import SprayWatch.Monitor.Polling
import SprayWatch.Output.Listing
/-!
# Waiting for files

Files are listed again and again until a file that matches a mask shows up.  Only the latest listing
counts.
-/

namespace SprayWatch

def Output.Match.listener : Listener Output.Match := ⟨feed, records⟩

namespace Monitor

variable {σ : Type}

def attemptListing (m : Monitor σ) (mask : String) (deadline : Nat) : Act σ (Verdict Unit Unit) := do
  match Output.Match.start mask with
  | .error f => return .broke (.failed (.invalidMask mask f))
  | .ok read =>
    let (read, ending) ← m.ask deadline Output.Match.listener read (m.base.list mask)
    match ending with
    | .error b => return .broke b
    | .ok () =>
      if read.hasErrors then return .broke (.failed (.listErrors mask))
      else
        m.tick ("Waiting for [" ++ mask ++ "]; found=[" ++ (if read.found then "true" else "false")
          ++ "]")
        return if read.found then .settled () else .notYet ()

def runFileWait (m : Monitor σ) (mask : String) : Act σ Outcome := do
  match ← m.handOver (fun d _ => m.attemptListing mask d) () with
  | .ok () => return .completed .success
  | .error .timeoutExceeded => return .timedOut
  | .error f =>
    if f.isAbort then
      Act.log (.of .warning "monitor" [f.message, mask])
      return .aborted
    else
      Act.log (.of .error "monitor" [f.message])
      return .failed f

def waitForFile (m : Monitor σ) (mask : String) : Act σ Outcome := do
  match Mask.compile mask with
  | .error f => return .failed (.invalidMask mask f)
  | .ok _ =>
    let outcome ← monitored (m.runFileWait mask)
    Act.log (.of .info "monitor" ["Wait for", mask, outcome.text])
    return outcome

end Monitor

end SprayWatch
