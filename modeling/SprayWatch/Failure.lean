import SprayWatch.Json.Fault
import SprayWatch.Mask.Expression
import SprayWatch.RunOutcome
/-!
# Failures

Everything that can go wrong, by its cause, and the words for it.
-/

namespace SprayWatch

/-- What the operating system or a stream refuses. -/
inductive IoFault where
  | notFound
  | permissionDenied
  | notDirectory
  | isDirectory
  | execFormat
  | linkLoop
  | nameTooLong
  | argumentListTooLong
  | invalidText
  | nulByte
  | nulInName
  | invalidArgument
  | notEmpty
  | other (text : String)
  deriving Repr, DecidableEq

def IoFault.message : IoFault → String
  | .notFound => "No such file or directory (os error 2)"
  | .permissionDenied => "Permission denied (os error 13)"
  | .notDirectory => "Not a directory (os error 20)"
  | .isDirectory => "Is a directory (os error 21)"
  | .execFormat => "Exec format error (os error 8)"
  | .linkLoop => "Too many levels of symbolic links (os error 40)"
  | .nameTooLong => "File name too long (os error 36)"
  | .argumentListTooLong => "Argument list too long (os error 7)"
  | .invalidText => "stream did not contain valid UTF-8"
  | .nulByte => "nul byte found in provided data"
  | .nulInName => "file name contained an unexpected NUL byte"
  | .invalidArgument => "Invalid argument (os error 22)"
  | .notEmpty => "Directory not empty (os error 39)"
  | .other text => text

/-- What a configuration lacks. -/
inductive ConfigFault where
  | blank (field : String)
  | zero (field : String)
  | noFile (path : String)
  | notExecutable (path : String)
  | stated (text : String)
  deriving Repr, DecidableEq

def ConfigFault.message : ConfigFault → String
  | .blank field => field ++ " must not be blank"
  | .zero field => field ++ " must be greater than zero"
  | .noFile path => path ++ " does not exist or it is not a file"
  | .notExecutable path => "Can't execute [" ++ path ++ "]"
  | .stated text => text

/-- Why an operation, or a part of one, gave no result. -/
inductive Failure where
  | processAbort (outcome : RunOutcome)
  | interrupted
  | timeoutExceeded
  | remoteJobFailure (jobId : String)
  | blankJobId
  | missingJobId
  | listErrors (mask : String)
  | invalidMask (mask : String) (fault : Mask.Fault)
  | config (fault : ConfigFault)
  | poolShutDown
  | taskLost
  | io (fault : IoFault)
  | json (fault : Json.Fault)
  deriving Repr, DecidableEq

def Failure.message : Failure → String
  | .processAbort o => "Job killed due to timeout/ExitCode != 0 (" ++ o.text ++ ")"
  | .interrupted => "Interrupted waiting for workunit completion"
  | .timeoutExceeded => "Timeout exceeded for workunit completion"
  | .remoteJobFailure id => "Job " ++ id ++ " was not successful"
  | .blankJobId => "WUID is blank"
  | .missingJobId => "No WUID found in dfuplus submission output"
  | .listErrors mask => "Errors executing dfuplus while listing [" ++ mask ++ "]"
  | .invalidMask mask fault => "Invalid file mask [" ++ mask ++ "]: " ++ fault.message
  | .config fault => "Invalid configuration: " ++ fault.message
  | .poolShutDown => "Worker pool is shut down"
  | .taskLost => "Worker task ended without a result"
  | .io fault => fault.message
  | .json fault => fault.message

def Failure.isAbort : Failure → Bool
  | .processAbort _ | .interrupted => true
  | _ => false

end SprayWatch
