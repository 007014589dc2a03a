import SprayWatch.Failure
import SprayWatch.Json.Shape
import SprayWatch.Log
import SprayWatch.Command
/-!
# Configuration

How the tool is reached, how patiently it is monitored, and how much is logged.
-/

namespace SprayWatch

/-- How the tool is called and which server it works for. -/
structure Connection where
  command : String
  server : String
  username : Option String
  password : Option String
  sourceIp : Option String
  transferBufferSize : Option Nat
  throttle : Option Nat
  replicate : Option Bool
  noRecover : Option Bool
  deriving Repr, DecidableEq

/-- Times in milliseconds, and the number of threads that poll. -/
structure Patience where
  pollCeiling : Nat
  maxWait : Nat
  execTimeout : Nat
  workerThreads : Nat
  deriving Repr, DecidableEq

/-- What holds where nothing is said: half a minute, an hour, five minutes, one thread. -/
def Patience.usual : Patience := ⟨30000, 3600000, 300000, 1⟩

/-- A configuration: the connection, how long to wait for jobs, and which records are printed. -/
structure Config where
  connection : Connection
  monitor : Patience
  logLevel : Log.Priority
  deriving Repr, DecidableEq

def Config.usualPath : String := "./dfu-monitor.json"

/-! ## Arguments -/

def notBlank (value : Option String) : Option String :=
  value.filter fun v => !Text.isAllBlank v

def flag (b : Bool) : String := if b then "1" else "0"

def Connection.args (c : Connection) : List String :=
  let optional (key : String) (value : Option String) : List String :=
    (value.map fun v => key ++ "=" ++ v).toList
  ["server=" ++ c.server] ++ optional "username" (notBlank c.username) ++
    optional "password" (notBlank c.password) ++ optional "srcip" c.sourceIp ++
    optional "replicate" (c.replicate.map flag) ++ optional "norecover" (c.noRecover.map flag) ++
    optional "throttle" (c.throttle.map toString) ++
    optional "transferbuffersize" (c.transferBufferSize.map toString)

/-! ## Reading a configuration -/

namespace Config

open Json

def sizeMax : Nat := 4294967295
def timeMax : Nat := 18446744073709551615

def readSize : Reader Nat := natural sizeMax "u32"
def readTime : Reader Nat := natural timeMax "u64"
def readCount : Reader Nat := natural timeMax "usize"
def readText : Reader String := string "a string"

def priorityOfName? (n : String) : Option Log.Priority :=
  Log.Priority.all.find? fun p => p.name == n

def readPriority (depth : Nat) : Reader Log.Priority :=
  variant depth (Log.Priority.all.map Log.Priority.name) priorityOfName?

/-- What has been read of a connection. -/
structure ConnectionFields where
  command : Option String
  server : Option String
  username : Option (Option String)
  password : Option (Option String)
  sourceIp : Option (Option String)
  transferBufferSize : Option (Option Nat)
  throttle : Option (Option Nat)
  replicate : Option (Option Bool)
  noRecover : Option (Option Bool)

def ConnectionFields.none : ConnectionFields :=
  ⟨.none, .none, .none, .none, .none, .none, .none, .none, .none⟩

def ConnectionFields.entry (key : String) (f : ConnectionFields) : Reader ConnectionFields :=
  match key with
  | "dfuplus_command" => do return { f with command := ← field key f.command readText }
  | "server" => do return { f with server := ← field key f.server readText }
  | "username" => do return { f with username := ← field key f.username (optional readText) }
  | "password" => do return { f with password := ← field key f.password (optional readText) }
  | "source_ip" => do return { f with sourceIp := ← field key f.sourceIp (optional readText) }
  | "transfer_buffer_size" => do
    return { f with transferBufferSize := ← field key f.transferBufferSize (optional readSize) }
  | "throttle" => do return { f with throttle := ← field key f.throttle (optional readSize) }
  | "replicate" => do return { f with replicate := ← field key f.replicate (optional boolean) }
  | "no_recover" => do return { f with noRecover := ← field key f.noRecover (optional boolean) }
  | _ => do
    passField
    return f

/-- The connection, once the fields that must be there are. -/
def ConnectionFields.complete (f : ConnectionFields) (missing : Nat → String → Cause) :
    Reader Connection :=
  match f.command, f.server with
  | some command, some server =>
    return ⟨command, server, f.username.join, f.password.join, f.sourceIp.join,
      f.transferBufferSize.join, f.throttle.join, f.replicate.join, f.noRecover.join⟩
  | .none, _ => fail (missing 0 "dfuplus_command")
  | _, .none => fail (missing 1 "server")

def connectionWanted : String := "struct ConnectionConfig"

def connectionOfObject : Reader Connection := do
  let f ← entries ConnectionFields.entry (← remaining) true .none
  f.complete fun _ key => .missingField key

def needElement {α : Type} (n : Nat) (wanted : String) (item : Reader α) : Reader α := do
  match ← element? (n = 0) item with
  | some a => return a
  | none => fail (.wrongLength n wanted)

def connectionOfList : Reader Connection := do
  let wanted := connectionWanted ++ " with 9 elements"
  let command ← needElement 0 wanted readText
  let server ← needElement 1 wanted readText
  let username ← element? false (optional readText)
  let password ← element? false (optional readText)
  let sourceIp ← element? false (optional readText)
  let transferBufferSize ← element? false (optional readSize)
  let throttle ← element? false (optional readSize)
  let replicate ← element? false (optional boolean)
  let noRecover ← element? false (optional boolean)
  return ⟨command, server, username.join, password.join, sourceIp.join, transferBufferSize.join,
    throttle.join, replicate.join, noRecover.join⟩

def readConnection (depth : Nat) : Reader Connection :=
  record depth connectionWanted connectionOfList connectionOfObject

/-- What has been read of the monitor's section. -/
structure PatienceFields where
  pollCeiling : Option Nat
  maxWait : Option Nat
  execTimeout : Option Nat
  workerThreads : Option Nat

def PatienceFields.none : PatienceFields := ⟨.none, .none, .none, .none⟩

def PatienceFields.entry (key : String) (f : PatienceFields) : Reader PatienceFields :=
  match key with
  | "poll_ceiling_ms" => do return { f with pollCeiling := ← field key f.pollCeiling readTime }
  | "max_wait_ms" => do return { f with maxWait := ← field key f.maxWait readTime }
  | "exec_timeout_ms" => do return { f with execTimeout := ← field key f.execTimeout readTime }
  | "worker_threads" => do return { f with workerThreads := ← field key f.workerThreads readCount }
  | _ => do
    passField
    return f

def PatienceFields.complete (f : PatienceFields) : Patience :=
  ⟨f.pollCeiling.getD Patience.usual.pollCeiling, f.maxWait.getD Patience.usual.maxWait,
    f.execTimeout.getD Patience.usual.execTimeout,
    f.workerThreads.getD Patience.usual.workerThreads⟩

def patienceOfObject : Reader Patience := do
  return (← entries PatienceFields.entry (← remaining) true .none).complete

def patienceOfList : Reader Patience := do
  let pollCeiling ← element? true readTime
  let maxWait ← element? false readTime
  let execTimeout ← element? false readTime
  let workerThreads ← element? false readCount
  return PatienceFields.complete ⟨pollCeiling, maxWait, execTimeout, workerThreads⟩

def readPatience (depth : Nat) : Reader Patience :=
  record depth "struct MonitorConfig" patienceOfList patienceOfObject

/-- What has been read of a configuration. -/
structure Fields where
  connection : Option Connection
  monitor : Option Patience
  logLevel : Option Log.Priority

def usualLogLevel : Log.Priority := .info

def Fields.entry (key : String) (f : Fields) : Reader Fields :=
  match key with
  | "connection" => do
    return { f with connection := ← field key f.connection (readConnection (nesting - 1)) }
  | "monitor" => do
    return { f with monitor := ← field key f.monitor (readPatience (nesting - 1)) }
  | "log_level" => do
    return { f with logLevel := ← field key f.logLevel (readPriority (nesting - 1)) }
  | _ => do
    passField
    return f

def wanted : String := "struct Config"

def ofObject : Reader Config := do
  let f ← entries Fields.entry (← remaining) true ⟨none, none, none⟩
  match f.connection with
  | some connection =>
    return ⟨connection, f.monitor.getD .usual, f.logLevel.getD usualLogLevel⟩
  | none => fail (.missingField "connection")

def ofList : Reader Config := do
  let connection ← needElement 0 (wanted ++ " with 3 elements") (readConnection (nesting - 1))
  let monitor ← element? false (readPatience (nesting - 1))
  let logLevel ← element? false (readPriority (nesting - 1))
  return ⟨connection, monitor.getD .usual, logLevel.getD usualLogLevel⟩

def ofJson (s : String) : Except Fault Config :=
  readAll (record nesting wanted ofList ofObject) s

def connectionOfJson (s : String) : Except Fault Connection :=
  readAll (readConnection nesting) s

def priorityOfJson (s : String) : Except Fault Log.Priority :=
  readAll (readPriority nesting) s

/-! ## Checks -/

def checkNotBlank (value field : String) : Except ConfigFault Unit :=
  if Text.isAllBlank value then .error (.blank field) else .ok ()

def checkNotZero (value : Nat) (field : String) : Except ConfigFault Unit :=
  if value = 0 then .error (.zero field) else .ok ()

/-- The first thing that is wrong with a configuration, where `isFile` knows the files. -/
def check (c : Config) (isFile : Path → Bool) : Except ConfigFault Unit := do
  checkNotBlank c.connection.server "server"
  checkNotBlank c.connection.command "dfuplus_command"
  if !isFile ⟨c.connection.command⟩ then .error (.noFile c.connection.command)
  checkNotZero c.monitor.pollCeiling "poll_ceiling_ms"
  checkNotZero c.monitor.maxWait "max_wait_ms"
  checkNotZero c.monitor.execTimeout "exec_timeout_ms"
  checkNotZero c.monitor.workerThreads "worker_threads"

def parse (isFile : Path → Bool) (s : String) : Except Failure Config := do
  let c ← (ofJson s).mapError Failure.json
  (c.check isFile).mapError Failure.config
  return c

end Config

end SprayWatch
