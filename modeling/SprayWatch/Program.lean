import SprayWatch.CommandLine.Request
import SprayWatch.ConfigFile
import SprayWatch.Executor.Basic
import SprayWatch.Machine.Basic
/-!
# The program

A command line is read, then the configuration that it names; the operation is carried out, and its
report told.  The exit code is 0 when the operation has succeeded and 1 when it has not, and 2 when
there is no report because something failed; then the failure is logged.
-/

namespace SprayWatch

/-- One thing that the program prints. -/
inductive Print where
  | record (r : Log.Record)
  | line (text : String)
  deriving Repr, DecidableEq

/-- What the program prints and its exit code. -/
structure Session where
  prints : List Print
  exitCode : Nat
  files : Files.Tree

/-- A site at which the program can be started.  Its first state is made from the files and the
longest time that a command may take; all of its states hold files. -/
structure Host (σ : Type) where
  site : Site σ
  start : Files.Tree → Nat → σ
  files : σ → Files.Tree

def Machine.host : Host Machine := ⟨site, start, files⟩

namespace Program

def failureRecord (f : Failure) : Log.Record := .of .critical "core" [f.message]

def exitCode : Except Failure Report → Nat
  | .ok report => if report.isSuccess then 0 else 1
  | .error _ => 2

def tell : Except Failure Report → List Print
  | .ok report => report.lines.map .line
  | .error f => [.record (failureRecord f)]

def abandon (before : List Print) (f : Failure) (files : Files.Tree) : Session :=
  ⟨before ++ tell (.error f), exitCode (.error f), files⟩

def perform {σ : Type} (e : Executor σ) (op : Operation) : Act σ (Except Failure Report) := do
  let result ← e.execute op
  Executor.shutdown
  return result

/-- What is shown when a command line is refused, and the exit code. -/
def refuse (r : CommandLine.Refusal) (files : Files.Tree) : Session :=
  match r with
  | .helpAsked => ⟨[], 0, files⟩
  | .versionAsked line => ⟨[.line line], 0, files⟩
  | _ => ⟨[], 1, files⟩

def configPath? (words : List String) : Option Path :=
  (CommandLine.read words).toOption.map CommandLine.Request.config

/-- The other paths that matter to a run, once its configuration is there: the program to be run for
commands, and the directory that is to be sprayed. -/
def pathsBeside (words : List String) (files : Files.Tree) : List Path :=
  match CommandLine.read words with
  | .error _ => []
  | .ok request =>
    let text := (files.readText request.config).toOption
    let config := text.bind fun text => (Config.parse (fun _ => true) text).toOption
    let command := config.map fun c => (⟨c.connection.command⟩ : Path)
    command.toList ++ ((request.parameters.valueOf? "dir").map Path.mk).toList

/-- What a command line that is carried out comes to: the configuration, the operation, and the
command that those of the operation begin with. -/
structure Assignment where
  config : Config
  op : Operation
  base : Command

/-- What a command line comes to, or the session that ends before anything is carried out. -/
def prepare (words : List String) (files : Files.Tree) : Except Session Assignment :=
  match CommandLine.read words with
  | .error r => .error (refuse r files)
  | .ok request =>
    match Config.load files request.config with
    | .error f => .error (abandon [] f files)
    | .ok config =>
      let begun : List Print := [.record Log.startup]
      match request.operation with
      | .error f => .error (abandon begun (.json f) files)
      | .ok op =>
        match config.connection.baseCommand files with
        | .error f => .error (abandon begun f files)
        | .ok base => .ok ⟨config, op, base⟩

namespace Assignment

variable {σ : Type}

def executor (a : Assignment) (host : Host σ) : Executor σ :=
  .of host.site a.base a.config.monitor

/-- The station at which an assignment is carried out.  Its configuration says what is logged. -/
def station (a : Assignment) (host : Host σ) (draws : Backoff.Draws) (files : Files.Tree) :
    Station σ :=
  { Station.start (host.start files a.config.monitor.execTimeout) draws with
    threshold := a.config.logLevel }

def carryOut (a : Assignment) (host : Host σ) (draws : Backoff.Draws) (files : Files.Tree) :
    Session :=
  let step := perform (a.executor host) a.op (a.station host draws files)
  let records : List Print := (Transcript.records step.did).map .record
  ⟨.record Log.startup :: (records ++ tell step.value), exitCode step.value,
    host.files step.station.site⟩

end Assignment

def runAt {σ : Type} (host : Host σ) (words : List String) (draws : Backoff.Draws)
    (files : Files.Tree) : Session :=
  match prepare words files with
  | .error session => session
  | .ok a => a.carryOut host draws files

def run (words : List String) (draws : Backoff.Draws) (files : Files.Tree) : Session :=
  runAt Machine.host words draws files

end Program

end SprayWatch
