import SprayWatch.Command
import SprayWatch.Failure
import SprayWatch.Log
/-!
# Sites

A site is where commands are run, time passes and directories are removed.  Whoever asks it for
something that takes time is told what happens meanwhile, in order: lines of output, records for the
log, requests to stop.  It is also told how the matter ended, unless the asker's patience ran out
before the end.
-/

namespace SprayWatch

/-- What can happen while a command runs or a pause lasts. -/
inductive Happening where
  | line (text : String)
  | logged (record : Log.Record)
  | stopAsked
  deriving Repr, DecidableEq

/-- What happened in the course of something, and its end, if it was waited for. -/
structure Course (ε : Type) where
  happenings : List Happening
  ending : Option ε
  deriving Repr, DecidableEq

/-- How the run of a command ends: the command exits, or the attempt to run it fails, or whoever
runs it breaks down. -/
inductive Ending where
  | exited (outcome : RunOutcome)
  | failed (failure : Failure)
  | brokeDown
  deriving Repr, DecidableEq

/-- The signal by which one run is told to stop. -/
structure Signal where
  raised : Bool
  deriving Repr, DecidableEq

def Signal.fresh : Signal := ⟨false⟩

/-- How one waits: whether one's stop signal is raised already, whether a request to stop raises
it, and for how many milliseconds one waits at most. -/
structure Watch where
  raised : Bool
  stoppable : Bool
  patience : Option Nat
  deriving Repr, DecidableEq

def Watch.undisturbed : Watch := ⟨false, false, none⟩

def Watch.on (signal : Option Signal) (patience : Option Nat) : Watch :=
  ⟨signal.any Signal.raised, true, patience⟩

/-- What can be asked of a site whose states are those of `σ`: to run a command and to pause, each
under a watch, to tell the time in milliseconds, to remove a directory, and to tell its address. -/
structure Site (σ : Type) where
  run : Command → Watch → σ → Course Ending × σ
  pause : Nat → Watch → σ → Course Unit × σ
  clock : σ → Nat
  remove : Path → σ → Except IoFault Unit × σ
  localAddress : σ → Except IoFault String

end SprayWatch
