import SprayWatch.Backoff
import SprayWatch.Session.Limiter
import SprayWatch.Session.Site
/-!
# Acts

What is done at a site is an act.  It starts from a station, which holds what lasts from one act to
the next, and gives a value, the list of what was done, and the station afterwards.  Acts follow one
another, and what they did is joined in order.  Of the records that acts log only those are kept
that reach the threshold of the station.

Requests to stop reach an act while a command runs or a pause lasts.  They raise the signals of the
runs that are under way; there are two kinds of these, monitored and single.
-/

namespace SprayWatch

/-- One thing that was done. -/
inductive Entry where
  | ran (command : Command)
  | waited (ms : Nat)
  | logged (record : Log.Record)
  | removal (dir : Path)
  deriving Repr, DecidableEq

/-- What was done, in order. -/
abbrev Transcript := List Entry

namespace Transcript

def commands (t : Transcript) : List Command :=
  t.filterMap fun
    | .ran c => some c
    | _ => none

def waits (t : Transcript) : List Nat :=
  t.filterMap fun
    | .waited ms => some ms
    | _ => none

def records (t : Transcript) : List Log.Record :=
  t.filterMap fun
    | .logged r => some r
    | _ => none

def removals (t : Transcript) : List Path :=
  t.filterMap fun
    | .removal dir => some dir
    | _ => none

end Transcript

/-- What lasts from one act to the next: the state of the site, the random numbers left, the
limiter of progress messages, whether work is still accepted, the signals of the runs that are under
way, and the threshold of the log. -/
structure Station (σ : Type) where
  site : σ
  draws : Backoff.Draws
  ticks : Limiter
  accepting : Bool
  current : Option Signal
  single : Option Signal
  threshold : Log.Priority

namespace Station

variable {σ : Type}

/-- A new station, at which every record is kept. -/
def start (site : σ) (draws : Backoff.Draws) : Station σ :=
  ⟨site, draws, .fresh, true, none, none, .trace⟩

/-- What becomes of records under the threshold in force. -/
def logged (s : Station σ) (rs : List Log.Record) : Transcript :=
  (rs.filter fun r => r.priority.reaches s.threshold).map .logged

end Station

/-- What an act gives: its value, what was done, and the station afterwards. -/
structure Step (σ α : Type) where
  value : α
  did : Transcript
  station : Station σ

def Act (σ α : Type) : Type := Station σ → Step σ α

namespace Act

variable {σ α β τ : Type}

protected def pure (a : α) : Act σ α := fun s => ⟨a, [], s⟩

protected def bind (x : Act σ α) (f : α → Act σ β) : Act σ β := fun s =>
  let first := x s
  let second := f first.value first.station
  ⟨second.value, first.did ++ second.did, second.station⟩

instance : Monad (Act σ) where
  pure := Act.pure
  bind := Act.bind

def logAll (rs : List Log.Record) : Act σ Unit := fun s => ⟨(), s.logged rs, s⟩

def log (r : Log.Record) : Act σ Unit := logAll [r]

def look (f : Station σ → α) : Act σ α := fun s => ⟨f s, [], s⟩

def change (f : Station σ → Station σ) : Act σ Unit := fun s => ⟨(), [], f s⟩

/-- Does acts one after another, each from where the one before it ended. -/
def each : List (Act σ α) → Station σ → List (Step σ α) × Station σ
  | [], s => ([], s)
  | x :: xs, s =>
    let step := x s
    let (steps, last) := each xs step.station
    (step :: steps, last)

/-- Raises the signal of the monitored run that is under way. -/
def raiseCurrent : Act σ Unit :=
  change fun s => { s with current := s.current.map fun _ => ⟨true⟩ }

def cancel : Act σ Unit := do
  if ← look fun s => s.current.isSome then
    log (.of .info "monitor" ["Cancelling monitor run"])
    raiseCurrent

def askStop : Act σ Unit := do
  change fun s => { s with single := s.single.map fun _ => ⟨true⟩ }
  cancel

@[simp] theorem pure_apply (a : α) (s : Station σ) :
    (pure a : Act σ α) s = ⟨a, [], s⟩ := rfl

@[simp] theorem bind_apply (x : Act σ α) (f : α → Act σ β) (s : Station σ) :
    (x >>= f) s =
      ⟨(f (x s).value (x s).station).value,
        (x s).did ++ (f (x s).value (x s).station).did,
        (f (x s).value (x s).station).station⟩ := rfl

@[simp] theorem log_apply (r : Log.Record) (s : Station σ) :
    log r s = ⟨(), s.logged [r], s⟩ := rfl

@[simp] theorem logAll_apply (rs : List Log.Record) (s : Station σ) :
    logAll rs s = ⟨(), s.logged rs, s⟩ := rfl

@[simp] theorem look_apply (f : Station σ → α) (s : Station σ) :
    look f s = ⟨f s, [], s⟩ := rfl

@[simp] theorem change_apply (f : Station σ → Station σ) (s : Station σ) :
    change f s = ⟨(), [], f s⟩ := rfl

end Act

/-- How lines of output are read, and what is logged of each. -/
structure Listener (τ : Type) where
  feed : τ → String → τ
  records : τ → String → List Log.Record

def Listener.deaf : Listener Unit := ⟨fun _ _ => (), fun _ _ => []⟩

namespace Act

variable {σ τ : Type}

/-- Takes note of what happened, in order, and returns what has been read. -/
def hear (listener : Listener τ) (read : τ) : List Happening → Act σ τ
  | [] => return read
  | .line l :: rest => do
    logAll (listener.records read l)
    hear listener (listener.feed read l) rest
  | .logged r :: rest => do
    log r
    hear listener read rest
  | .stopAsked :: rest => do
    askStop
    hear listener read rest

end Act

/-- Why something that was begun gave no result: it failed, or whoever did it broke down, or it was
not waited for any longer. -/
inductive Break where
  | failed (failure : Failure)
  | lost
  | abandoned
  deriving Repr, DecidableEq

/-- The failure for one who does the thing himself, without a limit on his patience. -/
def Break.failure : Break → Failure
  | .failed f => f
  | .lost => .taskLost
  | .abandoned => .interrupted

def Ending.outcome? : Option Ending → Except Break RunOutcome
  | some (.exited o) => .ok o
  | some (.failed f) => .error (.failed f)
  | some .brokeDown => .error .lost
  | none => .error .abandoned

namespace Act

variable {σ τ : Type}

def runCommand (site : Site σ) (listener : Listener τ) (read : τ) (c : Command) (watch : Watch) :
    Act σ (τ × Except Break RunOutcome) := fun s =>
  let (course, after) := site.run c watch s.site
  let heard := hear listener read course.happenings { s with site := after }
  ⟨(heard.value, Ending.outcome? course.ending), .ran c :: heard.did, heard.station⟩

/-- Pauses during a monitored run.  A pause at whose end the run's signal is raised does not count
as completed. -/
def pause (site : Site σ) (ms : Nat) (patience : Option Nat) : Act σ (Except Break Unit) := fun s =>
  let (course, after) := site.pause ms (.on s.current patience) s.site
  let heard := hear .deaf () course.happenings { s with site := after }
  if heard.station.current.any Signal.raised then
    ⟨.error (.failed .interrupted), heard.did, heard.station⟩
  else
    match course.ending with
    | some () => ⟨.ok (), heard.did ++ [.waited ms], heard.station⟩
    | none => ⟨.error .abandoned, heard.did, heard.station⟩

def remove (site : Site σ) (dir : Path) : Act σ (Except IoFault Unit) := fun s =>
  let (result, after) := site.remove dir s.site
  ⟨result, [.removal dir], { s with site := after }⟩

def drawWait (previous ceiling : Nat) : Act σ Backoff.Wait := fun s =>
  let drawn := Backoff.nextWait previous ceiling s.draws
  ⟨⟨drawn.1, Backoff.nextWait_pos previous ceiling s.draws⟩, [], { s with draws := drawn.2 }⟩

end Act

end SprayWatch
