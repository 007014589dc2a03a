import SprayWatch.Files.Tree
import SprayWatch.Session.Site
/-!
# Rehearsals

A rehearsal is a site at which nothing real is run.  A script says, for every action, what its
commands reply, the first time, the second time and so on; the last reply is repeated, and a command
for which there is no reply exits with success at once.  The clock moves only when somebody waits.
-/

namespace SprayWatch

open Files (Tree)

namespace Rehearsal

/-- What a command does: perhaps a request to stop comes in first, then it writes lines, perhaps it
hangs until it is stopped, and then it ends. -/
structure Reply where
  stopFirst : Bool
  lines : List String
  hangs : Bool
  ending : Ending
  deriving Repr, DecidableEq

def Reply.silent : Reply := ⟨false, [], false, .exited .finished⟩

/-- The replies to the commands with each action. -/
abbrev Script := List (String × List Reply)

/-- The reply to the command with an action before which there have been `n` others with it. -/
def Script.reply (script : Script) (action : String) (n : Nat) : Reply :=
  match script.find? fun e => e.1 = action with
  | none => .silent
  | some (_, replies) => (replies[n]?.or replies.getLast?).getD .silent

/-- How often there has been a command with each action. -/
abbrev Tally := List (String × Nat)

def Tally.count : Tally → String → Nat
  | [], _ => 0
  | (other, n) :: rest, action => if other = action then n else Tally.count rest action

def Tally.add : Tally → String → Tally
  | [], action => [(action, 1)]
  | (other, n) :: rest, action =>
    if other = action then (other, n + 1) :: rest else (other, n) :: Tally.add rest action

end Rehearsal

/-- The state of a rehearsal: the tally of the commands so far, the clock, the moment at which a
request to stop comes in, the number of pauses before such a request comes in with the next one, the
pauses so far, whether pauses take time, and the files. -/
structure Rehearsal where
  script : Rehearsal.Script
  tally : Rehearsal.Tally
  clock : Nat
  stopAt : Option Nat
  stopAtPause : Option Nat
  pauses : Nat
  takesTime : Bool
  files : Tree

namespace Rehearsal

def start (script : Script) (files : Tree) : Rehearsal :=
  ⟨script, [], 0, none, none, 0, false, files⟩

/-- What ends a wait that nothing else ends. -/
inductive Waking where
  | stopAsked (moment : Nat)
  | patienceEnds (moment : Nat)

/-- What comes first: a request to stop, or the end of patience. -/
def waking? (r : Rehearsal) (watch : Watch) : Option Waking :=
  match r.stopAt, watch.patience with
  | some stop, some p =>
    if stop ≤ r.clock + p then some (.stopAsked stop) else some (.patienceEnds (r.clock + p))
  | some stop, none => some (.stopAsked stop)
  | none, some p => some (.patienceEnds (r.clock + p))
  | none, none => none

/-- A command that hangs: it ends when its signal is raised. -/
def hang (r : Rehearsal) (watch : Watch) (before : List Happening) :
    Course Ending × Rehearsal :=
  if watch.raised || watch.stoppable && before.contains .stopAsked then
    (⟨before, some (.failed .interrupted)⟩, r)
  else
    match r.waking? watch with
    | some (.stopAsked moment) =>
      (⟨before ++ [.stopAsked], some (.failed .interrupted)⟩,
        { r with clock := max r.clock moment, stopAt := none })
    | some (.patienceEnds moment) => (⟨before, none⟩, { r with clock := moment })
    | none => (⟨before, none⟩, r)

def run (c : Command) (watch : Watch) (r : Rehearsal) : Course Ending × Rehearsal :=
  let action := c.action?.getD ""
  let reply := r.script.reply action (r.tally.count action)
  let r := { r with tally := r.tally.add action }
  if watch.raised then (⟨[], some (.failed .interrupted)⟩, r)
  else
    let before := (if reply.stopFirst then [.stopAsked] else []) ++ reply.lines.map .line
    if reply.hangs then r.hang watch before else (⟨before, some reply.ending⟩, r)

def countPause (watch : Watch) (r : Rehearsal) : Course Unit × Rehearsal :=
  if watch.raised then (⟨[], some ()⟩, r)
  else if r.stopAtPause = some r.pauses then
    (⟨[.stopAsked], some ()⟩, { r with stopAtPause := none })
  else (⟨[], some ()⟩, { r with pauses := r.pauses + 1 })

def spendPause (ms : Nat) (watch : Watch) (r : Rehearsal) : Course Unit × Rehearsal :=
  if watch.raised then (⟨[], some ()⟩, r)
  else
    let finish := r.clock + ms
    match r.waking? watch with
    | some (.stopAsked moment) =>
      if moment < finish then
        (⟨[.stopAsked], some ()⟩, { r with clock := max r.clock moment, stopAt := none })
      else (⟨[], some ()⟩, { r with clock := finish })
    | some (.patienceEnds moment) =>
      if moment ≤ finish then (⟨[], none⟩, { r with clock := moment })
      else (⟨[], some ()⟩, { r with clock := finish })
    | none => (⟨[], some ()⟩, { r with clock := finish })

def pause (ms : Nat) (watch : Watch) (r : Rehearsal) : Course Unit × Rehearsal :=
  if r.takesTime then r.spendPause ms watch else r.countPause watch

def remove (dir : Path) (r : Rehearsal) : Except IoFault Unit × Rehearsal :=
  let (result, files) := r.files.remove dir
  (result, { r with files := files })

def site : Site Rehearsal where
  run := run
  pause := pause
  clock := clock
  remove := remove
  localAddress := fun _ => .ok "127.0.0.1"

end Rehearsal

end SprayWatch
