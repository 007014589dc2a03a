import SprayWatch.Machine.Performance
import SprayWatch.Supervision
/-!
# Machines

A machine is a site where commands are run as processes.  They are supervised: they may take only so
long, and they are ended when a stop is raised.  A process may send the program that runs it a signal
that asks it to stop.
-/

namespace SprayWatch

open Files (Tree)

/-- A machine: its clock in milliseconds, its files, how long a command may take, and the requests to
stop that will come in, each with the signal that brings it if there is one. -/
structure Machine where
  clock : Nat
  files : Tree
  execTimeout : Nat
  requests : List (Nat × Option Nat)

namespace Machine

open Supervision (Watching Heard Round Verdict Finish Deed)

def start (files : Tree) (execTimeout : Nat) : Machine := ⟨0, files, execTimeout, []⟩

def deliver (requests : List (Nat × Option Nat)) : List Happening :=
  requests.flatMap fun r =>
    match r.2 with
    | some signal => [.logged (.of .warning "core" ["Stopping on", signalName signal]), .stopAsked]
    | none => [.stopAsked]

def dueRequests (m : Machine) : List (Nat × Option Nat) × Machine :=
  (m.requests.filter fun r => r.1 ≤ m.clock,
    { m with requests := m.requests.filter fun r => ¬ r.1 ≤ m.clock })

/-! ## Runs -/

/-- What is heard of a performance within a tick, and the moment then. -/
def hear (p : Performance) (isOpen : Bool) (clock : Nat) : Heard × Nat :=
  if !isOpen then (.nothing, clock)
  else
    match p.lines with
    | (moment, l) :: _ =>
      if moment ≤ clock + Supervision.tick then (.line l, max clock moment)
      else (.nothing, clock + Supervision.tick)
    | [] =>
      match p.closes with
      | some moment =>
        if moment ≤ clock + Supervision.tick then (.closed, max clock moment)
        else (.nothing, clock + Supervision.tick)
      | none => (.nothing, clock + Supervision.tick)

def roundAt (p : Performance) (w : Watching) (raised : Bool) (clock : Nat) : Round :=
  let (heard, later) := hear p w.isOpen clock
  let exit := (p.exit.filter fun e => e.1 ≤ later).map Prod.snd
  ⟨raised, clock, heard, .ok exit, later, later⟩

/-- When the next round begins: with nothing to listen to, a tick is waited for the exit. -/
def afterRound (w : Watching) (r : Round) : Nat :=
  if !w.isOpen && w.exit.isNone then r.later + Supervision.tick else r.later

def supervise (watch : Watch) (giveUpAt : Option Nat) (display : String) :
    Nat → Performance → Watching → Bool → Machine → Course Ending × Machine
  | 0, _, _, _, m => (⟨[], some (.failed .interrupted)⟩, m)
  | n + 1, p, w, raised, m =>
    let (due, m) := m.dueRequests
    let raised := raised || (watch.stoppable && !due.isEmpty)
    let news := deliver due
    if giveUpAt.any fun moment => moment ≤ m.clock then (⟨news, none⟩, m)
    else
      let r := roundAt p w raised m.clock
      match w.round r with
      | (_, .finished f) =>
        let records : List Happening := if f = .timedOut then
            [.logged (.of .warning "runner" ["Watchdog fired for", display])] else []
        let sent : List (Nat × Option Nat) := if f.wasTerminated then
            p.signals.map fun s => (s.1, some s.2) else []
        let clock := match w.opening? r.stopRaised r.clock with
          | some _ => m.clock
          | none => r.later
        (⟨news ++ records, some f.ending⟩,
          { m with clock := clock, requests := m.requests.filter fun r => !sent.contains r })
      | (deeds, .goesOn w') =>
        let lines := deeds.filterMap Deed.line?
        let p := { p with lines := p.lines.drop lines.length }
        let m := { m with clock := afterRound w' r }
        let (course, m) := supervise watch giveUpAt display n p w' raised m
        (⟨news ++ lines.map .line ++ course.happenings, course.ending⟩, m)

/-- How far ahead a process is worked out: past the moment at which it would be ended. -/
def horizonAfter (m : Machine) : Nat := m.clock + m.execTimeout + 10 * Supervision.drainGrace

def roundLimit (m : Machine) (p : Performance) : Nat :=
  p.lines.length + m.execTimeout / Supervision.tick + 40

def run (c : Command) (watch : Watch) (m : Machine) : Course Ending × Machine :=
  let began : Happening := .logged (.of .trace "runner" ["Executing", c.display])
  match imageOf m.files usualSearchPath c.executable.text c.args with
  | .error fault => (⟨[began], some (.failed (.io fault))⟩, m)
  | .ok image =>
    let p := perform m.files m.clock m.horizonAfter image
    let requests := p.signals.map fun s => (s.1, some s.2)
    let m := { m with files := p.files, requests := m.requests ++ requests }
    let (course, m) := supervise watch (watch.patience.map (m.clock + ·)) c.display
      (m.roundLimit p) p (.start (m.clock + m.execTimeout)) watch.raised m
    (⟨began :: course.happenings, course.ending⟩, m)

/-! ## Pauses -/

/-- Sleeps, until it is over or a request to stop comes in or the patience ends. -/
def pause (ms : Nat) (watch : Watch) (m : Machine) : Course Unit × Machine :=
  if watch.raised then (⟨[], some ()⟩, m)
  else
    let finish := m.clock + ms
    let lasting := match watch.patience with
      | some p => min finish (m.clock + p)
      | none => finish
    let stop? := (m.requests.filterMap fun r => if r.1 < lasting then some r.1 else none).min?
    match stop? with
    | some moment =>
      let (due, m) := dueRequests { m with clock := max m.clock moment }
      (⟨deliver due, some ()⟩, m)
    | none =>
      match watch.patience with
      | some p =>
        if m.clock + p ≤ finish then (⟨[], none⟩, { m with clock := m.clock + p })
        else (⟨[], some ()⟩, { m with clock := finish })
      | none => (⟨[], some ()⟩, { m with clock := finish })

def remove (dir : Path) (m : Machine) : Except IoFault Unit × Machine :=
  let (result, files) := m.files.remove dir
  (result, { m with files := files })

def site : Site Machine where
  run := run
  pause := pause
  clock := clock
  remove := remove
  localAddress := fun _ => .ok "127.0.0.1"

end Machine

end SprayWatch
