import SprayWatch.Shell.Execution
import SprayWatch.Text.Lines
/-!
# Performances

What whoever watches a process sees of it: lines of output with the moments at which they come in, the
moments at which the output is closed and at which the process exits, and the signals that it sends
back.
-/

namespace SprayWatch.Machine

open Files (Tree Place)

/-- The lines of output, when they are closed, the exit with the status that is left, the signals
sent to whoever watches, and the files afterwards. -/
structure Performance where
  lines : List (Nat × String)
  closes : Option Nat
  exit : Option (Nat × Nat)
  signals : List (Nat × Nat)
  files : Tree

/-- The lines that are complete after more bytes came in at a moment, and the beginning of the next
one. -/
def completed (moment : Nat) (segments : List (List UInt8)) : List (Nat × String) × List UInt8 :=
  match segments with
  | [] => ([], [])
  | s :: rest =>
    let (lines, left) := completed moment rest
    if s.getLast? = some 10 then ((moment, Text.lineOf s) :: lines, left) else (lines, s ++ left)

/-- The lines of one channel; what comes after the last line end is a line when the channel is
closed. -/
def channelLines (closes : Option Nat) : List UInt8 → List (Nat × List UInt8) → List (Nat × String)
  | front, [] =>
    match closes with
    | some moment => if front.isEmpty then [] else [(moment, Text.lineOf front)]
    | none => []
  | front, (moment, bytes) :: rest =>
    let (lines, left) := completed moment (Text.segments (front ++ bytes))
    lines ++ channelLines closes left rest

/-- When a channel is closed: when all who keep it open have ended. -/
def closing (holders : List (Nat × Fate)) : Option Nat :=
  holders.foldl (fun latest h =>
    match latest, h.2 with
    | none, _ => none
    | _, .never => none
    | some l, _ => some (max l h.1)) (some 0)

def later? : Option Nat → Option Nat → Option Nat
  | some a, some b => some (max a b)
  | _, _ => none

def Performance.ofWorld (fate : Fate) (w : World) : Performance :=
  let events := w.written.reverse.mergeSort fun a b => decide (a.time ≤ b.time)
  let holders (c : Nat) : List (Nat × Fate) :=
    (w.clock, fate) :: (w.processes.filter fun p => p.channels.contains c).map fun p =>
      (p.finish, p.fate)
  let linesOn (c : Nat) : List (Nat × String) :=
    channelLines (closing (holders c)) []
      ((events.filter fun e => e.channel = c).map fun e => (e.time, e.bytes))
  let merged := (linesOn outputChannel ++ linesOn errorChannel).mergeSort
    fun a b => decide (a.1 ≤ b.1)
  ⟨merged, later? (closing (holders outputChannel)) (closing (holders errorChannel)),
    fate.waitStatus?.map fun s => (w.clock, s),
    (w.signals.filter fun s => s.target = watcherPid).map fun s => (s.time, s.signal), w.files⟩

def perform (files : Tree) (clock horizon : Nat) (image : Image) : Performance :=
  let streams : Streams := [(0, .nowhere), (1, .channel outputChannel), (2, .channel errorChannel)]
  let (fate, w) := Shell.runProcess streams files.here image (World.start files clock horizon)
  .ofWorld fate w

end SprayWatch.Machine
