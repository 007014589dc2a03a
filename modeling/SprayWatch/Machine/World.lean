import SprayWatch.Files.Tree
/-!
# The world of processes

A world has a clock, files and processes that write.  Nothing takes time but waiting.  What processes
do is worked out ahead, with the moment of everything that is written, so that whoever watches them
can look at any moment later.

What a process writes goes into channels.  Two of them belong to whoever watches, one for output and
one for error messages; the others are pipes between processes, or are read by the process that asked
for the output.
-/

namespace SprayWatch.Machine

open Files (Tree Place)

/-- Where a numbered stream of a process leads. -/
inductive Outlet where
  | channel (c : Nat)
  | nowhere
  | file (p : Place)
  | source (i : Nat)
  deriving Repr, DecidableEq

/-- The streams of a process. -/
abbrev Streams := List (Nat × Outlet)

/-- How a process ends, if it does. -/
inductive Fate where
  | exited (code : Nat)
  | killed (signal : Nat)
  | never
  deriving Repr, DecidableEq

/-- The status that the operating system keeps of a process that has ended. -/
def Fate.waitStatus? : Fate → Option Nat
  | .exited code => some (code % 256 * 256)
  | .killed signal => some signal
  | .never => none

def Fate.code? : Fate → Option Nat
  | .exited code => some code
  | .killed signal => some (128 + signal)
  | .never => none

/-- Bytes that a process wrote to a channel. -/
structure Written where
  time : Nat
  writer : Nat
  channel : Nat
  bytes : List UInt8
  deriving Repr, DecidableEq

/-- A process that was left to itself: the channels that it keeps open, and its end. -/
structure Process where
  pid : Nat
  channels : List Nat
  finish : Nat
  fate : Fate
  deriving Repr, DecidableEq

/-- A signal that one process sends to another. -/
structure Sent where
  time : Nat
  target : Nat
  signal : Nat
  deriving Repr, DecidableEq

/-- Input with the moments at which it comes in, and the moment at which it ends, if it does. -/
structure Source where
  chunks : List (Nat × List UInt8)
  closes : Option Nat
  deriving Repr, DecidableEq

/-- A world: the clock and the moment up to which things matter, the files, what has been written, the
processes left to themselves, the inputs, the next numbers for channels and processes, the signals on
their way, and how many commands may still be worked out. -/
structure World where
  clock : Nat
  horizon : Nat
  files : Tree
  written : List Written
  processes : List Process
  sources : List Source
  nextChannel : Nat
  nextPid : Nat
  signals : List Sent
  budget : Nat

def outputChannel : Nat := 0
def errorChannel : Nat := 1

def watcherPid : Nat := 100

/-- How many commands are worked out at most; a process that needs more never ends. -/
def workLimit : Nat := 400000

/-- A world in which nothing runs yet; what happens after the horizon does not matter. -/
def World.start (files : Tree) (clock horizon : Nat) : World :=
  ⟨clock, horizon, files, [], [], [], 2, 101, [], workLimit⟩

/-- What processes do in a world. -/
abbrev Work := StateM World

def Streams.outlet (s : Streams) (fd : Nat) : Outlet := (s.lookup fd).getD .nowhere

def Streams.lead (s : Streams) (fd : Nat) (o : Outlet) : Streams :=
  (fd, o) :: s.filter fun e => e.1 ≠ fd

def Streams.channels (s : Streams) : List Nat :=
  s.filterMap fun e =>
    match e.2 with
    | .channel c => some c
    | _ => none

namespace Work

def append (t : Tree) (p : Place) (bytes : List UInt8) : Tree :=
  match t.nodeAt? p with
  | some (.file mode old) => t.put p (.file mode (old ++ bytes))
  | some _ => t
  | none => t.put p (.file 0o644 bytes)

def write (o : Outlet) (writer : Nat) (bytes : List UInt8) : Work Unit :=
  modify fun w =>
    if bytes.isEmpty then w
    else
      match o with
      | .channel c => { w with written := ⟨w.clock, writer, c, bytes⟩ :: w.written }
      | .file p => { w with files := append w.files p bytes }
      | _ => w

def waitUntil (moment : Nat) : Work Unit :=
  modify fun w => { w with clock := max w.clock moment }

def newChannel : Work Nat :=
  modifyGet fun w => (w.nextChannel, { w with nextChannel := w.nextChannel + 1 })

def newPid : Work Nat :=
  modifyGet fun w => (w.nextPid, { w with nextPid := w.nextPid + 1 })

def newSource (s : Source) : Work Outlet :=
  modifyGet fun w => (.source w.sources.length, { w with sources := w.sources ++ [s] })

/-- Takes what was written to a channel out of the world, the oldest first. -/
def collect (c : Nat) : Work (List (Nat × List UInt8)) :=
  modifyGet fun w =>
    let mine := w.written.filter fun e => e.channel = c
    (mine.reverse.map fun e => (e.time, e.bytes),
      { w with written := w.written.filter fun e => e.channel ≠ c })

def takeInput (o : Outlet) : Work Source := do
  let w ← get
  match o with
  | .source i =>
    match w.sources[i]? with
    | some s =>
      set { w with sources := w.sources.set i ⟨[], s.closes⟩ }
      return s
    | none => return ⟨[], some w.clock⟩
  | .file p =>
    match w.files.nodeAt? p with
    | some (.file _ bytes) => return ⟨[(w.clock, bytes)], some w.clock⟩
    | _ => return ⟨[], some w.clock⟩
  | _ => return ⟨[], some w.clock⟩

end Work

/-! ## Signals -/

def signalNames : List (String × Nat) :=
  [("HUP", 1), ("INT", 2), ("QUIT", 3), ("ILL", 4), ("TRAP", 5), ("ABRT", 6), ("BUS", 7), ("FPE", 8),
    ("KILL", 9), ("USR1", 10), ("SEGV", 11), ("USR2", 12), ("PIPE", 13), ("ALRM", 14), ("TERM", 15),
    ("CHLD", 17), ("CONT", 18), ("STOP", 19), ("TSTP", 20), ("TTIN", 21), ("TTOU", 22), ("URG", 23),
    ("XCPU", 24), ("WINCH", 28)]

/-- A signal by its name, with or without the usual beginning, or its number. -/
def signal? (s : String) : Option Nat :=
  let name := if s.startsWith "SIG" then (s.drop 3).toString else s
  match signalNames.lookup name with
  | some n => some n
  | none => s.toNat?

def signalName (n : Nat) : String :=
  match signalNames.find? fun e => e.2 = n with
  | some e => "SIG" ++ e.1
  | none => "SIG" ++ toString n

/-- What is said of a process that a signal has ended; nothing of the quiet ones. -/
def signalText? (n : Nat) : Option String :=
  [(1, "Hangup"), (3, "Quit"), (4, "Illegal instruction"), (5, "Trace/breakpoint trap"), (6, "Aborted"),
    (7, "Bus error"), (8, "Floating point exception"), (9, "Killed"), (10, "User defined signal 1"),
    (11, "Segmentation fault"), (12, "User defined signal 2"), (14, "Alarm clock"),
    (15, "Terminated"), (24, "CPU time limit exceeded")].lookup n

/-- What a signal does to a process that has not said otherwise. -/
def Fate.ofSignal? (n : Nat) : Option Fate :=
  if n = 0 ∨ n = 17 ∨ n = 18 ∨ n = 23 ∨ n = 28 then none
  else if 19 ≤ n ∧ n ≤ 22 then some .never
  else some (.killed n)

end SprayWatch.Machine
