import SprayWatch.Machine.Image
import SprayWatch.Machine.Utility
import SprayWatch.Shell.Pattern
import SprayWatch.Shell.Script
/-!
# The state of a shell

The variables, arguments, functions and streams of a process that runs a script, and what becomes of
the script next.
-/

namespace SprayWatch.Shell

open Machine (World Work Streams Outlet Fate Circumstances)

/-- What becomes of a script: it goes on, or leaves a number of loops, or goes on with the next round
of one, or leaves a function, or ends. -/
inductive Flow where
  | on
  | leaving (loops : Nat)
  | skipping (loops : Nat)
  | returning
  | ended (fate : Fate)
  deriving Repr, DecidableEq

/-- A shell: what it is called, its arguments and variables, which of these other programs see and
which never change, the functions, the streams and the directory, the numbers of its process and of the
first one of the script, the code of the last command, the last process left to itself, what becomes of
the script, the actions on signals and the signals that came in, its options, how many loops and tests
are under way, the variables as they were before the function that is under way, whether the command is
the last one, and its line. -/
structure Interpreter where
  name : String
  args : List String
  vars : List (String × String)
  exported : List String
  fixed : List String
  functions : List (String × Command)
  streams : Streams
  here : Files.Place
  pid : Nat
  mainPid : Nat
  code : Nat
  lastJob : Option Nat
  flow : Flow
  traps : List (String × String)
  pending : List String
  stopsOnFailure : Bool
  insistsOnValues : Bool
  showsCommands : Bool
  loops : Nat
  conditions : Nat
  outerVars : Option (List (String × Option String))
  isLast : Bool
  line : Nat

/-- A script that runs, and the world in which it does. -/
structure State where
  shell : Interpreter
  world : World

/-- Something that a running script does. -/
abbrev Run := StateM State

/-- The variables that every program sees from the beginning. -/
def usualVariables : List (String × String) :=
  [("HOME", "/root"), ("PATH", Machine.usualSearchPath)]

/-- A shell that has not run anything, with the variables that the program that runs it exports. -/
def Interpreter.start (name : String) (args : List String) (seen : List (String × String))
    (streams : Streams) (here : Files.Place) (pid parent : Nat) : Interpreter :=
  let own := [("PWD", (Files.Tree.pathOf here).text), ("PPID", toString parent), ("IFS", " \t\n"),
    ("OPTIND", "1")]
  { name := name, args := args
    vars := own ++ seen.filter fun v => (own.lookup v.1).isNone
    exported := seen.map Prod.fst, fixed := [], functions := [], streams := streams, here := here
    pid := pid, mainPid := pid, code := 0, lastJob := none, flow := .on, traps := [], pending := []
    stopsOnFailure := false, insistsOnValues := false, showsCommands := false, loops := 0
    conditions := 0, outerVars := none, isLast := false, line := 1 }

def Interpreter.seen (s : Interpreter) : List (String × String) :=
  s.vars.filter fun v => s.exported.contains v.1

namespace Run

def shell : Run Interpreter := return (← get).shell

def changeShell (f : Interpreter → Interpreter) : Run Unit :=
  modify fun s => { s with shell := f s.shell }

def work {α : Type} (x : Work α) : Run α :=
  modifyGet fun s =>
    let (a, w) := x.run s.world
    (a, { s with world := w })

def clock : Run Nat := return (← get).world.clock

def setClock (moment : Nat) : Run Unit :=
  modify fun s => { s with world := { s.world with clock := moment } }

def circumstances : Run Circumstances := do
  let s ← shell
  return ⟨s.pid, s.streams, s.here⟩

def write (fd : Nat) (bytes : List UInt8) : Run Unit := do
  let s ← shell
  work (Work.write (s.streams.outlet fd) s.pid bytes)

def complain (message : String) : Run Unit := do
  let s ← shell
  write 2 (Text.toBytes (s.name ++ ": " ++ toString s.line ++ ": " ++ message ++ "\n"))

def setCode (n : Nat) : Run Unit := changeShell fun s => { s with code := n }

def setFlow (f : Flow) : Run Unit := changeShell fun s => { s with flow := f }

def isOn : Run Bool := return (← shell).flow == .on

def valueOf? (name : String) : Run (Option String) := return (← shell).vars.lookup name

def giveUp (message : String) : Run Unit := do
  complain message
  setFlow (.ended (.exited 2))

def setVariable (name value : String) : Run Unit := do
  if (← shell).fixed.contains name then giveUp (name ++ ": is read only")
  else changeShell fun s => { s with vars := (name, value) :: s.vars.filter fun v => v.1 ≠ name }

def unsetVariable (name : String) : Run Unit :=
  changeShell fun s => { s with vars := s.vars.filter fun v => v.1 ≠ name }

/-- Gives a variable back the value that it had, or takes its value away. -/
def restore (name : String) : Option String → Run Unit
  | some v => changeShell fun s => { s with vars := (name, v) :: s.vars.filter fun v => v.1 ≠ name }
  | none => unsetVariable name

def note (fate : Fate) : Run Unit := do
  match fate with
  | .killed signal =>
    if let some text := Machine.signalText? signal then write 2 (Text.toBytes (text ++ "\n"))
  | _ => pure ()
  match fate.code? with
  | some n => setCode n
  | none => setFlow (.ended .never)

/-- Counts one more command; when there have been too many, or the horizon is passed, the script is
given up as one that never ends. -/
def count : Run Unit := do
  let s ← get
  if s.world.budget = 0 ∨ s.world.horizon < s.world.clock then setFlow (.ended .never)
  else set { s with world := { s.world with budget := s.world.budget - 1 } }

def tree : Run Files.Tree := do
  let s ← get
  return { s.world.files with here := s.shell.here }

/-! ## Parameters -/

def parameter? (name : String) : Run (Option String) := do
  let s ← shell
  match name with
  | "0" => return some s.name
  | "#" => return some (toString s.args.length)
  | "?" => return some (toString s.code)
  | "$" => return some (toString s.mainPid)
  | "!" => return s.lastJob.map toString
  | "-" => return some ""
  | "@" | "*" => return if s.args.isEmpty then none else some (String.intercalate " " s.args)
  | _ =>
    match name.toNat? with
    | some n => return s.args[n - 1]?
    | none => return s.vars.lookup name

/-! ## Fields -/

end Run

/-- A piece of a word that has been expanded: a character, which may be quoted and may separate
fields; a quoted nothing, which makes a field although it has no characters; a gap between fields. -/
inductive Piece where
  | glyph (g : Glyph) (splits : Bool)
  | nothing
  | gap
  deriving Repr, DecidableEq

def piecesOf (isQuoted splits : Bool) (text : String) : List Piece :=
  text.toList.map fun c => .glyph ⟨c, isQuoted⟩ splits

def fieldsOf (separators : List Char) : Option (List Glyph) → List Piece → List (List Glyph)
  | field, [] => field.toList
  | field, .nothing :: ps => fieldsOf separators (some (field.getD [])) ps
  | field, .gap :: ps => field.toList ++ fieldsOf separators none ps
  | field, .glyph g splits :: ps =>
    if splits && !g.isQuoted && separators.contains g.char then
      if g.char = ' ' ∨ g.char = '\t' ∨ g.char = '\n' then
        field.toList ++ fieldsOf separators none ps
      else field.getD [] :: fieldsOf separators none ps
    else fieldsOf separators (some (field.getD [] ++ [g])) ps

def glyphsOf (ps : List Piece) : List Glyph :=
  ps.filterMap fun
    | .glyph g _ => some g
    | .nothing => none
    | .gap => some ⟨' ', false⟩

def glyphText (gs : List Glyph) : String := String.ofList (gs.map Glyph.char)

/-- The pieces of a list of arguments, each a field of its own. -/
def argumentPieces (isQuoted : Bool) : List String → List Piece
  | [] => []
  | [a] => one a
  | a :: as => one a ++ [.gap] ++ argumentPieces isQuoted as
where
  one (a : String) : List Piece :=
    if isQuoted && a.isEmpty then [.nothing] else piecesOf isQuoted (!isQuoted) a

def cutAtSlashes : List Glyph → List (List Glyph)
  | [] => [[]]
  | g :: gs =>
    if g.char = '/' then [] :: cutAtSlashes gs
    else
      match cutAtSlashes gs with
      | [] => [[g]]
      | p :: ps => (g :: p) :: ps

/-- The paths of files that match a pattern, given name by name; `front` is the path so far. -/
def matchingPaths (t : Files.Tree) (front : String) : List (List Glyph) → List String
  | [] => []
  | [last] =>
    if isPattern last then
      (namesIn t front).filterMap fun n =>
        if shows last n && fits last n.toList then some (front ++ n) else none
    else
      let path := front ++ glyphText last
      if t.isThere ⟨path⟩ then [path] else []
  | p :: ps =>
    if isPattern p then
      (namesIn t front).flatMap fun n =>
        if shows p n && fits p n.toList then matchingPaths t (front ++ n ++ "/") ps else []
    else matchingPaths t (front ++ glyphText p ++ "/") ps
where
  /-- The names in a directory. -/
  namesIn (t : Files.Tree) (front : String) : List String :=
    match t.placeOf true ⟨if front = "" then "." else front⟩ with
    | .ok place => t.entries place
    | .error _ => []
  /-- Hidden files are matched only by a pattern that begins with a dot. -/
  shows (p : List Glyph) (n : String) : Bool :=
    !n.startsWith "." || (p.head?.map Glyph.char) = some '.'

/-- What a field stands for: the files that match it, or itself. -/
def pathsOf (t : Files.Tree) (field : List Glyph) : List String :=
  if isPattern field then
    match matchingPaths t "" (cutAtSlashes field) with
    | [] => [glyphText field]
    | paths => paths
  else [glyphText field]

def Cut.apply (cut : Cut) (pattern : List Glyph) (value : String) : String :=
  let cs := value.toList
  let lengths := List.range (cs.length + 1)
  let lengths := if cut.longest then lengths.reverse else lengths
  let found := lengths.find? fun n =>
    fits pattern (if cut.atFront then cs.take n else cs.drop (cs.length - n))
  match found with
  | none => value
  | some n => String.ofList (if cut.atFront then cs.drop n else cs.take (cs.length - n))

end SprayWatch.Shell
