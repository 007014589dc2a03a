import SprayWatch.Shell.Course
import SprayWatch.Shell.Streams
import SprayWatch.Shell.Test
/-!
# Commands of the shell itself

The commands that a shell carries out without running other commands.  Each is given its arguments,
acts on the shell and sets its code.
-/

namespace SprayWatch.Shell

open Machine (Work)

namespace Builtin

/-! ## Output and conditions -/

def echo (args : List String) : Run Unit := do
  let (newline, args) := match args with
    | "-n" :: rest => (false, rest)
    | _ => (true, args)
  Run.write 1 (Machine.echoed true newline args)
  Run.setCode 0

def printf (args : List String) : Run Unit := do
  match if args.head? = some "--" then args.drop 1 else args with
  | format :: rest =>
    let written := Machine.formatted format rest
    written.faults.forM fun fault => Run.complain ("printf: " ++ fault.message)
    Run.write 1 written.bytes
    Run.setCode (Machine.FormatFault.code written.faults)
  | [] =>
    Run.complain "printf: usage: printf format [arg ...]"
    Run.setCode 2

def decideAs (name : String) (words : List String) : Run Unit := do
  match test (← Run.tree) (words.length + 1) words with
  | .ok b => Run.setCode (if b then 0 else 1)
  | .error fault =>
    Run.complain (name ++ ": " ++ fault.message)
    Run.setCode 2

def bracketed (args : List String) : Run Unit := do
  if args.getLast? = some "]" then decideAs "[" args.dropLast
  else
    Run.complain "[: missing ]"
    Run.setCode 2

/-! ## The course of the script -/

/-- Uses the number that is the first argument, or the usual one. -/
def withNumber (name : String) (usual : Nat) (args : List String) (f : Nat → Run Unit) : Run Unit :=
  match args with
  | [] => f usual
  | a :: _ =>
    match a.toNat? with
    | some n => f n
    | none => Run.giveUp (name ++ ": Illegal number: " ++ a)

def exit (args : List String) : Run Unit := do
  withNumber "exit" (← Run.shell).code args fun code => Run.setFlow (.ended (.exited (code % 256)))

def returnFrom (args : List String) : Run Unit := do
  withNumber "return" (← Run.shell).code args fun code => do
    Run.setCode code
    Run.setFlow .returning

/-- Leaves as many loops as the arguments say, or goes on with one of them. -/
def leaveLoops (name : String) (flow : Nat → Flow) (args : List String) : Run Unit := do
  Run.setCode 0
  let loops := (← Run.shell).loops
  withNumber name 1 args fun wanted =>
    if 0 < loops then Run.setFlow (flow (min wanted loops)) else return

def kill (args : List String) : Run Unit := do
  match args with
  | "-l" :: codes =>
    let names := codes.map fun c => conditionName (toString ((c.toNat?.getD 0) % 128))
    Run.write 1 (Text.toBytes (String.join (names.map fun n => n ++ "\n")))
    Run.setCode 0
  | args =>
    let (signal, targets) := signalArguments args
    match signal, targets with
    | some _, [] =>
      Run.complain ("kill: Usage: kill [-s sigspec | -signum | -sigspec] [pid | job]... or\n" ++
        "kill -l [exitstatus]")
      Run.setCode 2
    | some n, targets => Run.setCode (← sendAll n 0 targets)
    | none, _ =>
      Run.complain ("kill: Illegal option " ++ ((args.headD "").take 2).toString)
      Run.setCode 2

def wait (args : List String) : Run Unit := do
  if args.isEmpty then awaitAll
  else (args.filterMap String.toNat?).forM awaitProcess

def trap : List String → Run Unit
  | [] => Run.setCode 0
  | action :: names =>
    let names := names.map conditionName
    Run.changeShell fun s => { s with
      traps := (if action = "-" then [] else names.map fun n => (n, action)) ++
        s.traps.filter fun t => !names.contains t.1
      code := 0 }

/-! ## Arguments and variables -/

def shift (args : List String) : Run Unit := do
  let present := (← Run.shell).args
  withNumber "shift" 1 args fun n =>
    if present.length < n then Run.giveUp "shift: can't shift that many"
    else Run.changeShell fun s => { s with args := s.args.drop n, code := 0 }

def setOption (on : Bool) (c : Char) : Run Unit :=
  Run.changeShell fun s =>
    match c with
    | 'e' => { s with stopsOnFailure := on }
    | 'u' => { s with insistsOnValues := on }
    | 'x' => { s with showsCommands := on }
    | _ => s

def set (args : List String) : Run Unit := do
  Run.setCode 0
  match args with
  | [] => return
  | "--" :: rest => Run.changeShell fun s => { s with args := rest }
  | a :: rest =>
    if a.startsWith "-" || a.startsWith "+" then
      a.toList.forM (setOption (a.startsWith "-"))
      let rest := if rest.head? = some "--" then rest.drop 1 else rest
      if !rest.isEmpty && !a.toList.contains 'o' then
        Run.changeShell fun s => { s with args := rest }
    else Run.changeShell fun s => { s with args := args }

def unset (args : List String) : Run Unit :=
  let names := args.filter fun a => !a.startsWith "-"
  Run.changeShell fun s => { s with
    vars := s.vars.filter fun v => !names.contains v.1
    functions := s.functions.filter fun f => !names.contains f.1
    code := 0 }

/-- Makes the assignment of a declaration, if it has one; returns the name. -/
def declare (a : String) : Run String := do
  match a.splitOn "=" with
  | name :: value :: more =>
    Run.setVariable name (String.intercalate "=" (value :: more))
    return name
  | _ => return a

def declareAll (note : String → Interpreter → Interpreter) (args : List String) : Run Unit := do
  Run.setCode 0
  (args.filter fun a => !a.startsWith "-").forM fun a => do
    let name ← declare a
    Run.changeShell (note name)

def exportNames : List String → Run Unit :=
  declareAll fun name s => { s with exported := name :: s.exported }

def readonlyNames : List String → Run Unit :=
  declareAll fun name s => { s with fixed := name :: s.fixed }

/-- Has variables get back their values when the function returns. -/
def localNames (args : List String) : Run Unit := do
  Run.setCode 0
  match (← Run.shell).outerVars with
  | none => Run.giveUp "local: not in a function"
  | some _ =>
    args.forM fun a => do
      let name := (a.splitOn "=").headD ""
      let before := (← Run.shell).vars.lookup name
      Run.changeShell fun s => { s with
        outerVars := s.outerVars.map fun vs =>
          if (vs.lookup name).isSome then vs else (name, before) :: vs }
      let _ ← declare a

def read (args : List String) : Run Unit := do
  let names := args.filter fun a => !a.startsWith "-"
  match ← readLine ((← Run.shell).streams.outlet 0) with
  | none => Run.setFlow (.ended .never)
  | some (line, isWhole) =>
    let cs := (Text.ofBytesLossy line).toList
    let cs := if args.contains "-r" then cs else unprotect cs
    giveFields (if names.isEmpty then ["REPLY"] else names) cs
    Run.setCode (if isWhole then 0 else 1)

/-! ## Directories -/

def cd (args : List String) : Run Unit := do
  let goesBack := args.head? = some "-"
  let vars := (← Run.shell).vars
  let target := if goesBack then (vars.lookup "OLDPWD").getD ""
    else args.head?.getD ((vars.lookup "HOME").getD "/")
  let target := if target = "" then "." else target
  let t ← Run.tree
  match t.placeOf true ⟨target⟩ with
  | .error _ => refuse target
  | .ok place =>
    if (t.nodeAt? place).any Files.Node.isDir then
      Run.setVariable "OLDPWD" (Files.Tree.pathOf (← Run.shell).here).text
      Run.changeShell fun s => { s with here := place, code := 0 }
      Run.setVariable "PWD" (Files.Tree.pathOf place).text
      if goesBack then Run.write 1 (Text.toBytes ((Files.Tree.pathOf place).text ++ "\n"))
    else refuse target
where
  refuse (target : String) : Run Unit := do
    Run.complain ("cd: can't cd to " ++ target)
    Run.setCode 2

def pwd (_ : List String) : Run Unit := do
  Run.write 1 (Text.toBytes ((Files.Tree.pathOf (← Run.shell).here).text ++ "\n"))
  Run.setCode 0

def umask (args : List String) : Run Unit := do
  if args.isEmpty then Run.write 1 (Text.toBytes "0022\n")
  Run.setCode 0

/-! ## All of them -/

def succeed (_ : List String) : Run Unit := Run.setCode 0

def table : List (String × (List String → Run Unit)) :=
  [(":", succeed), ("true", succeed), ("false", fun _ => Run.setCode 1), ("echo", echo),
    ("printf", printf), ("test", decideAs "test"), ("[", bracketed), ("exit", exit),
    ("return", returnFrom), ("break", leaveLoops "break" .leaving),
    ("continue", leaveLoops "continue" .skipping), ("kill", kill), ("wait", wait), ("trap", trap),
    ("shift", shift), ("set", set), ("unset", unset), ("export", exportNames),
    ("readonly", readonlyNames), ("local", localNames), ("read", read), ("cd", cd), ("pwd", pwd),
    ("umask", umask), ("ulimit", succeed), ("hash", succeed), ("alias", succeed),
    ("unalias", succeed), ("jobs", succeed)]

/-- The commands for which assignments in front of them last. -/
def specialNames : List String :=
  [":", ".", "break", "continue", "eval", "exec", "exit", "export", "readonly", "return", "set", "shift",
    "times", "trap", "unset"]

def isSpecial (name : String) : Bool := specialNames.contains name

/-- Is it the name of a command of the shell itself, also of one that runs others? -/
def isBuiltin (name : String) : Bool :=
  isSpecial name || (table.lookup name).isSome || name = "command" || name = "type"

end Builtin

end SprayWatch.Shell
