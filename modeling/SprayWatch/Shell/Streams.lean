import SprayWatch.Shell.State
/-!
# Streams of a shell

Files are opened under the numbers of streams, and lines are read from them and given to variables.
-/

namespace SprayWatch.Shell

open Machine (Work Outlet)

def separators : Run (List Char) := return ((← Run.valueOf? "IFS").getD " \t\n").toList

def leadStream (fd : Nat) (o : Outlet) : Run Unit :=
  Run.changeShell fun s => { s with streams := s.streams.lead fd o }

/-- Opens a file for writing; its old contents stay only when more is to be appended. -/
def openForWriting (append : Bool) (name : String) : Run (Option Outlet) := do
  if name = "/dev/null" then return some .nowhere
  else if name = "/dev/stderr" then return some ((← Run.shell).streams.outlet 2)
  else if name = "/dev/stdout" then return some ((← Run.shell).streams.outlet 1)
  else
    let t ← Run.tree
    let path : Path := ⟨name⟩
    let there := t.find path
    match there with
    | .ok .dir =>
      Run.complain ("cannot create " ++ name ++ ": Is a directory")
      return none
    | .ok (.file mode bytes) =>
      match t.placeOf true path with
      | .ok place =>
        let bytes := if append then bytes else []
        modify fun s => { s with world := { s.world with
          files := s.world.files.put place (.file mode bytes) } }
        return some (.file place)
      | .error _ => return none
    | _ =>
      let names := Files.Tree.namesOf name
      let front := String.intercalate "/" names.dropLast
      let start := if names.length = 1 then "." else if front = "" then "/" else front
      match t.placeOf true ⟨start⟩, names.getLast? with
      | .ok dir, some last =>
        if last = "" ∨ !(t.nodeAt? dir).any Files.Node.isDir then
          Run.complain ("cannot create " ++ name ++ ": Directory nonexistent")
          return none
        else
          let place := dir ++ [last]
          modify fun s => { s with world := { s.world with
            files := s.world.files.put place (.file 0o644 []) } }
          return some (.file place)
      | _, _ =>
        Run.complain ("cannot create " ++ name ++ ": Directory nonexistent")
        return none

def openForReading (name : String) : Run (Option Outlet) := do
  if name = "/dev/null" then return some .nowhere
  else
    let now ← Run.clock
    match (← Run.tree).read ⟨name⟩ with
    | .ok bytes => return some (← Run.work (Work.newSource ⟨[(now, bytes)], some now⟩))
    | .error _ =>
      Run.complain ("cannot open " ++ name ++ ": No such file")
      return none

/-- The first line of some chunks, the moment at which it is complete, whether it has an end, and the
chunks left. -/
def firstLine (now : Nat) : List (Nat × List UInt8) → List UInt8 × Nat × Bool × List (Nat × List UInt8)
  | [] => ([], now, false, [])
  | (moment, bytes) :: rest =>
    let line := bytes.takeWhile (· != 10)
    match bytes.drop line.length with
    | _ :: left => (line, max now moment, true, if left.isEmpty then rest else (moment, left) :: rest)
    | [] =>
      let (more, moment', isWhole, left) := firstLine (max now moment) rest
      (line ++ more, moment', isWhole, left)

/-- Reads a line from an outlet: the line and whether it has an end, unless it never comes. -/
def readLine (o : Outlet) : Run (Option (List UInt8 × Bool)) := do
  match o with
  | .source i =>
    let s ← get
    match s.world.sources[i]? with
    | none => return some ([], false)
    | some source =>
      let (line, moment, isWhole, left) := firstLine s.world.clock source.chunks
      set { s with world := { s.world with sources := s.world.sources.set i ⟨left, source.closes⟩ } }
      if isWhole then
        Run.work (Work.waitUntil moment)
        return some (line, true)
      else
        match source.closes with
        | some closes =>
          Run.work (Work.waitUntil closes)
          return some (line, false)
        | none => return none
  | _ => return some ([], false)

/-- A line without the backslashes that protect its characters. -/
def unprotect : List Char → List Char
  | '\\' :: c :: rest => c :: unprotect rest
  | c :: rest => c :: unprotect rest
  | [] => []

/-- Gives the fields of a line to variables; the last gets all that is left. -/
def giveFields : List String → List Char → Run Unit
  | [], _ => return
  | [name], cs =>
    let blank (c : Char) : Bool := c == ' ' || c == '\t' || c == '\n'
    Run.setVariable name (String.ofList ((cs.dropWhile blank).reverse.dropWhile blank).reverse)
  | name :: names, cs => do
    let seps ← separators
    let cs := cs.dropWhile fun c => c == ' ' || c == '\t'
    let field := cs.takeWhile fun c => !seps.contains c
    Run.setVariable name (String.ofList field)
    giveFields names (cs.drop (field.length + 1))

/-- The output of commands, without the line ends at its end. -/
def outputText (bytes : List UInt8) : String :=
  Text.ofBytesLossy (bytes.reverse.dropWhile (· == 10)).reverse

end SprayWatch.Shell
