import SprayWatch.Machine.World
import SprayWatch.Text.Lines
/-!
# Circumstances

What a program of the machine knows of the process that runs it, and what it can do there: read its
input and files, write, and complain.
-/

namespace SprayWatch.Machine

open Files (Tree Place)

/-- What a program knows of the process that runs it. -/
structure Circumstances where
  pid : Nat
  streams : Streams
  here : Place

namespace Circumstances

variable (c : Circumstances)

def out (bytes : List UInt8) : Work Unit := Work.write (c.streams.outlet 1) c.pid bytes

def complain (message : String) : Work Unit :=
  Work.write (c.streams.outlet 2) c.pid (Text.toBytes (message ++ "\n"))

def tree : Work Tree := return { (← get).files with here := c.here }

def changeFiles (f : Tree → Tree) : Work Unit :=
  modify fun w =>
    let t := f { w.files with here := c.here }
    { w with files := { t with here := w.files.here } }

/-- All that is left of the standard input, as it comes in. -/
def input : Work Source := do
  Work.takeInput (c.streams.outlet 0)

/-- The source that a name stands for: a file, or the standard input. -/
def named (program name : String) : Work (Option Source) := do
  if name = "-" then return some (← c.input)
  else if name = "/dev/zero" then
    return some ⟨[((← get).clock, List.replicate 1048576 0)], none⟩
  else
    match (← c.tree).read ⟨name⟩ with
    | .ok bytes => return some ⟨[((← get).clock, bytes)], some (← get).clock⟩
    | .error fault =>
      let text := (fault.message.splitOn " (").headD ""
      c.complain (program ++ ": " ++ name ++ ": " ++ text)
      return none

/-- The sources that arguments name; without arguments the standard input. -/
def sources (program : String) (names : List String) : Work (List (Option Source)) :=
  if names.isEmpty then return [some (← c.input)] else names.mapM (c.named program)

end Circumstances

def Source.await (s : Source) : Work Bool := do
  match s.closes with
  | some moment =>
    Work.waitUntil moment
    return true
  | none => return false

def Source.bytes (s : Source) : List UInt8 := s.chunks.flatMap Prod.snd

def gather (c : Circumstances) : List (Option Source) → Work (Option (List UInt8))
  | [] => return some []
  | none :: rest => gather c rest
  | some s :: rest => do
    if ← s.await then
      return (← gather c rest).map fun more => s.bytes ++ more
    else return none

def linesWithEnds (bytes : List UInt8) : List (List UInt8) := Text.segments bytes

def whole (c : Circumstances) (program : String) (names : List String)
    (f : List UInt8 → List UInt8) : Work Fate := do
  let sources ← c.sources program names
  match ← gather c sources with
  | some bytes =>
    c.out (f bytes)
    return .exited (if sources.all Option.isSome then 0 else 1)
  | none => return .never

end SprayWatch.Machine
