import SprayWatch.Json.Fault
import SprayWatch.Text.Utf8
/-!
# Reading JSON text

A cursor is a place in the text.  Values are read straight into what is wanted, so of two faults the
one that comes first in the text is reported.  A fault is blamed either on the place that the cursor
has reached or on the byte that it looks at.
-/

namespace SprayWatch.Json

/-- The bytes still to be read, and where they begin. -/
structure Cursor where
  rest : List UInt8
  line : Nat
  column : Nat
  deriving Repr, DecidableEq

namespace Cursor

def ofText (s : String) : Cursor := ⟨Text.toBytes s, 1, 0⟩

def position (c : Cursor) : Position := ⟨c.line, c.column⟩

def advance (c : Cursor) : Cursor :=
  match c.rest with
  | [] => c
  | b :: rest => if b = 10 then ⟨rest, c.line + 1, 0⟩ else ⟨rest, c.line, c.column + 1⟩

def isBlank (b : UInt8) : Bool := b = 32 || b = 10 || b = 9 || b = 13

def pastBlanks : List UInt8 → Nat → Nat → Cursor
  | [], line, column => ⟨[], line, column⟩
  | b :: rest, line, column =>
    if isBlank b then
      if b = 10 then pastBlanks rest (line + 1) 0 else pastBlanks rest line (column + 1)
    else ⟨b :: rest, line, column⟩

end Cursor

/-- Reads from the cursor on, or fails. -/
abbrev Reader (α : Type) := EStateM Fault Cursor α

def fail {α : Type} (cause : Cause) : Reader α := throw ⟨cause, none⟩

def failHere {α : Type} (cause : Cause) : Reader α := do
  throw ⟨cause, some (← get).position⟩

def failNext {α : Type} (cause : Cause) : Reader α := do
  throw ⟨cause, some (← get).advance.position⟩

/-- A fault that does not say where gets the place that has been reached by then. -/
def placed {α : Type} (r : Reader α) : Reader α := fun c =>
  match r c with
  | .error f c' => .error { f with position := f.position <|> some c'.position } c'
  | .ok a c' => .ok a c'

def peek? : Reader (Option UInt8) := do
  return (← get).rest.head?

def skip : Reader Unit := modify Cursor.advance

def next? : Reader (Option UInt8) := do
  let b ← peek?
  skip
  return b

def peekValue? : Reader (Option UInt8) := do
  modify fun c => Cursor.pastBlanks c.rest c.line c.column
  peek?

/-- How much is left to read: no loop turns more often than this. -/
def remaining : Reader Nat := do
  return (← get).rest.length + 1

/-- Reads a whole text, after which only blanks may follow. -/
def readAll {α : Type} (r : Reader α) (s : String) : Except Fault α :=
  let whole : Reader α := do
    let a ← r
    match ← peekValue? with
    | some _ => failNext .trailingCharacters
    | none => return a
  match whole (Cursor.ofText s) with
  | .ok a _ => .ok a
  | .error f _ => .error f

end SprayWatch.Json
