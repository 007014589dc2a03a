import SprayWatch.Mask.Basic
/-!
# Masks that do not read

A mask is shown to the user as a regular expression, anchored at both ends.  Two things can be wrong
with it: a range runs backwards, or a group `[!]` excludes nothing, so that its bracket never closes.
The report quotes the expression and points at the place.
-/

namespace SprayWatch.Mask

def isSpecial (c : Char) : Bool :=
  "\\.+*?()|[]\x7b\x7d^$#&-~".toList.contains c

def isSpecialInGroup (c : Char) : Bool :=
  c == '\\' || c == '[' || c == '^'

def showBody (body : List Char) : List Char :=
  body.flatMap fun c => if isSpecialInGroup c then ['\\', c] else [c]

def Token.show : Token → List Char
  | .anyText => ['.', '*']
  | .anyChar => ['.']
  | .exactly c => if isSpecial c then ['\\', c] else [c]
  | .group negated body => ['['] ++ (if negated then ['^'] else []) ++ showBody body ++ [']']

def expression (ts : List Token) : List Char :=
  ['^'] ++ ts.flatMap Token.show ++ ['$']

/-- What can be wrong with a mask. -/
inductive Defect where
  | backwardRange
  | unclosedGroup
  deriving Repr, DecidableEq

def Defect.message : Defect → String
  | .backwardRange => "invalid character class range, the start must be <= the end"
  | .unclosedGroup => "unclosed character class"

/-- A mask that does not read: its expression, and the part of it that is to blame. -/
structure Fault where
  shown : List Char
  start : Nat
  stop : Nat
  defect : Defect
  deriving Repr, DecidableEq

/-- Line and column, from one, of the place after these characters. -/
def lineColumn (cs : List Char) : Nat × Nat :=
  cs.foldl (fun p c => if c = '\n' then (p.1 + 1, 1) else (p.1, p.2 + 1)) (1, 1)

/-- The carets below a stretch that starts at one column and ends before another. -/
def carets (first past : Nat) : String :=
  String.ofList (List.replicate (first - 1) ' ' ++ List.replicate (max 1 (past - first)) '^')

def dropReturn (line : String) : String :=
  if line.toList.getLast? = some '\r' then String.ofList line.toList.dropLast else line

/-- The lines of a text; a line feed at its very end begins no further line. -/
def textLines (s : String) : List String :=
  let lines := s.splitOn "\n"
  let lines := if lines.getLast? = some "" then lines.dropLast else lines
  lines.map dropReturn

def padLeft (width n : Nat) : String :=
  let digits := toString n
  String.ofList (List.replicate (width - digits.length) ' ') ++ digits

def Fault.messageOfLines (f : Fault) : String :=
  let (line, column) := lineColumn (f.shown.take f.start)
  let (endLine, endColumn) := lineColumn (f.shown.take f.stop)
  let divider := String.ofList (List.replicate 79 '~')
  let lines := textLines (String.ofList f.shown)
  let width := (toString lines.length).length
  let oneLine := line == endLine
  let numbered := (lines.zipIdx 1).map fun p =>
    padLeft width p.2 ++ ": " ++ p.1 ++ "\n" ++
      (if oneLine && p.2 == line then
        String.ofList (List.replicate (width + 2) ' ') ++ carets column endColumn ++ "\n"
      else "")
  let place :=
    if oneLine then ""
    else s!"on line {line} (column {column}) through line {endLine} (column {endColumn - 1})\n"
  "regex parse error:\n" ++ divider ++ "\n" ++ String.join numbered ++ divider ++ "\n" ++ place ++
    "error: " ++ f.defect.message

def Fault.message (f : Fault) : String :=
  if f.shown.contains '\n' then f.messageOfLines
  else
    "regex parse error:\n    " ++ String.ofList f.shown ++ "\n    " ++
      carets (f.start + 1) (f.stop + 1) ++ "\nerror: " ++ f.defect.message

/-- What reading the tokens has found so far. -/
structure Reading where
  /-- how much of the expression has been passed -/
  passed : Nat
  /-- the places read, newest first -/
  places : List Place
  /-- the last group that never closes, by its place in the expression -/
  unclosed : Option Nat

/-- Reads one more token of a mask that is shown as `shown`. -/
def Reading.next (shown : List Char) (r : Reading) (t : Token) : Except Fault Reading :=
  let after (p : Place) : Reading :=
    { r with passed := r.passed + t.show.length, places := p :: r.places }
  match t with
  | .anyText => .ok (after .anyText)
  | .anyChar => .ok (after .anyChar)
  | .exactly c => .ok (after (.exactly c))
  | .group negated body =>
    if negated && body.isEmpty then
      .ok { after .anyChar with unclosed := some r.passed }
    else
      match CharSet.ofBody body with
      | .ok set => .ok (after (.oneOf negated set))
      | .error b =>
        let start := r.passed + (if negated then 2 else 1) + (showBody b.before).length
        .error ⟨shown, start, start + (showBody [b.first, '-', b.last]).length, .backwardRange⟩

def compile (mask : String) : Except Fault Pattern := do
  let ts := tokens mask.toList
  let shown := expression ts
  let r ← ts.foldlM (Reading.next shown) ⟨1, [], none⟩
  match r.unclosed with
  | some start => .error ⟨shown, start, start + 3, .unclosedGroup⟩
  | none => .ok ⟨r.places.reverse⟩

end SprayWatch.Mask
