import SprayWatch.Failure
import SprayWatch.Path
import SprayWatch.Text.Utf8
/-!
# File trees

A tree of directories, files and symbolic links, and a directory in it from which relative paths
start.  A path leads through the tree name by name; links on the way are followed, as many as are
allowed.
-/

namespace SprayWatch.Files

/-- A place in the tree: the names on the way from the root, without links. -/
abbrev Place := List String

/-- What is at a place. -/
inductive Node where
  | dir
  | file (mode : Nat) (bytes : List UInt8)
  | link (target : String)
  deriving Repr, DecidableEq

def Node.isDir : Node → Bool
  | .dir => true
  | _ => false

/-- A tree, and the directory from which relative paths start. -/
structure Tree where
  nodes : List (Place × Node)
  here : Place
  deriving Repr, DecidableEq

namespace Tree

def empty : Tree := ⟨[], []⟩

def nodeAt? (t : Tree) (p : Place) : Option Node :=
  if p = [] then some .dir else (t.nodes.find? fun e => e.1 = p).map Prod.snd

/-- The tree with something put at a place, instead of what was there. -/
def put (t : Tree) (p : Place) (n : Node) : Tree :=
  { t with nodes := t.nodes.filter (fun e => e.1 ≠ p) ++ [(p, n)] }

def cut (t : Tree) (p : Place) : Tree :=
  { t with nodes := t.nodes.filter fun e => !p.isPrefixOf e.1 }

/-! ## Ways through the tree -/

def linkLimit : Nat := 40

def nameLimit : Nat := 255
def pathLimit : Nat := 4095

def parent (p : Place) : Place := p.dropLast

def namesOf (path : String) : List String := path.splitOn "/"

def startOf (here : Place) (path : String) : Place :=
  if path.toList.head? = some '/' then [] else here

/-- Follows names from a place.  A link at the very end is followed only on demand. -/
def walk (t : Tree) (follow : Bool) (links : Nat) (here : Place) : List String → Except IoFault Place
  | [] => .ok here
  | n :: rest =>
    if !(t.nodeAt? here).any Node.isDir then .error .notDirectory
    else if n = "" ∨ n = "." then walk t follow links here rest
    else if n = ".." then walk t follow links (parent here) rest
    else if nameLimit < n.utf8ByteSize then .error .nameTooLong
    else
      match t.nodeAt? (here ++ [n]) with
      | none => .error .notFound
      | some (.link target) =>
        if rest.isEmpty && !follow then .ok (here ++ [n])
        else
          match links with
          | 0 => .error .linkLoop
          | links + 1 => walk t follow links (startOf here target) (namesOf target ++ rest)
      | some _ => walk t follow links (here ++ [n]) rest
termination_by names => (links, names.length)

def placeOf (t : Tree) (follow : Bool) (p : Path) : Except IoFault Place :=
  if p.text.toList.contains '\x00' then .error .nulInName
  else if p.text = "" then .error .notFound
  else if pathLimit < p.text.utf8ByteSize then .error .nameTooLong
  else walk t follow linkLimit (startOf t.here p.text) (namesOf p.text)

def find (t : Tree) (p : Path) : Except IoFault Node := do
  let place ← t.placeOf true p
  match t.nodeAt? place with
  | some n => return n
  | none => .error .notFound

def isFile (t : Tree) (p : Path) : Bool :=
  match t.find p with
  | .ok (.file ..) => true
  | _ => false

def isThere (t : Tree) (p : Path) : Bool := (t.placeOf false p).isOk

def mayExecute (mode : Nat) : Bool := mode &&& 0o111 != 0

def isExecutable (t : Tree) (p : Path) : Bool :=
  match t.find p with
  | .ok (.file mode _) => mayExecute mode
  | _ => false

def pathOf (p : Place) : Path := ⟨"/" ++ String.intercalate "/" p⟩

/-- The path to the same place that has no links and no dots. -/
def canonical (t : Tree) (p : Path) : Except IoFault Path :=
  (t.placeOf true p).map pathOf

/-! ## Reading and removing -/

def read (t : Tree) (p : Path) : Except IoFault (List UInt8) := do
  match ← t.find p with
  | .file _ bytes => return bytes
  | .dir => .error .isDirectory
  | .link _ => .error .linkLoop

def readText (t : Tree) (p : Path) : Except IoFault String := do
  match Text.ofBytes? (← t.read p) with
  | some s => return s
  | none => .error .invalidText

def lastName (p : Path) : String := (namesOf p.text).getLast?.getD ""

/-- Removes a directory with all that is in it; of a link, only the link.  A directory that is named
by a dot is emptied but cannot be removed itself. -/
def remove (t : Tree) (p : Path) : Except IoFault Unit × Tree :=
  match t.placeOf false p with
  | .error fault => (.error fault, t)
  | .ok place =>
    match t.nodeAt? place with
    | some .dir =>
      if lastName p = "." then (.error .invalidArgument, (t.cut place).put place .dir)
      else if lastName p = ".." then (.error .notEmpty, (t.cut place).put place .dir)
      else (.ok (), t.cut place)
    | some (.link _) => (.ok (), t.cut place)
    | some (.file ..) => (.error .notDirectory, t)
    | none => (.error .notFound, t)

def entries (t : Tree) (p : Place) : List String :=
  ((t.nodes.filterMap fun e =>
    if e.1.dropLast = p ∧ e.1 ≠ [] then e.1.getLast? else none).mergeSort
      fun a b => decide (a ≤ b)).eraseDups

/-! ## Building -/

/-- Makes the directories of a place that are not there yet. -/
def withDirs (t : Tree) (here : Place) : List String → Tree × Place
  | [] => (t, here)
  | n :: rest =>
    match walk t true linkLimit here [n] with
    | .ok place => withDirs t place rest
    | .error _ => withDirs (t.put (here ++ [n]) .dir) (here ++ [n]) rest

/-- Puts something where a path leads, in directories that are made as needed. -/
def add (t : Tree) (p : Path) (n : Node) : Tree :=
  let names := (namesOf p.text).filter fun n => n ≠ "" ∧ n ≠ "."
  let (t, place) := t.withDirs (startOf t.here p.text) names.dropLast
  match names.getLast? with
  | some name => t.put (place ++ [name]) n
  | none => t

def chmod (t : Tree) (p : Path) (mode : Nat) : Tree :=
  match t.placeOf true p with
  | .error _ => t
  | .ok place =>
    match t.nodeAt? place with
    | some (.file _ bytes) => t.put place (.file mode bytes)
    | _ => t

/-- The tree with another directory to start from, which is made if it is not there. -/
def goTo (t : Tree) (names : List String) : Tree :=
  let (t, place) := t.withDirs [] names
  { t with here := place }

end Tree

end SprayWatch.Files
