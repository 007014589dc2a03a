import SprayWatch.Files.System
/-!
# Images

What is run when a file is executed: a program of the machine, or for a script, whose first line
names its interpreter, that interpreter with the script among its arguments.
-/

namespace SprayWatch.Machine

open Files (Tree)

/-- A program, the name that it is called by, and the arguments that it is run with. -/
structure Image where
  program : String
  calledAs : String
  args : List String
  deriving Repr, DecidableEq

def isBlankChar (c : Char) : Bool := c == ' ' || c == '\t'

/-- The interpreter that a script names, and the argument that it wants it to have. -/
def interpreter? (bytes : List UInt8) : Option (String × List String) :=
  match bytes with
  | 35 :: 33 :: rest =>
    let line := (Text.ofBytesLossy (rest.takeWhile (· != 10))).toList.dropWhile isBlankChar
    let name := line.takeWhile fun c => !isBlankChar c
    let more := (line.drop name.length).dropWhile isBlankChar
    let more := (more.reverse.dropWhile isBlankChar).reverse
    if name.isEmpty then none
    else some (String.ofList name, if more.isEmpty then [] else [String.ofList more])
  | _ => none

/-- How many interpreters may stand between a script and a program. -/
def interpreterLimit : Nat := 5

def load (t : Tree) : Nat → Path → String → List String → Except IoFault Image
  | 0, _, _, _ => .error .linkLoop
  | n + 1, path, name, args => do
    match ← t.find path with
    | .file mode bytes =>
      if !Tree.mayExecute mode then .error .permissionDenied
      else
        match Files.programOf? bytes with
        | some program =>
          if Files.programs.contains program then return ⟨program, name, args⟩
          else .error .execFormat
        | none =>
          match interpreter? bytes with
          | some (interpreter, more) =>
            load t n ⟨interpreter⟩ interpreter (more ++ [path.text] ++ args)
          | none => .error .execFormat
    | _ => .error .permissionDenied

def usualSearchPath : String := "/usr/local/sbin:/usr/local/bin:/usr/sbin:/usr/bin:/sbin:/bin"

/-- The path of the program that a name without slashes stands for. -/
def searchFor (t : Tree) (searchPath name : String) : Option Path :=
  (searchPath.splitOn ":").findSome? fun dir =>
    let path := (⟨if dir = "" then "." else dir⟩ : Path).entry name
    if t.isExecutable path then some path else none

def pathFor (t : Tree) (searchPath name : String) : Except IoFault Path :=
  if name.toList.contains '/' then .ok ⟨name⟩
  else
    match searchFor t searchPath name with
    | some path => .ok path
    | none => .error .notFound

def imageOf (t : Tree) (searchPath name : String) (args : List String) : Except IoFault Image := do
  if (name :: args).any fun a => a.toList.contains '\x00' then .error .nulByte
  else if name = "" then .error .notFound
  else load t interpreterLimit (← pathFor t searchPath name) name args

end SprayWatch.Machine
