import SprayWatch.Shell.Script
/-!
# The characters of scripts

How far a script has been read, what keeps it from being read on, and the readers of what needs no
grammar: blanks, reserved words, operators, documents and text between backquotes.
-/

namespace SprayWatch.Shell

/-- What is left to read, the number of the line, and how many lines after this one have been taken
out as documents. -/
structure Input where
  rest : List Char
  line : Nat
  taken : Nat

/-- What keeps a script from being read: something stands where something else had to, perhaps known
which, or something has no end. -/
inductive Obstacle where
  | found (token : String) (expected : Option String)
  | openQuotes
  | openOutput
  | openSum
  | openBraces
  | loopVariable
  | functionName
  deriving Repr, DecidableEq

def Obstacle.message : Obstacle → String
  | .found token none => token ++ " unexpected"
  | .found token (some e) => token ++ " unexpected (expecting \"" ++ e ++ "\")"
  | .openQuotes => "Unterminated quoted string"
  | .openOutput => "EOF in backquote substitution"
  | .openSum => "Missing '))'"
  | .loopVariable => "Bad for loop variable"
  | .functionName => "Bad function name"
  | .openBraces => "Missing '" ++ String.singleton (Char.ofNat 125) ++ "'"

/-- The line on which a script cannot be read, and why. -/
structure Misread where
  line : Nat
  obstacle : Obstacle
  deriving Repr, DecidableEq

/-- Reads from the script, or meets an obstacle. -/
abbrev Reader := StateT Input (Except Misread)

def backslash : Char := '\\'
def doubleQuote : Char := '"'
def singleQuote : Char := Char.ofNat 39
def backquote : Char := Char.ofNat 96
def openBrace : Char := Char.ofNat 123
def closeBrace : Char := Char.ofNat 125

def obstructed {α : Type} (o : Obstacle) : Reader α := do throw ⟨(← get).line, o⟩

def peek? : Reader (Option Char) := return (← get).rest.head?

def pass (n : Nat) : Reader Unit :=
  modify fun i =>
    let lineEnds := (i.rest.take n).count '\n'
    if lineEnds = 0 then { i with rest := i.rest.drop n }
    else ⟨i.rest.drop n, i.line + lineEnds + i.taken, 0⟩

def accept (text : String) : Reader Bool := do
  if text.toList.isPrefixOf (← get).rest then
    pass text.length
    return true
  else return false

def takeChars (kind : Char → Bool) : Reader String := do
  let taken := (← get).rest.takeWhile kind
  pass taken.length
  return String.ofList taken

def isNameStart (c : Char) : Bool := c.isAlpha || c == '_'
def isNameChar (c : Char) : Bool := c.isAlphanum || c == '_'

def endsWord (c : Char) : Bool :=
  [' ', '\t', '\n', ';', '&', '|', '<', '>', '(', ')'].contains c

/-- Passes blanks, line ends that a backslash takes back, and comments. -/
def skipBlanks : Nat → Reader Unit
  | 0 => return
  | n + 1 => do
    match (← get).rest with
    | ' ' :: _ | '\t' :: _ =>
      pass 1
      skipBlanks n
    | '\\' :: '\n' :: _ =>
      pass 2
      skipBlanks n
    | '#' :: _ =>
      let _ ← takeChars (· != '\n')
      skipBlanks n
    | _ => return

def skipLines : Nat → Reader Unit
  | 0 => return
  | n + 1 => do
    skipBlanks (n + 1)
    if ← accept "\n" then skipLines n

/-- The word that the characters begin with, if it is all letters or a single mark, as reserved words
are. -/
def reservedAt (cs : List Char) : String :=
  match cs with
  | c :: _ =>
    let letters := if c == openBrace || c == closeBrace || c == '!' then [c]
      else cs.takeWhile Char.isAlpha
    match cs.drop letters.length with
    | [] => String.ofList letters
    | d :: _ => if endsWord d then String.ofList letters else ""
  | [] => ""

def reservedAhead : Reader String := return reservedAt (← get).rest

def reservedWords : List String :=
  ["!", "case", "do", "done", "elif", "else", "esac", "fi", "for", "if", "in", "then", "until", "while",
    String.singleton openBrace, String.singleton closeBrace]

def operatorTexts : List String := [";;", "&&", "||", ";", "&", "|", "(", ")"]

/-- How the next thing to read is called when it should not stand there. -/
def tokenAt (cs : List Char) : String :=
  match cs with
  | [] => "end of file"
  | '\n' :: _ => "newline"
  | '<' :: _ | '>' :: _ => "redirection"
  | cs =>
    match operatorTexts.find? fun o => o.toList.isPrefixOf cs with
    | some o => "\"" ++ o ++ "\""
    | none =>
      let w := reservedAt cs
      if reservedWords.contains w then "\"" ++ w ++ "\"" else "word"

def misreadFor {α : Type} (expected : Option String) : Reader α := do
  let cs := (← get).rest.dropWhile fun c => c == ' ' || c == '\t'
  obstructed (.found (tokenAt cs) expected)

def misread {α : Type} : Reader α := misreadFor none

def expect (text : String) : Reader Unit := do
  if !(← accept text) then misreadFor (some text)

def acceptReserved (w : String) : Reader Bool := do
  if (← reservedAhead) == w then
    pass w.length
    return true
  else return false

def expectReserved (w : String) : Reader Unit := do
  if !(← acceptReserved w) then misreadFor (some w)

/-- The reserved words and operators that end a sequence of commands. -/
def endsSequence (word : String) : Bool :=
  ["then", "else", "elif", "fi", "do", "done", "esac", String.singleton closeBrace].contains word

/-- The lines up to one that holds nothing but the mark, and what follows that line. -/
def untilMark (mark : List Char) (dropTabs : Bool) : Nat → List Char → List Char × List Char
  | 0, cs => (cs, [])
  | _, [] => ([], [])
  | n + 1, cs =>
    let line := cs.takeWhile (· != '\n')
    let after := (cs.dropWhile (· != '\n')).drop 1
    let line := if dropTabs then line.dropWhile (· == '\t') else line
    if line = mark then ([], after)
    else
      let (body, left) := untilMark mark dropTabs n after
      (line ++ ['\n'] ++ body, left)

/-- Takes the lines after this one, up to the mark, out of what is left to read. -/
def takeDocument (mark : List Char) (dropTabs : Bool) : Reader (List Char) := do
  let i ← get
  let here := i.rest.takeWhile (· != '\n')
  let (body, left) :=
    untilMark mark dropTabs i.rest.length ((i.rest.dropWhile (· != '\n')).drop 1)
  let whole := i.rest.length - here.length - left.length
  set { i with
    rest := here ++ ['\n'] ++ left
    taken := i.taken + ((i.rest.drop (here.length + 1)).take (whole - 1)).count '\n' }
  return body

def hiddenInQuotes (c : Char) : Bool :=
  c == '$' || c == backquote || c == doubleQuote || c == backslash

/-- The text between backquotes, with the backslashes that protect it taken off. -/
def unquoteOutput : List Char → List Char
  | '\\' :: c :: rest =>
    if c == '$' || c == backquote || c == backslash then c :: unquoteOutput rest
    else backslash :: c :: unquoteOutput rest
  | c :: rest => c :: unquoteOutput rest
  | [] => []

/-- The characters up to the backquote that ends them, and what follows it. -/
def splitOutput : List Char → Option (List Char × List Char)
  | [] => none
  | '\\' :: c :: rest => (splitOutput rest).map fun (a, b) => (backslash :: c :: a, b)
  | c :: rest =>
    if c == backquote then some ([], rest)
    else (splitOutput rest).map fun (a, b) => (c :: a, b)

def digitsOf (s : String) : Nat :=
  s.toList.foldl (fun n c => n * 10 + (c.toNat - '0'.toNat)) 0

def wordText (w : Word) : String :=
  String.join (w.map fun
    | .plain t | .fixed t => t
    | .quoted ps => String.join (ps.map fun
        | .plain t | .fixed t => t
        | _ => "")
    | _ => "")

def hasQuotes (w : Word) : Bool :=
  w.any fun
    | .fixed _ | .quoted _ => true
    | _ => false

/-- An assignment, if the word is one: a name, an equals sign and a value. -/
def assignment? : Word → Option (String × Word)
  | .plain t :: rest =>
    let name := t.toList.takeWhile isNameChar
    match t.toList.drop name.length with
    | '=' :: value =>
      if (name.head?.map isNameStart).getD false then
        some (String.ofList name,
          (if value.isEmpty then [] else [.plain (String.ofList value)]) ++ rest)
      else none
    | _ => none
  | _ => none

def nameOf? : Word → Option String
  | [.plain t] =>
    if (t.toList.head?.map isNameStart).getD false && t.toList.all isNameChar then some t else none
  | _ => none

end SprayWatch.Shell
