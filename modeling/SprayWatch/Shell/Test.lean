import SprayWatch.Shell.Sum
import SprayWatch.Files.Tree
/-!
# Tests

The conditions that scripts put to texts, numbers and files.
-/

namespace SprayWatch.Shell

open Files (Tree)

/-- A test that cannot be made sense of: a text is no number, an operand is missing, something stands
behind a word that ends the test, or a group has no end. -/
inductive TestFault where
  | number (text : String)
  | noOperand (op : String)
  | tooLong (last : String)
  | noGroupEnd
  deriving Repr, DecidableEq

def TestFault.message : TestFault → String
  | .number text => "Illegal number: " ++ text
  | .noOperand op => op ++ ": argument expected"
  | .tooLong last => last ++ ": unexpected operator"
  | .noGroupEnd => "closing paren expected"

/-- What a word of a test is by itself. -/
inductive Role where
  | operand
  | unary
  | binary
  | negation
  | conjunction
  | disjunction
  | opening
  | closing
  deriving Repr, DecidableEq

def unaryOperators : List String :=
  ["-r", "-w", "-x", "-e", "-f", "-d", "-c", "-b", "-p", "-u", "-g", "-k", "-s", "-t", "-z", "-n", "-h",
    "-O", "-G", "-L", "-S"]

def binaryOperators : List String :=
  ["=", "!=", "<", ">", "-eq", "-ne", "-ge", "-gt", "-le", "-lt", "-nt", "-ot", "-ef"]

def Role.of (w : String) : Role :=
  if unaryOperators.contains w then .unary
  else if binaryOperators.contains w then .binary
  else if w = "!" then .negation
  else if w = "-a" then .conjunction
  else if w = "-o" then .disjunction
  else if w = "(" then .opening
  else if w = ")" then .closing
  else .operand

/-- What the first of some words is, among those after it: an operator with nothing to work on is an
operand. -/
def Role.first? : List String → Option Role
  | [] => none
  | w :: rest =>
    match Role.of w, rest with
    | .unary, [] => some .operand
    | .unary, op :: _ :: _ => some (if Role.of op = .binary then .operand else .unary)
    | .opening, [] => some .operand
    | r, _ => some r

def unaryTest (t : Tree) (op : String) (a : String) : Bool :=
  let node := t.find ⟨a⟩
  match op with
  | "-n" => a ≠ ""
  | "-z" => a = ""
  | "-e" | "-r" | "-w" | "-O" | "-G" => node.isOk
  | "-f" => t.isFile ⟨a⟩
  | "-d" =>
    match node with
    | .ok .dir => true
    | _ => false
  | "-s" =>
    match node with
    | .ok (.file _ bytes) => !bytes.isEmpty
    | .ok .dir => true
    | _ => false
  | "-x" =>
    match node with
    | .ok (.file mode _) => Tree.mayExecute mode
    | .ok .dir => true
    | _ => false
  | "-h" | "-L" =>
    match t.placeOf false ⟨a⟩ with
    | .ok p =>
      match t.nodeAt? p with
      | some (.link _) => true
      | _ => false
    | .error _ => false
  | _ => false

def testNumber (s : String) : Except TestFault Int :=
  let trimmed := ((s.toList.dropWhile (· == ' ')).reverse.dropWhile (· == ' ')).reverse
  match (String.ofList trimmed).toInt? with
  | some i => .ok i
  | none => .error (.number s)

def binaryTest (t : Tree) (op a b : String) : Except TestFault Bool :=
  let compare (f : Int → Int → Bool) : Except TestFault Bool := do
    return f (← testNumber a) (← testNumber b)
  match op with
  | "=" => .ok (a = b)
  | "!=" => .ok (a ≠ b)
  | "<" => .ok (a < b)
  | ">" => .ok (b < a)
  | "-eq" => compare (· == ·)
  | "-ne" => compare (· != ·)
  | "-lt" => compare fun x y => x < y
  | "-le" => compare fun x y => x ≤ y
  | "-gt" => compare fun x y => y < x
  | "-ge" => compare fun x y => y ≤ x
  | "-ef" => .ok (match t.placeOf true ⟨a⟩, t.placeOf true ⟨b⟩ with
    | .ok p, .ok q => p = q
    | _, _ => false)
  | _ => .ok false

/-- The words from the last one that a test used. -/
abbrev Used := List String

mutual

/-- A test at the front of the words that is neither negated nor joined. -/
def primaryTest (t : Tree) : Nat → List String → Except TestFault (Bool × Used)
  | 0, ws => .ok (false, ws)
  | _, [] => .ok (false, [])
  | n + 1, w :: rest =>
    match Role.first? (w :: rest), rest with
    | some .opening, _ =>
      if Role.first? rest = some .closing then .ok (false, rest)
      else do
        match ← eitherTest t n rest with
        | (b, _ :: left) =>
          if Role.first? left = some .closing then return (b, left) else throw .noGroupEnd
        | _ => throw .noGroupEnd
    | some .unary, a :: _ => .ok (unaryTest t w a, rest)
    | some .unary, [] => .error (.noOperand w)
    | _, op :: more =>
      if Role.first? rest = some .binary then
        match more with
        | b :: _ => do return (← binaryTest t op w b, more)
        | [] => .error (.noOperand op)
      else .ok (w ≠ "", w :: rest)
    | _, [] => .ok (w ≠ "", [w])

def plainTest (t : Tree) : Nat → List String → Except TestFault (Bool × Used)
  | 0, ws => .ok (false, ws)
  | n + 1, ws =>
    if Role.first? ws = some .negation then
      match ws with
      | _ :: next :: rest => do
        let (b, used) ← plainTest t n (next :: rest)
        return (!b, used)
      | _ => .ok (true, ws)
    else primaryTest t n ws

def bothTest (t : Tree) : Nat → List String → Except TestFault (Bool × Used)
  | 0, ws => .ok (false, ws)
  | n + 1, ws => do
    let (b, used) ← plainTest t n ws
    if Role.first? (used.drop 1) = some .conjunction then
      let (c, used) ← bothTest t n (used.drop 2)
      return (b && c, used)
    else return (b, used)

def eitherTest (t : Tree) : Nat → List String → Except TestFault (Bool × Used)
  | 0, ws => .ok (false, ws)
  | n + 1, ws => do
    let (b, used) ← bothTest t n ws
    if Role.first? (used.drop 1) = some .disjunction then
      let (c, used) ← eitherTest t n (used.drop 2)
      return (b || c, used)
    else return (b, used)

end

def joinedTest (t : Tree) (words : List String) : Except TestFault Bool := do
  match ← eitherTest t (4 * words.length + 4) words with
  | (_, last :: _ :: _) => throw (.tooLong last)
  | (b, _) => return b

/-- Does the test hold?  Three words with an operator in the middle are a comparison; three or four
words may be negated or grouped as a whole. -/
def test (t : Tree) : Nat → List String → Except TestFault Bool
  | 0, words => joinedTest t words
  | _, [] => .ok false
  | n + 1, words =>
    let outer (words : List String) : Except TestFault Bool :=
      if words.head? = some "(" && words.getLast? = some ")" then
        joinedTest t (words.drop 1).dropLast
      else if words.head? = some "!" then do return !(← test t n (words.drop 1))
      else joinedTest t words
    match words with
    | [a, op, b] => if Role.of op = .binary then binaryTest t op a b else outer words
    | [_, _, _, _] => outer words
    | _ => joinedTest t words

end SprayWatch.Shell
