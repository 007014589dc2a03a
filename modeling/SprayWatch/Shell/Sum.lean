/-!
# Sums

Integer expressions, as scripts may have them in place of a word.  Numbers have 64 bits and wrap
around.  A name stands for the value of the variable, zero if it has none.
-/

namespace SprayWatch.Shell

/-- The values of variables, and the changes to them so far. -/
structure SumState where
  rest : List Char
  lookup : String → Option String
  changes : List (String × Int)

/-- Why an expression has no value: it divides by zero, a number cannot be read, an operand or the end
of a group is missing, or something is left over. -/
inductive SumFault where
  | divisionByZero
  | number (text : String)
  | noOperand
  | noGroupEnd
  | leftOver
  deriving Repr, DecidableEq

def SumFault.message (expression : String) : SumFault → String
  | .number text => "Illegal number: " ++ text
  | .divisionByZero => about "division by zero"
  | .noOperand => about "expecting primary"
  | .noGroupEnd => about "expecting ')'"
  | .leftOver => about "expecting EOF"
where
  about (what : String) : String :=
    "arithmetic expression: " ++ what ++ ": \"" ++ expression ++ "\""

/-- Works out a part of an expression. -/
abbrev Sum := StateT SumState (Except SumFault)

namespace Sum

def wrap (i : Int) : Int := Int.bmod i 18446744073709551616

/-- An integer from its text: decimal, or with the marks for hexadecimal and octal digits. -/
def number? (s : String) : Option Int :=
  let digit (c : Char) : Nat :=
    if c.isDigit then c.toNat - '0'.toNat
    else if 'a' ≤ c ∧ c ≤ 'f' then c.toNat - 'a'.toNat + 10
    else if 'A' ≤ c ∧ c ≤ 'F' then c.toNat - 'A'.toNat + 10
    else 99
  let value (base : Nat) (cs : List Char) : Option Int :=
    if cs.isEmpty || cs.any (fun c => base ≤ digit c) then none
    else some (wrap (cs.foldl (fun n c => n * base + digit c) 0 : Nat))
  match s.toList with
  | '-' :: cs => (value 10 cs).map fun i => -i
  | '+' :: cs => value 10 cs
  | '0' :: 'x' :: cs | '0' :: 'X' :: cs => value 16 cs
  | '0' :: c :: cs => value 8 (c :: cs)
  | cs => value 10 cs

def number (s : String) : Sum Int :=
  match number? s with
  | some i => return i
  | none => throw (.number s)

def skip : Sum Unit :=
  modify fun s => { s with rest := s.rest.dropWhile fun c => c == ' ' || c == '\t' || c == '\n' }

/-- Passes an operator, if it stands next and is not the beginning of a longer one. -/
def accept (op : String) (longer : List String) : Sum Bool := do
  skip
  let rest := (← get).rest
  if op.toList.isPrefixOf rest && !longer.any (fun u => u.toList.isPrefixOf rest) then
    modify fun s => { s with rest := s.rest.drop op.length }
    return true
  else return false

def valueOf (name : String) : Sum Int := do
  let s ← get
  match s.changes.lookup name with
  | some i => return i
  | none =>
    match s.lookup name with
    | none => return 0
    | some t =>
      let cs := t.toList.filter fun c => c != ' ' && c != '\t' && c != '\n'
      if cs.isEmpty then return 0 else number (String.ofList cs)

def assign (name : String) (i : Int) : Sum Int := do
  modify fun s => { s with changes := (name, wrap i) :: s.changes }
  return wrap i

def ofBool (b : Bool) : Int := if b then 1 else 0

/-- The operators with two sides, by how tightly they bind, the loosest first; beside each the longer
operators that begin like it. -/
def operators : List (List (String × List String)) :=
  [[("||", [])], [("&&", [])], [("|", ["||", "|="])], [("^", ["^="])], [("&", ["&&", "&="])],
    [("==", []), ("!=", [])], [("<=", []), (">=", []), ("<", ["<<"]), (">", [">>"])],
    [("<<", ["<<="]), (">>", [">>="])], [("+", ["+="]), ("-", ["-="])],
    [("*", ["*="]), ("/", ["/="]), ("%", ["%="])]]

def apply (op : String) (a b : Int) : Except SumFault Int :=
  match op with
  | "||" => .ok (ofBool (a != 0 || b != 0))
  | "&&" => .ok (ofBool (a != 0 && b != 0))
  | "|" => .ok (Int.ofNat (a.toInt64.toUInt64 ||| b.toInt64.toUInt64).toNat)
  | "^" => .ok (Int.ofNat (a.toInt64.toUInt64 ^^^ b.toInt64.toUInt64).toNat)
  | "&" => .ok (Int.ofNat (a.toInt64.toUInt64 &&& b.toInt64.toUInt64).toNat)
  | "==" => .ok (ofBool (a == b))
  | "!=" => .ok (ofBool (a != b))
  | "<=" => .ok (ofBool (a ≤ b))
  | ">=" => .ok (ofBool (b ≤ a))
  | "<" => .ok (ofBool (a < b))
  | ">" => .ok (ofBool (b < a))
  | "<<" => .ok (a * Int.ofNat (Nat.pow 2 (b % 64).toNat))
  | ">>" => .ok (Int.fdiv a (Int.ofNat (Nat.pow 2 (b % 64).toNat)))
  | "+" => .ok (a + b)
  | "-" => .ok (a - b)
  | "*" => .ok (a * b)
  | "/" => if b = 0 then .error .divisionByZero else .ok (Int.tdiv a b)
  | "%" => if b = 0 then .error .divisionByZero else .ok (Int.tmod a b)
  | _ => .error .noOperand

mutual

def operand : Nat → Sum Int
  | 0 => throw .noOperand
  | n + 1 => do
    skip
    match (← get).rest with
    | '(' :: rest =>
      modify fun s => { s with rest := rest }
      let i ← whole n
      if ← accept ")" [] then return i else throw .noGroupEnd
    | '-' :: rest =>
      modify fun s => { s with rest := rest }
      return wrap (-(← operand n))
    | '+' :: rest =>
      modify fun s => { s with rest := rest }
      operand n
    | '!' :: rest =>
      modify fun s => { s with rest := rest }
      return ofBool ((← operand n) == 0)
    | '~' :: rest =>
      modify fun s => { s with rest := rest }
      return wrap (-(← operand n) - 1)
    | c :: rest =>
      let text := (c :: rest).takeWhile fun d => d.isAlphanum || d == '_'
      if text.isEmpty then throw .noOperand
      else
        modify fun s => { s with rest := s.rest.drop text.length }
        let name := String.ofList text
        if c.isDigit then number name
        else
          let compound := ["+", "-", "*", "/", "%", "<<", ">>", "&", "|", "^"]
          skip
          let ahead := (← get).rest
          match compound.find? fun op => (op ++ "=").toList.isPrefixOf ahead with
          | some op =>
            modify fun s => { s with rest := s.rest.drop (op.length + 1) }
            let a ← valueOf name
            assign name (← apply op a (← whole n))
          | none =>
            if ← accept "=" ["=="] then assign name (← whole n) else valueOf name
    | [] => throw .noOperand

/-- Operands joined by the operators that bind at least as tightly as those given. -/
def joined : Nat → List (List (String × List String)) → Sum Int
  | 0, _ => throw .noOperand
  | n + 1, [] => operand n
  | n + 1, ops :: tighter => do
    let a ← joined n tighter
    further n a ops tighter

def further : Nat → Int → List (String × List String) → List (List (String × List String)) → Sum Int
  | 0, _, _, _ => throw .noOperand
  | n + 1, a, ops, tighter => do
    let found ← ops.findM? fun (op, longer) => accept op longer
    match found with
    | none => return a
    | some (op, _) =>
      let b ← joined n tighter
      further n (wrap (← apply op a b)) ops tighter

def whole : Nat → Sum Int
  | 0 => throw .noOperand
  | n + 1 => do
    let a ← joined n operators
    if ← accept "?" [] then
      let b ← whole n
      if ← accept ":" [] then
        let c ← whole n
        return if a != 0 then b else c
      else throw .noOperand
    else return a

end

/-- The value of an expression, and the variables that it changes. -/
def eval (text : String) (lookup : String → Option String) :
    Except SumFault (Int × List (String × Int)) := do
  if text.toList.all fun c => c == ' ' || c == '\t' || c == '\n' then return (0, [])
  else
    let (i, s) ← (whole (20 * text.length + 40)).run ⟨text.toList, lookup, []⟩
    if s.rest.all fun c => c == ' ' || c == '\t' || c == '\n' then return (i, s.changes)
    else throw .leftOver

end Sum

end SprayWatch.Shell
