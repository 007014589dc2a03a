import SprayWatch.Machine.FileWork
import SprayWatch.Machine.Filter
import SprayWatch.Shell.Test
/-!
# Utilities

The small programs of the machine.  Each reads its arguments and its input, writes, and ends with a
code; some wait, and some never end.
-/

namespace SprayWatch.Machine

/-! ## Programs that produce -/

def seq (c : Circumstances) (args : List String) : Work Fate := do
  let numbers := args.filterMap String.toInt?
  let range (first step last : Int) : List Int :=
    let count := if 0 < step then (last - first) / step + 1
      else if step < 0 then (first - last) / (-step) + 1
      else 0
    (List.range count.toNat).map fun (i : Nat) => first + step * (i : Int)
  let all := match numbers with
    | [last] => range 1 1 last
    | [first, last] => range first 1 last
    | [first, step, last] => range first step last
    | _ => []
  c.out (Text.toBytes (String.join (all.map fun i => toString i ++ "\n")))
  return .exited (if numbers.length = args.length && !args.isEmpty then 0 else 1)

/-- How often a program that never stops repeating itself does so here. -/
def repetitions : Nat := 4096

def yes (c : Circumstances) (args : List String) : Work Fate := do
  let line := if args.isEmpty then "y\n" else String.intercalate " " args ++ "\n"
  let bytes := Text.toBytes line
  c.out (List.replicate repetitions bytes).flatten
  return .never

/-- A time in milliseconds from its text in seconds, perhaps with a fraction and a unit. -/
def milliseconds? (s : String) : Option Nat := do
  let cs := s.toList
  let units := match cs.getLast? with
    | some 's' => some (cs.dropLast, 1)
    | some 'm' => some (cs.dropLast, 60)
    | some 'h' => some (cs.dropLast, 3600)
    | some 'd' => some (cs.dropLast, 86400)
    | _ => some (cs, 1)
  let (digits, unit) ← units
  let front := digits.takeWhile Char.isDigit
  let fraction ← match digits.drop front.length with
    | [] => some []
    | '.' :: more => if more.all Char.isDigit then some more else none
    | _ => none
  if front.isEmpty && fraction.isEmpty then none
  else
    let micro := decimalValue ((fraction ++ List.replicate 6 '0').take 6)
    some ((decimalValue front * 1000000 + micro) * unit / 1000)

def sleep (c : Circumstances) (args : List String) : Work Fate := do
  if args = ["infinity"] then return .never
  else
    match args.mapM milliseconds? with
    | some times@(_ :: _) =>
      Work.waitUntil ((← get).clock + times.foldl (· + ·) 0)
      return .exited 0
    | some [] =>
      c.complain "sleep: missing operand"
      return .exited 1
    | none =>
      c.complain ("sleep: invalid time interval '" ++ String.intercalate " " args ++ "'")
      return .exited 1

/-- The program that repeats its arguments, with its options. -/
def echo (c : Circumstances) (args : List String) : Work Fate := do
  let isOption (a : String) : Bool :=
    match a.toList with
    | '-' :: f :: fs => (f :: fs).all fun x => x == 'n' || x == 'e' || x == 'E'
    | _ => false
  let options := args.takeWhile isOption
  let letters := (options.flatMap String.toList).filter (· != '-')
  let escapes := (letters.filter (· != 'n')).getLast? = some 'e'
  c.out (echoed escapes (!letters.contains 'n') (args.drop options.length))
  return .exited 0

/-- The program that works out an expression of one word, or of an operator between two. -/
def expr (c : Circumstances) (args : List String) : Work Fate := do
  let tell (text : String) : Work Fate := do
    c.out (Text.toBytes (text ++ "\n"))
    return .exited (if text = "" || text = "0" then 1 else 0)
  let truth (b : Bool) : Work Fate := tell (if b then "1" else "0")
  match args with
  | [word] => tell word
  | [a, op, b] =>
    match a.toInt?, b.toInt? with
    | some i, some j =>
      match op with
      | "+" => tell (toString (i + j))
      | "-" => tell (toString (i - j))
      | "*" => tell (toString (i * j))
      | "/" | "%" =>
        if j = 0 then
          c.complain "expr: division by zero"
          return .exited 2
        else tell (toString (if op = "/" then Int.tdiv i j else Int.tmod i j))
      | "=" => truth (i == j)
      | "!=" => truth (i != j)
      | "<" => truth (i < j)
      | "<=" => truth (i ≤ j)
      | ">" => truth (j < i)
      | ">=" => truth (j ≤ i)
      | _ =>
        c.complain "expr: syntax error"
        return .exited 2
    | _, _ =>
      match op with
      | "=" => truth (a == b)
      | "!=" => truth (a != b)
      | "<" => truth (a < b)
      | "<=" => truth (a ≤ b)
      | ">" => truth (b < a)
      | ">=" => truth (b ≤ a)
      | _ =>
        c.complain "expr: non-integer argument"
        return .exited 2
  | _ =>
    c.complain "expr: syntax error"
    return .exited 2

/-! ## Signals -/

/-- Sends a signal to a process, other than the one that sends it. -/
def send (target signal : Nat) : Work Bool := do
  let w ← get
  if target = watcherPid then
    set { w with signals := w.signals ++ [(⟨w.clock, target, signal⟩ : Sent)] }
    return true
  else
    match w.processes.find? fun p => p.pid = target with
    | none => return false
    | some p =>
      if p.fate ≠ .never && p.finish ≤ w.clock then return true
      else
        match Fate.ofSignal? signal with
        | none => return true
        | some fate =>
          set { w with
            processes := w.processes.map fun (q : Process) =>
              if q.pid = target then { q with finish := w.clock, fate := fate } else q
            written := w.written.filter fun e => e.writer ≠ target || e.time ≤ w.clock }
          return true

/-- The program that decides a condition; `name` is what it is called. -/
def decideAs (name : String) (c : Circumstances) (words : List String) : Work Fate := do
  match Shell.test (← c.tree) (words.length + 1) words with
  | .ok b => return .exited (if b then 0 else 1)
  | .error fault =>
    c.complain (name ++ ": " ++ fault.message)
    return .exited 2

def utility? (name : String) (c : Circumstances) (args : List String) : Option (Work Fate) :=
  match name with
  | "true" => some (return .exited 0)
  | "false" => some (return .exited 1)
  | "echo" => some (echo c args)
  | "printf" => some do
    match args with
    | format :: rest =>
      let written := formatted format rest
      written.faults.forM fun fault => c.complain ("printf: " ++ fault.message)
      c.out written.bytes
      return .exited (if written.faults.isEmpty then 0 else 1)
    | [] => return .exited 1
  | "basename" => some (basename c args)
  | "dirname" => some (dirname c args)
  | "expr" => some (expr c args)
  | "cut" => some (cut c args)
  | "tee" => some (tee c args)
  | "cp" => some (cp c args)
  | "chmod" => some (chmod c args)
  | "rmdir" => some (rmdir c args)
  | "cat" => some do
    copyAll c 0 (← c.sources "cat" (args.filter fun a => a ≠ "-u"))
  | "head" => some (head c args)
  | "tail" => some (tail c args)
  | "sort" => some (sort c args)
  | "wc" => some (wc c args)
  | "tr" => some (tr c args)
  | "test" => some (decideAs "test" c args)
  | "[" => some (decideAs "[" c args.dropLast)
  | "seq" => some (seq c args)
  | "yes" => some (yes c args)
  | "sleep" => some (sleep c args)
  | "touch" => some (touch c args)
  | "mkdir" => some (mkdir c args)
  | "rm" => some (rm c args)
  | "mv" => some (mv c args)
  | "ls" => some (ls c args)
  | "pwd" => some do
    c.out (Text.toBytes ((Files.Tree.pathOf c.here).text ++ "\n"))
    return .exited 0
  | _ => none

end SprayWatch.Machine
