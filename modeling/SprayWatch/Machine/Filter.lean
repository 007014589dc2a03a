import SprayWatch.Machine.Circumstances
import SprayWatch.Machine.Formatting
/-!
# Filters

The programs that read their input, or files, and write what they make of it.
-/

namespace SprayWatch.Machine

/-! ## Programs that copy -/

def copyChunks (c : Circumstances) : List (Nat × List UInt8) → Work Unit
  | [] => return
  | (moment, bytes) :: rest => do
    Work.waitUntil moment
    c.out bytes
    copyChunks c rest

def copyAll (c : Circumstances) (code : Nat) : List (Option Source) → Work Fate
  | [] => return .exited code
  | none :: rest => copyAll c 1 rest
  | some s :: rest => do
    copyChunks c s.chunks
    if ← s.await then copyAll c code rest else return .never

/-- The front of some chunks, up to a number of line ends or of bytes, and the moment at which it is
complete; `none` when the chunks do not reach so far. -/
def frontOf (byLines : Bool) : Nat → List (Nat × List UInt8) → List (Nat × List UInt8) × Bool
  | 0, _ => ([], true)
  | _, [] => ([], false)
  | n + 1, (moment, bytes) :: rest =>
    let taken := takeFront (n + 1) bytes
    let used := if byLines then taken.count 10 else taken.length
    if used = n + 1 then ([(moment, taken)], true)
    else
      let (more, isWhole) := frontOf byLines (n + 1 - used) rest
      ((moment, taken) :: more, isWhole)
termination_by _ chunks => chunks.length
where
  takeFront : Nat → List UInt8 → List UInt8
    | 0, _ => []
    | _, [] => []
    | n + 1, b :: bs => b :: takeFront (if byLines && b != 10 then n + 1 else n) bs

/-- The options of programs that take a number: `-n N`, `-nN`, `-N`, and the same with other
letters. -/
def countOption : List String → Option (Char × Nat × List String)
  | w :: rest =>
    match w.toList with
    | '-' :: c :: digits =>
      if c.isDigit then (String.ofList (c :: digits)).toNat?.map fun n => ('n', n, rest)
      else if digits.isEmpty then
        match rest with
        | d :: more => d.toNat?.map fun n => (c, n, more)
        | [] => none
      else (String.ofList digits).toNat?.map fun n => (c, n, rest)
    | _ => none
  | [] => none

def head (c : Circumstances) (args : List String) : Work Fate := do
  let (unit, count, names) := (countOption args).getD ('n', 10, args)
  match ← c.sources "head" names with
  | some s :: _ =>
    let (front, isWhole) := frontOf (unit != 'c') count s.chunks
    copyChunks c front
    if isWhole then return .exited 0
    else if ← s.await then return .exited 0
    else return .never
  | _ => return .exited 1

def tail (c : Circumstances) (args : List String) : Work Fate := do
  let (unit, count, names) := (countOption args).getD ('n', 10, args)
  whole c "tail" names fun bytes =>
    if unit = 'c' then bytes.drop (bytes.length - count)
    else
      let ls := linesWithEnds bytes
      (ls.drop (ls.length - count)).flatten

def withEnd (line : List UInt8) : List UInt8 :=
  if line.getLast? = some 10 then line else line ++ [10]

def sort (c : Circumstances) (args : List String) : Work Fate := do
  let flags := args.takeWhile fun a => a.startsWith "-"
  let has (f : Char) : Bool := flags.any fun a => a.toList.contains f
  let names := args.drop flags.length
  let key (l : List UInt8) : Int :=
    let digits := (Text.ofBytesLossy l).toList.takeWhile fun ch => ch.isDigit || ch == '-'
    (String.ofList digits).toInt?.getD 0
  let before (a b : List UInt8) : Bool :=
    if has 'n' then decide (key a < key b) || (key a == key b && decide (a ≤ b)) else decide (a ≤ b)
  whole c "sort" names fun bytes =>
    let ls := ((linesWithEnds bytes).map withEnd).mergeSort
      fun a b => if has 'r' then before b a else before a b
    (if has 'u' then ls.eraseReps else ls).flatten

def countWords : Bool → List UInt8 → Nat
  | _, [] => 0
  | inWord, b :: bs =>
    let blank := b == 32 || (9 ≤ b && b ≤ 13)
    if blank then countWords false bs
    else if inWord then countWords true bs
    else countWords true bs + 1

def wc (c : Circumstances) (args : List String) : Work Fate := do
  let flags := args.takeWhile fun a => a.startsWith "-"
  let names := args.drop flags.length
  let counts (bytes : List UInt8) : List Nat :=
    let has (f : Char) : Bool := flags.isEmpty || flags.any fun a => a.toList.contains f
    (if has 'l' then [bytes.count 10] else []) ++
      (if has 'w' then [countWords false bytes] else []) ++
      (if has 'c' then [bytes.length] else [])
  whole c "wc" (names.take 1) fun bytes =>
    Text.toBytes (String.intercalate " " ((counts bytes).map toString ++ names.take 1) ++ "\n")

/-- The bytes that a list of characters stands for, with its ranges and escapes. -/
def byteSet : Nat → List UInt8 → List UInt8
  | 0, _ => []
  | _, [] => []
  | n + 1, a :: 45 :: b :: rest =>
    (List.range (b.toNat + 1 - a.toNat)).map (fun i => a + i.toUInt8) ++ byteSet n rest
  | n + 1, a :: rest => a :: byteSet n rest

def bytesOfSet (s : String) : List UInt8 :=
  let bytes := (unescaped false s).1
  byteSet (bytes.length + 1) bytes

def tr (c : Circumstances) (args : List String) : Work Fate := do
  match args with
  | ["-d", set] =>
    let gone := bytesOfSet set
    whole c "tr" [] fun bytes => bytes.filter fun b => !gone.contains b
  | ["-s", set] =>
    let once := bytesOfSet set
    whole c "tr" [] fun bytes => squeeze once none bytes
  | [source, target] =>
    let sources := bytesOfSet source
    let targets := bytesOfSet target
    whole c "tr" [] fun bytes => bytes.map fun b =>
      match sources.idxOf? b with
      | some i => (targets[i]?.or targets.getLast?).getD b
      | none => b
  | _ => return .exited 1
where
  squeeze (once : List UInt8) : Option UInt8 → List UInt8 → List UInt8
    | _, [] => []
    | before, b :: bs =>
      if before = some b && once.contains b then squeeze once before bs
      else b :: squeeze once (some b) bs

/-! ## Programs that take lines apart -/

/-- A list of ranges of numbers from one on, each open on a side or closed. -/
def rangesOf? (s : String) : Option (List (Nat × Option Nat)) :=
  (s.splitOn ",").mapM fun r =>
    match r.splitOn "-" with
    | [n] => n.toNat?.map fun n => (n, some n)
    | ["", b] => b.toNat?.map fun b => (1, some b)
    | [a, ""] => a.toNat?.map fun a => (a, none)
    | [a, b] => do return (← a.toNat?, some (← b.toNat?))
    | _ => none

def itemsIn {α : Type} (ranges : List (Nat × Option Nat)) (items : List α) : List α :=
  items.zipIdx.filterMap fun (a, i) =>
    if ranges.any fun r => r.1 ≤ i + 1 && r.2.all (i + 1 ≤ ·) then some a else none

/-- An option with its value, in the same word or the next one. -/
def optionValue? (letter : Char) : List String → Option String
  | w :: rest =>
    match w.toList with
    | ['-', c] => if c == letter then rest.head? else optionValue? letter rest
    | '-' :: c :: value =>
      if c == letter then some (String.ofList value) else optionValue? letter rest
    | _ => optionValue? letter rest
  | [] => none

/-- The program that keeps some fields, or characters, of each line. -/
def cut (c : Circumstances) (args : List String) : Work Fate := do
  let mark := ((optionValue? 'd' args).bind fun s => s.toList.head?).getD '\t'
  let fields := (optionValue? 'f' args).bind rangesOf?
  let places := ((optionValue? 'c' args).or (optionValue? 'b' args)).bind rangesOf?
  let pick (line : String) : String :=
    match fields, places with
    | some ranges, _ =>
      let parts := line.splitOn (String.singleton mark)
      if parts.length = 1 then line
      else String.intercalate (String.singleton mark) (itemsIn ranges parts)
    | none, some ranges => String.ofList (itemsIn ranges line.toList)
    | none, none => line
  if fields.isNone && places.isNone then
    c.complain "cut: you must specify a list of bytes, characters, or fields"
    return .exited 1
  else
    whole c "cut" [] fun bytes =>
      (linesWithEnds bytes).flatMap fun line => Text.toBytes (pick (Text.lineOf line) ++ "\n")

def tee (c : Circumstances) (args : List String) : Work Fate := do
  let names := args.filter fun a => a ≠ "-a"
  let source ← c.input
  names.forM fun name =>
    c.changeFiles fun t =>
      let old := if args.contains "-a" then ((t.read ⟨name⟩).toOption).getD [] else []
      t.add ⟨name⟩ (.file 0o644 (old ++ source.bytes))
  copyAll c 0 [some source]

end SprayWatch.Machine
