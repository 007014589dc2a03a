import SprayWatch.Text.CaseTable
import SprayWatch.Text.Letter
/-!
# Lower case

Each capital becomes its lower case letter, and one capital, the dotted I, becomes two characters.
The capital sigma has two lower case letters: the final one is written where a letter comes before
it in the word and none after it.
-/

namespace SprayWatch.Text

def isCased (c : Char) : Bool :=
  if c.val < 128 then c.isAlpha else inRanges casedRanges c.val.toNat

/-- Is the character passed over when the neighbours of a letter are looked at? -/
def isCaseIgnorable (c : Char) : Bool :=
  if c.val < 128 then c.val == 0x27 || c == '.' || c == ':' || c == '^' || c.val == 0x60
  else inRanges caseIgnorableRanges c.val.toNat

/-- The run of capitals that holds the code point, if it is a capital. -/
def capitalRun? (n : Nat) : Option (Nat × Nat × Nat × Int) :=
  lowerCaseRuns.find? fun r => r.1 ≤ n && n ≤ r.2.1 && (n - r.1) % r.2.2.1 == 0

/-- The lower case of one character, away from its neighbours. -/
def lowerChar (c : Char) : List Char :=
  if c.val < 128 then [c.toLower]
  else if c.val == 0x130 then ['i', Char.ofNat 0x307]
  else
    match capitalRun? c.val.toNat with
    | some (_, _, _, offset) => [Char.ofNat (c.val.toNat + offset).toNat]
    | none => [c]

/-- Is the first character that is not passed over a cased one? -/
def meetsCased (cs : List Char) : Bool :=
  match cs.dropWhile isCaseIgnorable with
  | c :: _ => isCased c
  | [] => false

/-- Lower case of the characters, given those before them, nearest first. -/
def lowerAfter : List Char → List Char → List Char
  | _, [] => []
  | before, c :: cs =>
    let lower :=
      if c.val == 0x3A3 then
        if meetsCased before && !meetsCased cs then [Char.ofNat 0x3C2] else [Char.ofNat 0x3C3]
      else lowerChar c
    lower ++ lowerAfter (c :: before) cs

def lowercase (s : String) : String :=
  String.ofList (lowerAfter [] s.toList)

end SprayWatch.Text
