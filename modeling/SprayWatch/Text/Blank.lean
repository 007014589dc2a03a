/-!
# Blank characters

A character is blank when it has the white space property.  Trimming takes the blanks off both ends
of a text and leaves the blanks inside alone, so a trimmed text is empty exactly when the text held
nothing but blanks.
-/

namespace SprayWatch.Text

/-- The white space property: tabs, line ends, the space and the spaces of fixed width. -/
def isBlank (c : Char) : Bool :=
  let n := c.val.toNat
  (9 ≤ n && n ≤ 13) || n == 0x20 || n == 0x85 || n == 0xA0 || n == 0x1680 ||
    (0x2000 ≤ n && n ≤ 0x200A) || n == 0x2028 || n == 0x2029 || n == 0x202F || n == 0x205F ||
    n == 0x3000

def trimEndChars : List Char → List Char
  | [] => []
  | c :: cs =>
    match trimEndChars cs with
    | [] => if isBlank c then [] else [c]
    | d :: ds => c :: d :: ds

def trimChars (cs : List Char) : List Char :=
  trimEndChars (cs.dropWhile isBlank)

def trim (s : String) : String :=
  String.ofList (trimChars s.toList)

def isAllBlank (s : String) : Bool :=
  s.toList.all isBlank

end SprayWatch.Text
