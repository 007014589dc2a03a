/-!
# Error records

The tool writes its own errors as records: five fields, of digits, digits and dashes, digits and
colons, digits, digits, each followed by one space, and then a text in double quotes.  What follows
the closing quote is of no account.
-/

namespace SprayWatch.Output

/-- Passes over a field that is not empty and the space after it. -/
def afterField? (isPart : Char → Bool) (cs : List Char) : Option (List Char) :=
  match cs.takeWhile isPart, cs.dropWhile isPart with
  | _ :: _, ' ' :: rest => some rest
  | _, _ => none

/-- Do the characters begin with a text in double quotes, on one line? -/
def startsQuoted : List Char → Bool
  | '"' :: cs => (cs.takeWhile (· != '\n')).contains '"'
  | _ => false

def isDigitOr (extra : Char) (c : Char) : Bool := c.isDigit || c == extra

def isErrorRecord (line : String) : Bool :=
  let text? := (afterField? Char.isDigit line.toList).bind fun cs =>
    (afterField? (isDigitOr '-') cs).bind fun cs =>
    (afterField? (isDigitOr ':') cs).bind fun cs =>
    (afterField? Char.isDigit cs).bind fun cs =>
    afterField? Char.isDigit cs
  match text? with
  | some cs => startsQuoted cs
  | none => false

end SprayWatch.Output
