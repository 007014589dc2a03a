import SprayWatch.Text.Utf8
/-!
# Lines of a byte stream

A stream of bytes is cut after each line feed.  What follows the last line feed is a line too, unless
it is empty.  A line loses the line feed and any carriage returns at its end.
-/

namespace SprayWatch.Text

/-- The pieces of a stream, each with the line feed that ends it, if one does. -/
def segments : List UInt8 → List (List UInt8)
  | [] => []
  | b :: rest =>
    if b = 10 then [b] :: segments rest
    else
      match segments rest with
      | [] => [[b]]
      | s :: more =>  (b :: s) :: more

/-- The characters without the line feeds and carriage returns at the end. -/
def dropLineEnd : List Char → List Char
  | [] => []
  | c :: cs =>
    match dropLineEnd cs with
    | [] => if c = '\r' || c = '\n' then [] else [c]
    | d :: ds => c :: d :: ds

def lineOf (segment : List UInt8) : String :=
  String.ofList (dropLineEnd ((readChars segment).map (·.getD replacement)))

def linesOf (bytes : List UInt8) : List String :=
  (segments bytes).map lineOf

end SprayWatch.Text
