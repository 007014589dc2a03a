import SprayWatch.Log
import SprayWatch.Mask.Expression
import SprayWatch.Output.ErrorRecord
import SprayWatch.Text.Blank
import SprayWatch.Text.Lowercase
/-!
# Output of a listing

A listing repeats the request and then names files, one a line.  An error record anywhere in it marks
the whole listing.  It is read in two ways: to find out whether some file matches a mask, counting
only lines after the repeated request, or to collect the names up to the first error.
-/

namespace SprayWatch.Output

def echoOf (mask : String) : String :=
  Text.lowercase ("List " ++ mask)

def isEcho (mask line : String) : Bool :=
  Text.lowercase (Text.trim line) == echoOf mask

/-- Waiting for a file: whether a line has matched the mask. -/
structure Match where
  mask : String
  pattern : Mask.Pattern
  armed : Bool
  found : Bool
  hasErrors : Bool
  deriving Repr, DecidableEq

namespace Match

def start (mask : String) : Except Mask.Fault Match :=
  (Mask.compile mask).map fun pattern => ⟨mask, pattern, false, false, false⟩

def feed (m : Match) (line : String) : Match :=
  let m := { m with hasErrors := m.hasErrors || isErrorRecord line }
  if isEcho m.mask line then { m with armed := true }
  else { m with found := m.found || (m.armed && m.pattern.matches (Text.trim line)) }

def records (_ : Match) (line : String) : List Log.Record :=
  [.of .trace "parser" ["Processing Line", line]]

end Match

/-- Collecting names: those read so far. -/
structure Listing where
  mask : String
  files : List String
  hasErrors : Bool
  deriving Repr, DecidableEq

namespace Listing

def start (mask : String) : Listing := ⟨mask, [], false⟩

def feed (l : Listing) (line : String) : Listing :=
  let l := { l with hasErrors := l.hasErrors || isErrorRecord line }
  if isEcho l.mask line || l.hasErrors then l
  else
    let name := Text.trim line
    if name.isEmpty then l else { l with files := l.files ++ [name] }

def records (l : Listing) (line : String) : List Log.Record :=
  if !isEcho l.mask line && (l.feed line).hasErrors then
    [.of .warning "parser" ["Errors Detected in dfuplus output"]]
  else []

end Listing

end SprayWatch.Output
