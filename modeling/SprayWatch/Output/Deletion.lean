import SprayWatch.Log
/-!
# Output of a deletion

The tool says how far a deletion got in lines that begin with a phrase for each stage.  The last line
that begins with such a phrase counts.
-/

namespace SprayWatch.Output

/-- How far a deletion got. -/
inductive Deletion where
  | unknown
  | removing
  | deleted
  | notFound
  deriving Repr, DecidableEq

namespace Deletion

def all : List Deletion := [.unknown, .removing, .deleted, .notFound]

def text : Deletion → String
  | .unknown => "Unknown"
  | .removing => "Removing"
  | .deleted => "Deleted File"
  | .notFound => "File not found"

def stageOf? (line : String) : Option Deletion :=
  all.find? fun s => s.text.toList.isPrefixOf line.toList

def feed (d : Deletion) (line : String) : Deletion :=
  (stageOf? line).getD d

def records (_ : Deletion) (line : String) : List Log.Record :=
  [.of .trace "parser" ["Processing Line", line]]

end Deletion

end SprayWatch.Output
