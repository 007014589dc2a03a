import SprayWatch.Path
import SprayWatch.Text.Blank
/-!
# Commands

A command is an executable and its arguments.  The arguments of the monitored tool have the form
`key=value`; the one called `action` says what is to be done.  When a command is shown, passwords
are not.
-/

namespace SprayWatch

/-- A command to be run: the program and its arguments. -/
structure Command where
  executable : Path
  args : List String
  deriving Repr, DecidableEq

namespace Command

def bare (executable : Path) : Command := ⟨executable, []⟩

def arg (c : Command) (a : String) : Command := { c with args := c.args ++ [a] }

def withArgs (c : Command) (as : List String) : Command := { c with args := c.args ++ as }

def argValue? (key a : String) : Option String :=
  let front := (key ++ "=").toList
  if front.isPrefixOf a.toList then some (String.ofList (a.toList.drop front.length)) else none

def valueOf? (c : Command) (key : String) : Option String :=
  c.args.findSome? (argValue? key)

def action? (c : Command) : Option String := c.valueOf? "action"

def showArg (a : String) : String :=
  if (argValue? "password" a).isSome then "password=****" else a

def display (c : Command) : String :=
  String.join (c.executable.text :: c.args.map fun a => " " ++ showArg a)

/-- Do the commands run the same executable with the same arguments? -/
def same (c d : Command) : Bool := c.executable.same d.executable && c.args == d.args

def query (base : Command) (jobId : String) : Command :=
  if Text.isAllBlank jobId then base else base.arg ("wuid=" ++ jobId)

def status (base : Command) (jobId : String) : Command :=
  (query base jobId).arg "action=status"

def abort (base : Command) (jobId : String) : Command :=
  (query base jobId).arg "action=abort"

def list (base : Command) (mask : String) : Command :=
  (base.arg "action=list").arg ("name=" ++ mask)

end Command

end SprayWatch
