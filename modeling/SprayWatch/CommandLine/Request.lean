import SprayWatch.CommandLine.Matches
import SprayWatch.Config
import SprayWatch.Operation
/-!
# Requests

The command line of the program: where its configuration is, and the operation it is asked for, with
a subcommand for each kind of operation.
-/

namespace SprayWatch.CommandLine

/-- What a command line asks for.  The format of a spray is read only when the operation is made. -/
structure Request where
  config : Path
  subcommand : String
  parameters : Matches
  deriving Repr, DecidableEq

def programName : String := "dfu-monitor"

def nameParameter : Parameter := .required "name"
def clusterParameter : Parameter := .required "cluster"
def overwriteParameter : Parameter := .flag "overwrite"

def subcommands : List (String × List Parameter) :=
  [("spray", [.required "file", nameParameter, clusterParameter, overwriteParameter,
      .optional "format"]),
    ("spray-dir", [.required "dir", nameParameter, clusterParameter, overwriteParameter,
      .optional "prefix", .flag "delete-source"]),
    ("despray", [nameParameter, .required "file", .optional "ip"]),
    ("delete", [nameParameter]),
    ("list", [.required "mask"]),
    ("poll", [nameParameter])]

def helpName : String := "help"

def topLevel : Level :=
  ⟨programName ++ " 0.1.0", [⟨"config", some 'c', true, false⟩],
    subcommands.map Prod.fst ++ [helpName]⟩

def subLevel (name : String) (parameters : List Parameter) : Level :=
  ⟨programName ++ "-" ++ name ++ " ", parameters, []⟩

def helpOn : List String → Refusal
  | [] => .helpAsked
  | w :: ws =>
    if topLevel.subcommands.contains w then
      match ws with
      | [] => .helpAsked
      | next :: _ => .unknownSubcommand next
    else .unknownSubcommand w

/-- Reads the words of a command line, those after the program's name. -/
def read (words : List String) : Except Refusal Request := do
  let (top, sub) ← readLevel topLevel .none words
  match sub with
  | none => .error .noSubcommand
  | some (name, rest) =>
    if name = helpName then .error (helpOn rest)
    let level := subLevel name ((subcommands.lookup name).getD [])
    let (found, _) ← readLevel level .none rest
    check level found
    check topLevel top
    return ⟨⟨(top.valueOf? "config").getD Config.usualPath⟩, name, found⟩

def Request.operation (r : Request) : Except Json.Fault Operation :=
  let value (name : String) : String := (r.parameters.valueOf? name).getD ""
  let given (name : String) : Bool := r.parameters.isGiven name
  match r.subcommand with
  | "spray" => do
    let format ← match r.parameters.valueOf? "format" with
      | some text => (SprayFormat.ofJson text).map some
      | none => pure none
    return .spray ⟨value "file"⟩ (value "name") (value "cluster") (given "overwrite") format
  | "spray-dir" =>
    return .sprayDirectory ⟨value "dir"⟩ (value "name") (value "cluster") (given "overwrite")
      (r.parameters.valueOf? "prefix") (given "delete-source")
  | "despray" => return .despray (value "name") ⟨value "file"⟩ (r.parameters.valueOf? "ip")
  | "delete" => return .delete (value "name")
  | "list" => return .list (value "mask")
  | _ => return .poll (value "name")

end SprayWatch.CommandLine
