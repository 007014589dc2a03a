/-!
# Grammar of command lines

Which parameters and subcommands a command line may have, and why one can be refused.
-/

namespace SprayWatch.CommandLine

/-- A parameter with a long name, perhaps a one-letter name, and perhaps a value. -/
structure Parameter where
  name : String
  letter : Option Char
  takesValue : Bool
  isRequired : Bool
  deriving Repr, DecidableEq

namespace Parameter

def required (name : String) : Parameter := ⟨name, none, true, true⟩

def optional (name : String) : Parameter := ⟨name, none, true, false⟩

def flag (name : String) : Parameter := ⟨name, none, false, false⟩

def text (p : Parameter) : String :=
  if p.takesValue then "--" ++ p.name ++ " <" ++ p.name ++ ">" else "--" ++ p.name

end Parameter

/-- The program itself, or one of its subcommands: what its version line says, its parameters and
its own subcommands. -/
structure Level where
  version : String
  parameters : List Parameter
  subcommands : List String
  deriving Repr, DecidableEq

/-- Why a command line is not carried out. -/
inductive Refusal where
  | helpAsked
  | versionAsked (line : String)
  | noSubcommand
  | unknownArgument (argument : String)
  | similarSubcommand (word : String)
  | unknownSubcommand (word : String)
  | missing (parameters : List Parameter)
  | noValue (p : Parameter)
  | repeated (p : Parameter)
  deriving Repr, DecidableEq

/-- What is said first about a refusal; where help is shown instead there is nothing to say. -/
def Refusal.message? : Refusal → Option String
  | .helpAsked | .versionAsked _ | .noSubcommand => none
  | .unknownArgument a =>
    some ("error: Found argument '" ++ a ++
      "' which wasn't expected, or isn't valid in this context")
  | .similarSubcommand w | .unknownSubcommand w =>
    some ("error: The subcommand '" ++ w ++ "' wasn't recognized")
  | .missing _ => some "error: The following required arguments were not provided:"
  | .noValue p =>
    some ("error: The argument '" ++ p.text ++ "' requires a value but none was supplied")
  | .repeated p =>
    some ("error: The argument '" ++ p.text ++
      "' was provided more than once, but cannot be used multiple times")

def Refusal.messageLine? (r : Refusal) : Option String :=
  r.message?.map fun m => String.ofList (m.toList.takeWhile (· != '\n'))

end SprayWatch.CommandLine
