import SprayWatch.CommandLine.Grammar
import SprayWatch.CommandLine.Similarity
/-!
# Matches

What the words of a command line say about the parameters of a level, up to the subcommand if there
is one.

A word that begins with a hyphen names a parameter, unless it is nothing but the hyphen.  A value is
the rest of the word that names the parameter, or the next word.  After two hyphens alone no word
names a parameter any more.
-/

namespace SprayWatch.CommandLine

/-- A parameter that was given: its values, and how often it was given. -/
structure Given where
  parameter : Parameter
  values : List String
  times : Nat
  deriving Repr, DecidableEq

/-- What the last word leaves to expect: nothing in particular; a new word, for a value has just
been given; a value. -/
inductive Expecting where
  | anything
  | newWord
  | value (p : Parameter)
  deriving Repr, DecidableEq

/-- What has been given so far, and what may come next. -/
structure Matches where
  given : List Given
  expecting : Expecting
  deriving Repr, DecidableEq

namespace Matches

def none : Matches := ⟨[], .anything⟩

def given? (m : Matches) (p : Parameter) : Option Given :=
  m.given.find? fun g => g.parameter = p

def valueOf? (m : Matches) (name : String) : Option String :=
  (m.given.find? fun g => g.parameter.name = name).bind fun g => g.values.head?

def isGiven (m : Matches) (name : String) : Bool :=
  m.given.any fun g => g.parameter.name = name

def note (m : Matches) (p : Parameter) (values : List String) (times : Nat) : List Given :=
  match m.given? p with
  | some _ => m.given.map fun g =>
      if g.parameter = p then { g with values := g.values ++ values, times := g.times + times }
      else g
  | .none => m.given ++ [⟨p, values, times⟩]

def awaitValue (m : Matches) (p : Parameter) : Matches :=
  if p.takesValue then ⟨m.note p [] 1, .value p⟩ else ⟨m.note p [] 1, .anything⟩

def close (m : Matches) (p : Parameter) (value : String) : Matches :=
  ⟨m.note p [value] 1, .newWord⟩

def supply (m : Matches) (p : Parameter) (value : String) : Matches :=
  ⟨m.note p [value] 0, .newWord⟩

end Matches

/-- How a word begins. -/
inductive Shape where
  | hyphens
  | long
  | short
  | plain
  deriving Repr, DecidableEq

def Shape.of (word : String) : Shape :=
  match word.toList with
  | ['-', '-'] => .hyphens
  | '-' :: '-' :: _ => .long
  | '-' :: _ :: _ => .short
  | _ => .plain

def bareName (word : String) : List Char := word.toList.dropWhile (· == '-')

def bareValue (value : List Char) : String := String.ofList (value.dropWhile (· == '='))

def readLong (l : Level) (m : Matches) (word : String) : Except Refusal Matches :=
  let bare := bareName word
  let name := String.ofList (bare.takeWhile (· != '='))
  match l.parameters.find? fun p => p.name = name with
  | some p =>
    if p.takesValue && bare.contains '=' then
      .ok (m.close p (bareValue ((bare.dropWhile (· != '=')).drop 1)))
    else .ok (m.awaitValue p)
  | none =>
    if name = "help" then .error .helpAsked
    else if name = "version" then .error (.versionAsked l.version)
    else .error (.unknownArgument ("--" ++ name))

def readShort (l : Level) (m : Matches) (word : String) : Except Refusal Matches :=
  match bareName word with
  | [] => .ok m
  | c :: rest =>
    match l.parameters.find? fun p => p.letter = some c with
    | some p =>
      if p.takesValue && !rest.isEmpty then .ok (m.close p (bareValue rest)) else .ok (m.awaitValue p)
    | none =>
      if c = 'h' then .error .helpAsked
      else if c = 'V' then .error (.versionAsked l.version)
      else .error (.unknownArgument (String.ofList ['-', c]))

def refuse (l : Level) (word : String) : Refusal :=
  if l.subcommands.any (isLike word) then .similarSubcommand word else .unknownArgument word

/-- The words of a level, up to a subcommand: what they match, and the subcommand with the words
after it. -/
def readLevel (l : Level) (m : Matches) :
    List String → Except Refusal (Matches × Option (String × List String))
  | [] => .ok (m, none)
  | w :: ws =>
    let waiting := match m.expecting with
      | .value _ => true
      | _ => false
    if Shape.of w = .hyphens then
      match ws with
      | [] => .ok (m, none)
      | next :: _ => .error (refuse l next)
    else if !waiting && l.subcommands.contains w then .ok (m, some (w, ws))
    else
      match Shape.of w with
      | .long => do readLevel l (← readLong l m w) ws
      | .short => do readLevel l (← readShort l m w) ws
      | _ =>
        match m.expecting with
        | .value p => readLevel l (m.supply p w) ws
        | _ => .error (refuse l w)

/-! ## Checks -/

def missing (l : Level) (m : Matches) : List Parameter :=
  l.parameters.filter fun p => p.isRequired && !m.isGiven p.name

/-- A parameter that was given without a value, or more than once. -/
def Given.fault? (g : Given) : Option Refusal :=
  if g.parameter.takesValue && g.values.isEmpty then some (.noValue g.parameter)
  else if 1 < g.times then some (.repeated g.parameter)
  else none

def check (l : Level) (m : Matches) : Except Refusal Unit := do
  match missing l m with
  | [] => pure ()
  | ps => .error (.missing ps)
  match m.expecting with
  | .value p => if (m.valueOf? p.name).isNone then .error (.noValue p)
  | _ => pure ()
  match m.given.findSome? Given.fault? with
  | some r => .error r
  | none => pure ()

end SprayWatch.CommandLine
