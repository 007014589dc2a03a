/-!
# Shell scripts

What a script of the command language says, once it has been read: words with their parts, and
commands with their redirections.
-/

namespace SprayWatch.Shell

/-- What is cut off a parameter's value: the shortest or the longest match, at the front or the
back. -/
structure Cut where
  atFront : Bool
  longest : Bool
  deriving Repr, DecidableEq

mutual

/-- A part of a word: text that stands for itself but may hold pattern characters, text in which
every character stands for itself, a quoted sequence of parts, a parameter, the output of commands,
or the value of a sum. -/
inductive Part where
  | plain (text : String)
  | fixed (text : String)
  | quoted (parts : List Part)
  | param (name : String) (use : Use)
  | output (script : Command)
  | sum (parts : List Part)

/-- How a parameter is used.  The ones with a word treat a parameter that is not set in a special
way; with `blankToo`, also one that is blank. -/
inductive Use where
  | value
  | length
  | orElse (blankToo : Bool) (word : List Part)
  | assign (blankToo : Bool) (word : List Part)
  | insist (blankToo : Bool) (word : List Part)
  | instead (blankToo : Bool) (word : List Part)
  | cut (how : Cut) (word : List Part)

/-- Where a numbered stream of a command leads. -/
inductive Redirect where
  | write (stream : Nat) (append : Bool) (target : List Part)
  | read (stream : Nat) (target : List Part)
  | copy (stream : Nat) (source : List Part)
  | text (stream : Nat) (body : List Part)

/-- A command of a script. -/
inductive Command where
  | simple (line : Nat) (assignments : List (String × List Part)) (words : List (List Part))
      (redirects : List Redirect)
  | sequence (commands : List Command)
  | both (first second : Command)
  | either (first second : Command)
  | inverted (command : Command)
  | pipeline (stages : List Command)
  | background (command : Command)
  | subshell (command : Command)
  | choice (condition consequence : Command) (alternative : Option Command)
  | loop (whileTrue : Bool) (condition body : Command)
  | each (name : String) (words : Option (List (List Part))) (body : Command)
  | select (word : List Part) (arms : List (List (List Part) × Command))
  | function (name : String) (body : Command)
  | redirected (command : Command) (redirects : List Redirect)

end

/-- A word. -/
abbrev Word := List Part

instance : Inhabited Command := ⟨.sequence []⟩

end SprayWatch.Shell
