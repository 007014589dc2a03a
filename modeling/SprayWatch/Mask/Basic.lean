import SprayWatch.Mask.Group
/-!
# File masks

A mask is read into tokens: `*` stands for any text, `?` for any character, and `[…]` for one of the
characters that a group lists, or with `[!…]` for one of the others.  A group is closed by the first
`]` after a body that is not empty; a `[` that opens no group stands for itself, as does every other
character.
-/

namespace SprayWatch.Mask

/-- What a mask is made of. -/
inductive Token where
  | anyText
  | anyChar
  | exactly (c : Char)
  | group (negated : Bool) (body : List Char)
  deriving Repr, DecidableEq

/-- The body of the group that begins here, if a later `]` closes it. -/
def groupBody? (cs : List Char) : Option (List Char) :=
  let body := cs.takeWhile (· != ']')
  if body.isEmpty || body.length = cs.length then none else some body

def Token.ofBody : List Char → Token
  | '!' :: body => .group true body
  | body => .group false body

def tokens : List Char → List Token
  | [] => []
  | '*' :: cs => .anyText :: tokens cs
  | '?' :: cs => .anyChar :: tokens cs
  | '[' :: cs =>
    match groupBody? cs with
    | some body => Token.ofBody body :: tokens (cs.drop (body.length + 1))
    | none => .exactly '[' :: tokens cs
  | c :: cs => .exactly c :: tokens cs
termination_by cs => cs.length

/-- One place of a pattern: the rest of a name, or the characters that may stand there. -/
inductive Place where
  | anyText
  | anyChar
  | exactly (c : Char)
  | oneOf (negated : Bool) (set : CharSet)
  deriving Repr, DecidableEq

/-- The places of a mask that reads. -/
structure Pattern where
  places : List Place
  deriving Repr, DecidableEq

/-- May the character stand at the place?  Line feeds are taken only where they are asked for. -/
def Place.takes : Place → Char → Bool
  | .anyText, c => c != '\n'
  | .anyChar, c => c != '\n'
  | .exactly d, c => c == d
  | .oneOf negated set, c => set.holds c != negated

/-- For each rest of the pattern, whether it can match no characters at all. -/
def restsMatchNothing : List Place → List Bool
  | [] => [true]
  | p :: ps =>
    let rests := restsMatchNothing ps
    (p == .anyText && rests.headD false) :: rests

/-- For each rest of the pattern, whether it matches the text once `c` is put in front of it. -/
def restsMatchMore (c : Char) : List Place → List Bool → List Bool
  | [], _ => [false]
  | p :: ps, before =>
    let rests := restsMatchMore c ps before.tail
    let here :=
      match p with
      | .anyText => rests.headD false || (p.takes c && before.headD false)
      | _ => p.takes c && before.tail.headD false
    here :: rests

/-- For each rest of the pattern, whether it matches the characters. -/
def restsMatch (ps : List Place) : List Char → List Bool
  | [] => restsMatchNothing ps
  | c :: cs => restsMatchMore c ps (restsMatch ps cs)

def Pattern.matches (p : Pattern) (name : String) : Bool :=
  (restsMatch p.places name.toList).headD false

end SprayWatch.Mask
