/-!
# Shell patterns

In a pattern a star stands for any characters, a question mark for one, and a bracket group for one
of those that it lists.  A quoted character stands for itself.
-/

namespace SprayWatch.Shell

/-- A character, and whether it is quoted. -/
structure Glyph where
  char : Char
  isQuoted : Bool
  deriving Repr, DecidableEq

/-- One element of a pattern. -/
inductive Element where
  | one (c : Char)
  | anyOne
  | any
  | group (negated : Bool) (members : List (Char × Char))
  deriving Repr, DecidableEq

def Glyph.isActive (g : Glyph) (c : Char) : Bool := g.char == c && !g.isQuoted

def classMembers (name : String) : List (Char × Char) :=
  match name with
  | "digit" => [('0', '9')]
  | "lower" => [('a', 'z')]
  | "upper" => [('A', 'Z')]
  | "alpha" => [('a', 'z'), ('A', 'Z')]
  | "alnum" => [('a', 'z'), ('A', 'Z'), ('0', '9')]
  | "space" => [(' ', ' '), ('\t', '\r')]
  | "blank" => [(' ', ' '), ('\t', '\t')]
  | "xdigit" => [('0', '9'), ('a', 'f'), ('A', 'F')]
  | "punct" => [('!', '/'), (':', '@'), ('[', Char.ofNat 96), (Char.ofNat 123, '~')]
  | _ => []

/-- The members of a group, and what follows the bracket that closes it. -/
def groupMembers : Nat → Bool → List Glyph → Option (List (Char × Char) × List Glyph)
  | 0, _, _ => none
  | _, _, [] => none
  | n + 1, isFirst, g :: rest =>
    if g.isActive ']' && !isFirst then some ([], rest)
    else
      match rest with
      | colon :: more =>
        if g.isActive '[' && colon.isActive ':' then
          let name := more.takeWhile fun h => h.char != ':'
          match more.drop name.length with
          | _ :: close :: left =>
            if close.isActive ']' then
              (groupMembers n false left).map fun (ms, after) =>
                (classMembers (String.ofList (name.map Glyph.char)) ++ ms, after)
            else none
          | _ => none
        else if colon.isActive '-' then
          match more with
          | high :: left =>
            if high.isActive ']' then
              (groupMembers n false rest).map fun (ms, after) => ((g.char, g.char) :: ms, after)
            else
              (groupMembers n false left).map fun (ms, after) => ((g.char, high.char) :: ms, after)
          | [] => none
        else (groupMembers n false rest).map fun (ms, after) => ((g.char, g.char) :: ms, after)
      | [] => none

/-- The elements of a pattern.  A bracket that is not closed stands for itself. -/
def elements : Nat → List Glyph → List Element
  | 0, _ => []
  | _, [] => []
  | n + 1, g :: rest =>
    if g.isActive '*' then .any :: elements n rest
    else if g.isActive '?' then .anyOne :: elements n rest
    else if g.isActive '[' then
      let negated := rest.head?.any fun h => h.isActive '!' || h.isActive '^'
      let body := if negated then rest.drop 1 else rest
      match groupMembers (body.length + 1) true body with
      | some (ms, left) => .group negated ms :: elements n left
      | none => .one g.char :: elements n rest
    else .one g.char :: elements n rest

def Element.admits (c : Char) : Element → Bool
  | .one d => c == d
  | .anyOne => true
  | .any => false
  | .group negated ms => ms.any (fun m => m.1 ≤ c && c ≤ m.2) != negated

/-- Does the sequence of elements match the characters as a whole?  The table tells, for each rest of
the characters, whether the later elements match it. -/
def matchTable : List Element → List Char → List Bool
  | [], cs => cs.map (fun _ => false) ++ [true]
  | .any :: es, cs =>
    let later := matchTable es cs
    (List.range later.length).map fun i => (later.drop i).any id
  | e :: es, cs =>
    let later := matchTable es cs
    (cs.zip (later.drop 1)).map (fun (c, rest) => e.admits c && rest) ++ [false]

def fits (pattern : List Glyph) (cs : List Char) : Bool :=
  (matchTable (elements (pattern.length + 1) pattern) cs).head?.getD false

/-- Does the pattern hold any character with a special meaning? -/
def isPattern (gs : List Glyph) : Bool :=
  gs.any fun g => g.isActive '*' || g.isActive '?' || g.isActive '['

end SprayWatch.Shell
