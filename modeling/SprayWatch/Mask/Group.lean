/-!
# Bracket groups

The body of a bracket group says which characters the group takes.  It is a row of unions joined by
the set operators `&&` (both), `--` (the first and not the second) and `~~` (just one of the two),
which bind alike and group to the left.  A union lists single characters and ranges `x-y`.  Where a
dash cannot stand between two ends it is a character like any other, and so are all dashes at the
front.
-/

namespace SprayWatch.Mask

/-- One member of a union. -/
inductive Item where
  | single (c : Char)
  | range (first last : Char)
  deriving Repr, DecidableEq

/-- How two sets of characters are joined. -/
inductive SetOp where
  | both
  | without
  | either
  deriving Repr, DecidableEq

/-- The set of characters that a group lists. -/
structure CharSet where
  first : List Item
  joined : List (SetOp × List Item)
  deriving Repr, DecidableEq

def Item.holds : Item → Char → Bool
  | .single d, c => c == d
  | .range a b, c => a ≤ c && c ≤ b

def SetOp.join : SetOp → Bool → Bool → Bool
  | .both, a, b => a && b
  | .without, a, b => a && !b
  | .either, a, b => a != b

def unionHolds (items : List Item) (c : Char) : Bool :=
  items.any (·.holds c)

def CharSet.holds (s : CharSet) (c : Char) : Bool :=
  s.joined.foldl (fun found p => p.1.join found (unionHolds p.2 c)) (unionHolds s.first c)

/-- A range that runs backwards, with the part of the body before it. -/
structure BackwardRange where
  before : List Char
  first : Char
  last : Char
  deriving Repr, DecidableEq

def SetOp.of? : Char → Char → Option SetOp
  | '&', '&' => some .both
  | '-', '-' => some .without
  | '~', '~' => some .either
  | _, _ => none

def CharSet.add (s : CharSet) (i : Item) : CharSet :=
  match s.joined with
  | [] => { s with first := s.first ++ [i] }
  | (op, items) :: older => { s with joined := (op, items ++ [i]) :: older }

/-- Reads items and operators; the operators met so far are kept newest first. -/
def CharSet.read (before : List Char) (s : CharSet) : List Char → Except BackwardRange CharSet
  | [] => .ok { s with joined := s.joined.reverse }
  | [c] => .ok { s.add (.single c) with joined := (s.add (.single c)).joined.reverse }
  | c :: d :: rest =>
    match SetOp.of? c d with
    | some op => CharSet.read (before ++ [c, d]) { s with joined := (op, []) :: s.joined } rest
    | none =>
      if d = '-' then
        match rest with
        | [] => CharSet.read (before ++ [c]) (s.add (.single c)) [d]
        | e :: rest =>
          if e = '-' then CharSet.read (before ++ [c]) (s.add (.single c)) (d :: e :: rest)
          else if e < c then .error ⟨before, c, e⟩
          else CharSet.read (before ++ [c, d, e]) (s.add (.range c e)) rest
      else CharSet.read (before ++ [c]) (s.add (.single c)) (d :: rest)
termination_by cs => cs.length

def CharSet.ofBody (body : List Char) : Except BackwardRange CharSet :=
  let dashes := body.takeWhile (· == '-')
  CharSet.read dashes ⟨dashes.map .single, []⟩ (body.dropWhile (· == '-'))

end SprayWatch.Mask
