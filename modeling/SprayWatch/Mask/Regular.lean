import SprayWatch.Mask.Expression

/-!
# Regular expressions

The language in which masks are shown, as far as they use it.  An expression is a row of steps.  `^`
is passed at the beginning of the text only, and `$` at its end.  All other steps take characters:
one, or any number if a `*` follows.  A point takes any character but a line feed, a class in
brackets those that it lists, or with `^` in front all others; a backslash makes the mark after it a
character like any other.  A class ends at the first `]`, unless that is its first character.  What
it lists is written as bodies of groups are, except that characters after a backslash are never part
of an operator and make no ranges.  Other repetitions, alternatives, captures and classes within
classes are not read here.

An expression matches a text if its steps can be taken one after the other from some place in it.
-/

namespace SprayWatch.Mask.Regular

/-- What takes a character. -/
inductive Atom where
  | anyChar
  | exactly (c : Char)
  | oneOf (negated : Bool) (set : CharSet)
  deriving Repr, DecidableEq

inductive Step where
  | start
  | stop
  | one (a : Atom)
  | many (a : Atom)
  deriving Repr, DecidableEq

def Atom.takes : Atom → Char → Bool
  | .anyChar, c => c != '\n'
  | .exactly d, c => c == d
  | .oneOf negated set, c => set.holds c != negated

/-! ## Reading -/

/-- A character of a class, and whether a backslash stands before it. -/
structure Glyph where
  char : Char
  isEscaped : Bool
  deriving Repr, DecidableEq

def Glyph.isDash (g : Glyph) : Bool := g.char == '-' && !g.isEscaped

def Glyph.op? (g h : Glyph) : Option SetOp :=
  if g.isEscaped || h.isEscaped then none else SetOp.of? g.char h.char

/-- The characters up to the bracket that closes the class, and what follows it. -/
def glyphs? : List Char → Option (List Glyph × List Char)
  | [] => none
  | ']' :: cs => some ([], cs)
  | '[' :: _ => none
  | ['\\'] => none
  | '\\' :: c :: cs =>
    if isSpecial c then (glyphs? cs).map fun p => (⟨c, true⟩ :: p.1, p.2) else none
  | c :: cs => (glyphs? cs).map fun p => (⟨c, false⟩ :: p.1, p.2)

/-- Reads items and operators; the operators met so far are kept newest first. -/
def readSet (s : CharSet) : List Glyph → Option CharSet
  | [] => some { s with joined := s.joined.reverse }
  | [g] => some { s.add (.single g.char) with joined := (s.add (.single g.char)).joined.reverse }
  | g :: h :: rest =>
    match g.op? h with
    | some op => readSet { s with joined := (op, []) :: s.joined } rest
    | none =>
      if h.isDash then
        match rest with
        | [] => readSet (s.add (.single g.char)) [h]
        | last :: rest =>
          if last.isDash then readSet (s.add (.single g.char)) (h :: last :: rest)
          else if last.char < g.char then none
          else readSet (s.add (.range g.char last.char)) rest
      else readSet (s.add (.single g.char)) (h :: rest)
termination_by gs => gs.length

/-- A class after its opening bracket and `^`, and what follows it.  A bracket that closes it at
once stands for itself, and so do all dashes at the front. -/
def charClass? : List Char → Option (CharSet × List Char)
  | ']' :: cs =>
    (glyphs? cs).bind fun (p : List Glyph × List Char) =>
      (readSet ⟨[.single ']'], []⟩ p.1).map fun set => (set, p.2)
  | cs =>
    (glyphs? cs).bind fun (p : List Glyph × List Char) =>
      let dashes := p.1.takeWhile Glyph.isDash
      (readSet ⟨dashes.map fun (g : Glyph) => .single g.char, []⟩ (p.1.dropWhile Glyph.isDash)).map
        fun set => (set, p.2)

/-- Marks that have no meaning where an atom begins, or none that is read here. -/
def isUnread (c : Char) : Bool := "*+?()|\x7b".toList.contains c

/-- The atom that begins with a character, and what follows it. -/
def atom? (c : Char) (cs : List Char) : Option (Atom × List Char) :=
  match c, cs with
  | '.', cs => some (.anyChar, cs)
  | '\\', d :: cs => if isSpecial d then some (.exactly d, cs) else none
  | '\\', [] => none
  | '[', '^' :: cs => (charClass? cs).map fun p => (.oneOf true p.1, p.2)
  | '[', cs => (charClass? cs).map fun p => (.oneOf false p.1, p.2)
  | c, cs => if isUnread c then none else some (.exactly c, cs)

theorem length_of_glyphs? {cs : List Char} {p : List Glyph × List Char}
    (hread : glyphs? cs = some p) : p.2.length < cs.length := by
  fun_induction glyphs? cs generalizing p with
  | case1 => simp at hread
  | case2 cs =>
      obtain rfl := Option.some.inj hread
      simp
  | case3 => simp at hread
  | case4 => simp at hread
  | case5 c cs hspecial ih =>
      obtain ⟨q, hq, rfl⟩ := Option.map_eq_some_iff.mp hread
      have hlater := ih hq
      simp only [List.length_cons]
      omega
  | case6 => simp at hread
  | case7 c cs _ _ _ _ ih =>
      obtain ⟨q, hq, rfl⟩ := Option.map_eq_some_iff.mp hread
      have hlater := ih hq
      simp only [List.length_cons]
      omega

theorem length_of_charClass? {cs : List Char} {p : CharSet × List Char}
    (hread : charClass? cs = some p) : p.2.length < cs.length := by
  unfold charClass? at hread
  split at hread
  next cs =>
    obtain ⟨q, hq, hset⟩ := Option.bind_eq_some_iff.mp hread
    obtain ⟨set, -, rfl⟩ := Option.map_eq_some_iff.mp hset
    exact Nat.lt_succ_of_lt (length_of_glyphs? hq)
  next =>
    obtain ⟨q, hq, hset⟩ := Option.bind_eq_some_iff.mp hread
    obtain ⟨set, -, rfl⟩ := Option.map_eq_some_iff.mp hset
    exact length_of_glyphs? hq

theorem length_of_atom? {c : Char} {cs : List Char} {p : Atom × List Char}
    (hread : atom? c cs = some p) : p.2.length ≤ cs.length := by
  unfold atom? at hread
  split at hread
  next =>
    obtain rfl := Option.some.inj hread
    exact Nat.le_refl _
  next d cs =>
    split at hread
    next =>
      obtain rfl := Option.some.inj hread
      exact Nat.le_succ _
    next => simp at hread
  next => simp at hread
  next cs =>
    obtain ⟨q, hq, rfl⟩ := Option.map_eq_some_iff.mp hread
    exact Nat.le_succ_of_le (Nat.le_of_lt (length_of_charClass? hq))
  next =>
    obtain ⟨q, hq, rfl⟩ := Option.map_eq_some_iff.mp hread
    exact Nat.le_of_lt (length_of_charClass? hq)
  next =>
    split at hread
    next => simp at hread
    next =>
      obtain rfl := Option.some.inj hread
      exact Nat.le_refl _

/-- The step that an atom makes with what follows it, and what is left then. -/
def repeated (a : Atom) : List Char → Step × List Char
  | '*' :: cs => (.many a, cs)
  | cs => (.one a, cs)

theorem length_of_repeated (a : Atom) (cs : List Char) : (repeated a cs).2.length ≤ cs.length := by
  unfold repeated
  split
  next => exact Nat.le_succ _
  next => exact Nat.le_refl _

/-- The steps of an expression. -/
def steps? : List Char → Option (List Step)
  | [] => some []
  | '^' :: cs => (steps? cs).map (.start :: ·)
  | '$' :: cs => (steps? cs).map (.stop :: ·)
  | c :: cs =>
    match _hread : atom? c cs with
    | none => none
    | some p => (steps? (repeated p.1 p.2).2).map ((repeated p.1 p.2).1 :: ·)
termination_by cs => cs.length
decreasing_by
  · simp
  · simp
  · have hatom := length_of_atom? _hread
    have hrepeated := length_of_repeated p.1 p.2
    simp only [List.length_cons]
    omega

/-! ## Matching -/

/-- The steps can be taken from the place that has `before` behind it and `rest` ahead of it. -/
inductive Runs : List Step → List Char → List Char → Prop
  | nil {before rest : List Char} : Runs [] before rest
  | start {steps : List Step} {rest : List Char} (hsteps : Runs steps [] rest) :
      Runs (.start :: steps) [] rest
  | stop {steps : List Step} {before : List Char} (hsteps : Runs steps before []) :
      Runs (.stop :: steps) before []
  | one {a : Atom} {c : Char} {steps : List Step} {before rest : List Char}
      (htakes : a.takes c = true) (hsteps : Runs steps (before ++ [c]) rest) :
      Runs (.one a :: steps) before (c :: rest)
  | many {a : Atom} {taken : List Char} {steps : List Step} {before rest : List Char}
      (htakes : ∀ c ∈ taken, a.takes c = true) (hsteps : Runs steps (before ++ taken) rest) :
      Runs (.many a :: steps) before (taken ++ rest)

/-- The expression matches some part of the text. -/
def Matches (steps : List Step) (text : List Char) : Prop :=
  ∃ before rest, text = before ++ rest ∧ Runs steps before rest

end SprayWatch.Mask.Regular
