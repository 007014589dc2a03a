import SprayWatch.Mask.Regular
import SprayWatch.Proofs.MaskReading

/-!
# What the expression of a mask says

A mask is shown as a regular expression.  Read as one, the expression has a step for each place of
the pattern, between the two anchors: the backslashes are where they are needed, outside of groups
and inside, and no character of the mask gets a meaning that it is not to have.  So the expression
matches the names that the pattern matches, and where the mask does not read, neither does the
expression.
-/

namespace SprayWatch.Mask

open Regular

/-! ## Bodies of groups -/

/-- A character of a body as it is shown. -/
def glyph (c : Char) : Glyph := ⟨c, isSpecialInGroup c⟩

theorem glyph_char (c : Char) : (glyph c).char = c := rfl

theorem glyph_isDash (c : Char) : (glyph c).isDash = (c == '-') := by
  by_cases hdash : c = '-'
  · rw [hdash]
    rfl
  · simp [glyph, Glyph.isDash, hdash]

theorem op?_glyph (c d : Char) : (glyph c).op? (glyph d) = SetOp.of? c d := by
  cases hop : SetOp.of? c d with
  | none => simp [Glyph.op?, glyph, hop]
  | some op =>
      have hmark : op.mark = [c, d] := SetOp.mark_of_of? hop
      have hplain : ∀ e ∈ op.mark, isSpecialInGroup e = false := by
        cases op <;> simp [SetOp.mark, isSpecialInGroup]
      rw [hmark] at hplain
      have hc := hplain c (by simp)
      have hd := hplain d (by simp)
      simp [Glyph.op?, glyph, hc, hd, hop]

theorem readSet_map_glyph (before body : List Char) (s : CharSet) :
    readSet s (body.map glyph) = (CharSet.read before s body).toOption := by
  fun_induction CharSet.read before s body with
  | case1 before s => rw [List.map_nil, readSet]; rfl
  | case2 before s c => rw [List.map_cons, List.map_nil, readSet]; rfl
  | case3 before s c d rest op hop ih =>
      rw [List.map_cons, List.map_cons, readSet.eq_def]
      simp only [op?_glyph, hop, ih]
  | case4 before s c hop ih =>
      rw [List.map_cons, List.map_cons, readSet.eq_def]
      simp only [op?_glyph, hop, glyph_isDash]
      exact ih
  | case5 before s c rest hop ih =>
      rw [List.map_cons, List.map_cons, List.map_cons, readSet.eq_def]
      simp only [op?_glyph, hop, glyph_isDash]
      exact ih
  | case6 before s c last rest hdash hbackwards hop =>
      rw [List.map_cons, List.map_cons, List.map_cons, readSet.eq_def]
      simp [op?_glyph, hop, glyph_isDash, hdash, glyph_char, hbackwards, Except.toOption]
  | case7 before s c last rest hdash hforwards hop ih =>
      rw [List.map_cons, List.map_cons, List.map_cons, readSet.eq_def]
      simp only [op?_glyph, hop, glyph_isDash]
      simpa [hdash, glyph_char, hforwards] using ih
  | case8 before s c d rest hop hdash ih =>
      rw [List.map_cons, List.map_cons, readSet.eq_def]
      simp only [op?_glyph, hop, glyph_isDash]
      simpa [hdash, glyph_char] using ih

theorem showBody_cons (c : Char) (body : List Char) :
    showBody (c :: body) = (if isSpecialInGroup c then ['\\', c] else [c]) ++ showBody body := rfl

theorem isSpecialInGroup_iff {c : Char} :
    isSpecialInGroup c = true ↔ c = '\\' ∨ c = '[' ∨ c = '^' := by
  simp [isSpecialInGroup, or_assoc]

theorem isSpecialInGroup_eq_false_iff {c : Char} :
    isSpecialInGroup c = false ↔ c ≠ '\\' ∧ c ≠ '[' ∧ c ≠ '^' := by
  rw [Bool.eq_false_iff, Ne, isSpecialInGroup_iff, not_or, not_or]

theorem isSpecial_of_isSpecialInGroup {c : Char} (hspecial : isSpecialInGroup c = true) :
    isSpecial c = true := by
  rcases isSpecialInGroup_iff.mp hspecial with rfl | rfl | rfl <;> rfl

/-- A character that is shown without a backslash is none of the marks of expressions. -/
theorem ne_mark_of_plain {c : Char} (hplain : isSpecial c = false) :
    (c ≠ ']' ∧ c ≠ '[' ∧ c ≠ '\\') ∧ c ≠ '^' ∧ c ≠ '$' ∧ c ≠ '*' ∧ c ≠ '.' ∧
      isUnread c = false := by
  have hnot : ∀ d, isSpecial d = true → c ≠ d := by
    intro d hspecial heq
    simp [← heq, hplain] at hspecial
  have hunread : "*+?()|\x7b".toList.all isSpecial = true := by decide +kernel
  refine ⟨⟨hnot _ rfl, hnot _ rfl, hnot _ rfl⟩, hnot _ rfl, hnot _ rfl, hnot _ rfl, hnot _ rfl, ?_⟩
  rw [isUnread, ← Bool.not_eq_true, List.contains_iff_mem]
  intro hmem
  exact hnot c (List.all_eq_true.mp hunread c hmem) rfl

theorem glyphs?_cons {c : Char} (hplain : c ≠ ']' ∧ c ≠ '[' ∧ c ≠ '\\') (cs : List Char) :
    glyphs? (c :: cs) = (glyphs? cs).map fun p => (⟨c, false⟩ :: p.1, p.2) := by
  obtain ⟨hclose, hopen, hescape⟩ := hplain
  rw [glyphs?.eq_def]
  split <;> simp_all

/-- A group is shown up to the bracket that closes it. -/
theorem glyphs?_showBody {body : List Char} (hunclosed : ']' ∉ body) (rest : List Char) :
    glyphs? (showBody body ++ ']' :: rest) = some (body.map glyph, rest) := by
  induction body with
  | nil => rfl
  | cons c body ih =>
      rw [List.mem_cons, not_or] at hunclosed
      have hrest := ih hunclosed.2
      rw [showBody_cons]
      cases hspecial : isSpecialInGroup c with
      | true =>
          have hmark := isSpecial_of_isSpecialInGroup hspecial
          simp [glyphs?, hmark, hrest, glyph, hspecial]
      | false =>
          obtain ⟨hescape, hopen, -⟩ := isSpecialInGroup_eq_false_iff.mp hspecial
          have hplain := glyphs?_cons ⟨Ne.symm hunclosed.1, hopen, hescape⟩
          simp [hplain, hrest, glyph, hspecial]

/-- The first character of a body that is shown neither closes the class nor negates it. -/
theorem showBody_head {body : List Char} (hunclosed : ']' ∉ body) (hne : body ≠ []) :
    ∃ c shown, showBody body = c :: shown ∧ c ≠ ']' ∧ c ≠ '^' := by
  cases body with
  | nil => exact absurd rfl hne
  | cons c body =>
      rw [List.mem_cons, not_or] at hunclosed
      rw [showBody_cons]
      cases hspecial : isSpecialInGroup c with
      | true => exact ⟨'\\', c :: showBody body, rfl, by simp, by simp⟩
      | false =>
          have hnegates := (isSpecialInGroup_eq_false_iff.mp hspecial).2.2
          exact ⟨c, showBody body, rfl, Ne.symm hunclosed.1, hnegates⟩

theorem charClass?_cons {c : Char} (hopen : c ≠ ']') (cs : List Char) :
    charClass? (c :: cs) =
      (glyphs? (c :: cs)).bind fun p =>
        let dashes := p.1.takeWhile Glyph.isDash
        (readSet ⟨dashes.map fun g => .single g.char, []⟩ (p.1.dropWhile Glyph.isDash)).map
          fun set => (set, p.2) := by
  unfold charClass?
  split
  next heq => exact absurd (List.cons.inj heq).1 hopen
  next => rfl

/-- A class lists what the body does that it is shown for. -/
theorem charClass?_showBody {body : List Char} (hunclosed : ']' ∉ body) (hne : body ≠ [])
    (rest : List Char) :
    charClass? (showBody body ++ ']' :: rest) =
      (CharSet.ofBody body).toOption.map fun set => (set, rest) := by
  have hdashes : Glyph.isDash ∘ glyph = (· == '-') := funext glyph_isDash
  have hglyphs := glyphs?_showBody hunclosed rest
  obtain ⟨c, shown, hshown, hopen, -⟩ := showBody_head hunclosed hne
  rw [hshown, List.cons_append] at hglyphs ⊢
  rw [charClass?_cons hopen, hglyphs, Option.bind_some]
  simp only [List.takeWhile_map, List.dropWhile_map, hdashes, List.map_map]
  rw [readSet_map_glyph (body.takeWhile (· == '-'))]
  rfl

/-! ## Tokens -/

/-- The step that a place is in an expression. -/
def Place.step : Place → Step
  | .anyText => .many .anyChar
  | .anyChar => .one .anyChar
  | .exactly c => .one (.exactly c)
  | .oneOf negated set => .one (.oneOf negated set)

theorem steps?_cons {c : Char} (hatom : c ≠ '^' ∧ c ≠ '$') (cs : List Char) :
    steps? (c :: cs) =
      (atom? c cs).bind fun p =>
        (steps? (repeated p.1 p.2).2).map ((repeated p.1 p.2).1 :: ·) := by
  rw [steps?.eq_def]
  split
  next heq => simp at heq
  next heq => exact absurd (List.cons.inj heq).1 hatom.1
  next heq => exact absurd (List.cons.inj heq).1 hatom.2
  next heq =>
    obtain ⟨rfl, rfl⟩ := List.cons.inj heq
    split
    next hnone => simp [hnone]
    next hsome => simp [hsome]

theorem repeated_one {cs : List Char} (hnext : '*' ∉ cs.head?) (a : Atom) :
    repeated a cs = (.one a, cs) := by
  unfold repeated
  split
  next => simp at hnext
  next => rfl

theorem atom?_plain {c : Char} (hplain : isSpecial c = false) (cs : List Char) :
    atom? c cs = some (.exactly c, cs) := by
  have hmarks := ne_mark_of_plain hplain
  unfold atom?
  split <;> simp_all

theorem atom?_escaped {c : Char} (hspecial : isSpecial c = true) (cs : List Char) :
    atom? '\\' (c :: cs) = some (.exactly c, cs) := by
  simp [atom?, hspecial]

/-- How a group is shown after its opening bracket, before its body. -/
def shownMark : Bool → List Char
  | true => ['^']
  | false => []

theorem Token.show_group (negated : Bool) (body : List Char) :
    Token.show (.group negated body) = '[' :: (shownMark negated ++ showBody body ++ [']']) := by
  cases negated <;> rfl

/-- A group is read as one that lists what its body does. -/
theorem atom?_group {negated : Bool} {body : List Char} (hunclosed : ']' ∉ body) (hne : body ≠ [])
    (rest : List Char) :
    atom? '[' (shownMark negated ++ showBody body ++ ']' :: rest) =
      (CharSet.ofBody body).toOption.map fun set => (.oneOf negated set, rest) := by
  have hclass := charClass?_showBody hunclosed hne rest
  cases negated with
  | true =>
      simp only [shownMark, List.cons_append, List.nil_append, atom?, hclass, Option.map_map]
      rfl
  | false =>
      obtain ⟨c, shown, hshown, -, hplain⟩ := showBody_head hunclosed hne
      rw [hshown, List.cons_append] at hclass
      rw [shownMark, List.nil_append, hshown, List.cons_append]
      have hopen : atom? '[' (c :: (shown ++ ']' :: rest)) =
          (charClass? (c :: (shown ++ ']' :: rest))).map fun p => (.oneOf false p.1, p.2) := by
        unfold atom?
        split <;> simp_all
      rw [hopen, hclass, Option.map_map]
      rfl

/-- A token that stands for a place is shown as the step that the place is. -/
theorem steps?_show {t : Token} {place : Place} (hstands : t.Stands place)
    (hbody : ∀ negated body, t = .group negated body → IsBody negated body) {rest : List Char}
    (hrest : '*' ∉ rest.head?) :
    steps? (t.show ++ rest) = (steps? rest).map (place.step :: ·) := by
  cases hstands with
  | anyText =>
      rw [Token.show, List.cons_append, steps?_cons (by simp)]
      rfl
  | anyChar =>
      rw [Token.show, List.cons_append, steps?_cons (by simp)]
      simp [atom?, repeated_one hrest, Place.step]
  | exactly c =>
      cases hspecial : isSpecial c with
      | true =>
          rw [Token.show, if_pos hspecial, List.cons_append, List.singleton_append,
            steps?_cons (by simp), atom?_escaped hspecial, Option.bind_some,
            repeated_one hrest]
          rfl
      | false =>
          obtain ⟨-, hstart, hstop, -⟩ := ne_mark_of_plain hspecial
          rw [Token.show, hspecial, if_neg Bool.false_ne_true, List.singleton_append,
            steps?_cons ⟨hstart, hstop⟩, atom?_plain hspecial, Option.bind_some,
            repeated_one hrest]
          rfl
  | @group negated body set hcloses hset =>
      have hwritten := hbody negated body rfl
      have hne : body ≠ [] := by
        cases negated with
        | true => exact hcloses rfl
        | false => exact (hwritten.unmarked rfl).1
      rw [Token.show_group, List.cons_append, steps?_cons (by simp),
        List.append_assoc, List.singleton_append, atom?_group hwritten.unclosed hne, hset]
      simp [Except.toOption, repeated_one hrest, Place.step]

/-- Outside of groups no bracket is shown that would close a class. -/
theorem glyphs?_tokens (ts : List Token) : glyphs? (ts.flatMap Token.show ++ ['$']) = none := by
  induction ts with
  | nil => rfl
  | cons t ts ih =>
      rw [List.flatMap_cons, List.append_assoc]
      cases t with
      | anyText => simp [Token.show, glyphs?_cons, ih]
      | anyChar => simp [Token.show, glyphs?_cons, ih]
      | exactly c =>
          cases hspecial : isSpecial c with
          | true => simp [Token.show, hspecial, glyphs?, ih]
          | false => simp [Token.show, hspecial, glyphs?_cons (ne_mark_of_plain hspecial).1, ih]
      | group negated body =>
          rw [Token.show_group]
          rfl

/-- A token that stands for no place does not read, whatever tokens follow it. -/
theorem steps?_show_none {t : Token} (hstands : ∀ place, ¬ t.Stands place)
    (hbody : ∀ negated body, t = .group negated body → IsBody negated body) (ts : List Token) :
    steps? (t.show ++ (ts.flatMap Token.show ++ ['$'])) = none := by
  cases t with
  | anyText => exact absurd .anyText (hstands _)
  | anyChar => exact absurd .anyChar (hstands _)
  | exactly c => exact absurd (.exactly c) (hstands _)
  | group negated body =>
      have hwritten := hbody negated body rfl
      rw [Token.show_group, List.cons_append, steps?_cons (by simp),
        List.append_assoc, List.singleton_append]
      by_cases hne : body = []
      · have hnegated : negated = true := by
          cases negated with
          | true => rfl
          | false => exact absurd hne (hwritten.unmarked rfl).1
        subst hne hnegated
        have hclass : charClass? (']' :: (ts.flatMap Token.show ++ ['$'])) = none := by
          simp [charClass?, glyphs?_tokens]
        simp [shownMark, showBody, atom?, hclass]
      · rw [atom?_group hwritten.unclosed hne]
        cases hset : CharSet.ofBody body with
        | error b => rfl
        | ok set => exact absurd (.group (fun _ => hne) hset) (hstands _)

/-! ## Whole expressions -/

theorem star_notMem_head? (ts : List Token) : '*' ∉ (ts.flatMap Token.show ++ ['$']).head? := by
  cases ts with
  | nil => decide
  | cons t ts =>
      rw [List.flatMap_cons, List.append_assoc]
      cases t with
      | anyText => simp [Token.show]
      | anyChar => simp [Token.show]
      | exactly c =>
          cases hspecial : isSpecial c with
          | true => simp [Token.show, hspecial]
          | false =>
              obtain ⟨-, -, -, hstar, -⟩ := ne_mark_of_plain hspecial
              simp [Token.show, hspecial, hstar]
      | group negated body => simp [Token.show_group]

/-- What tokens are shown as reads exactly if each of them stands for a place, and it reads as the
steps that the places are. -/
theorem steps?_tokens {ts : List Token}
    (hbodies : ∀ negated body, .group negated body ∈ ts → IsBody negated body)
    {steps : List Step} :
    steps? (ts.flatMap Token.show ++ ['$']) = some steps ↔
      ∃ places, List.Forall₂ Token.Stands ts places ∧ steps = places.map Place.step ++ [.stop] := by
  induction ts generalizing steps with
  | nil =>
      have hstop : steps? ['$'] = some [.stop] := by
        rw [steps?, steps?]
        rfl
      rw [List.flatMap_nil, List.nil_append, hstop]
      simp [eq_comm]
  | cons t ts ih =>
      have hbody : ∀ negated body, t = .group negated body → IsBody negated body :=
        fun negated body heq => hbodies negated body (by simp [heq])
      have hlater := @ih fun negated body hmem => hbodies negated body (by simp [hmem])
      rw [List.flatMap_cons, List.append_assoc]
      by_cases hstands : ∃ place, t.Stands place
      · obtain ⟨place, hplace⟩ := hstands
        rw [steps?_show hplace hbody (star_notMem_head? ts), Option.map_eq_some_iff]
        constructor
        · intro hread
          obtain ⟨later, hread, rfl⟩ := hread
          obtain ⟨places, hplaces, rfl⟩ := hlater.mp hread
          exact ⟨place :: places, .cons hplace hplaces, rfl⟩
        · intro hexists
          obtain ⟨_, hplaces, rfl⟩ := hexists
          cases hplaces with
          | cons hother hplaces =>
              rw [hother.unique hplace]
              exact ⟨_, hlater.mpr ⟨_, hplaces, rfl⟩, rfl⟩
      · rw [steps?_show_none (fun place hplace => hstands ⟨place, hplace⟩) hbody]
        constructor
        · intro hread
          simp at hread
        · intro hexists
          obtain ⟨_, hplaces, -⟩ := hexists
          cases hplaces with
          | cons hother _ => exact absurd ⟨_, hother⟩ hstands

/-- The expression of a mask reads exactly if the mask does, and its steps are the places of the
pattern between the two anchors. -/
theorem steps?_expression {mask : String} {steps : List Step} :
    steps? (expression (tokens mask.toList)) = some steps ↔
      ∃ pattern, compile mask = .ok pattern ∧
        steps = .start :: (pattern.places.map Place.step ++ [.stop]) := by
  have hread := @steps?_tokens (tokens mask.toList) fun _ _ => isBody_of_mem_tokens
  rw [expression, List.append_assoc, List.singleton_append, steps?, Option.map_eq_some_iff]
  constructor
  · intro hexists
    obtain ⟨later, hlater, rfl⟩ := hexists
    obtain ⟨places, hplaces, rfl⟩ := hread.mp hlater
    exact ⟨⟨places⟩, compile_eq_ok_iff.mpr hplaces, rfl⟩
  · intro hexists
    obtain ⟨pattern, hcompile, rfl⟩ := hexists
    exact ⟨_, hread.mpr ⟨pattern.places, compile_eq_ok_iff.mp hcompile, rfl⟩, rfl⟩

/-! ## Matching -/

section Runs

variable {a : Atom} {steps : List Step} {before rest : List Char}

theorem runs_one_iff :
    Runs (.one a :: steps) before rest ↔
      ∃ c later, rest = c :: later ∧ a.takes c = true ∧ Runs steps (before ++ [c]) later := by
  constructor
  · intro hruns
    cases hruns with
    | one htakes hsteps => exact ⟨_, _, rfl, htakes, hsteps⟩
  · intro hexists
    obtain ⟨c, later, rfl, htakes, hsteps⟩ := hexists
    exact .one htakes hsteps

theorem runs_many_iff :
    Runs (.many a :: steps) before rest ↔
      ∃ taken later, rest = taken ++ later ∧ (∀ c ∈ taken, a.takes c = true) ∧
        Runs steps (before ++ taken) later := by
  constructor
  · intro hruns
    cases hruns with
    | many htakes hsteps => exact ⟨_, _, rfl, htakes, hsteps⟩
  · intro hexists
    obtain ⟨taken, later, rfl, htakes, hsteps⟩ := hexists
    exact .many htakes hsteps

end Runs

theorem Place.step_of_ne {place : Place} (hone : place ≠ .anyText) :
    ∃ a : Atom, place.step = .one a ∧ ∀ c, a.takes c = place.takes c := by
  cases place with
  | anyText => exact absurd rfl hone
  | anyChar => exact ⟨.anyChar, rfl, fun _ => rfl⟩
  | exactly d => exact ⟨.exactly d, rfl, fun _ => rfl⟩
  | oneOf negated set => exact ⟨.oneOf negated set, rfl, fun _ => rfl⟩

/-- From any place in a text, the steps of the places can be taken up to its end exactly if what is
ahead can be split along them. -/
theorem runs_iff {places : List Place} {before rest : List Char} :
    Runs (places.map Place.step ++ [.stop]) before rest ↔
      Splits IsFree (places.map Place.piece) rest := by
  induction places generalizing before rest with
  | nil =>
      rw [List.map_nil, List.map_nil, List.nil_append, splits_nil_iff]
      constructor
      · intro hruns
        cases hruns
        rfl
      · intro hnil
        rw [hnil]
        exact .stop .nil
  | cons place places ih =>
      rw [List.map_cons, List.map_cons, List.cons_append]
      by_cases hany : place = .anyText
      · subst hany
        have hfree : ∀ c, Atom.anyChar.takes c = true ↔ IsFree c := fun c => by
          simp [Atom.takes, IsFree]
        simp only [Place.step, Place.piece, runs_many_iff, splits_anyText_iff, ih, hfree]
      · obtain ⟨a, hstep, htakes⟩ := Place.step_of_ne hany
        have hone : place.piece ≠ .anyText := mt Place.piece_eq_anyText_iff.mp hany
        rw [hstep, runs_one_iff]
        cases rest with
        | nil => exact iff_of_false (by simp) (not_splits_one_nil hone)
        | cons c rest =>
            rw [splits_one_cons_iff hone, ← Place.takes_iff]
            simp [htakes, ih]

/-- The expression of a mask matches the names that the pattern matches. -/
theorem matches_expression {pattern : Pattern} (name : String) :
    Regular.Matches (.start :: (pattern.places.map Place.step ++ [.stop])) name.toList ↔
      pattern.matches name = true := by
  rw [pattern.matches_iff, ← @runs_iff pattern.places []]
  constructor
  · intro hmatches
    obtain ⟨before, rest, hname, hruns⟩ := hmatches
    cases hruns with
    | start hruns => rwa [hname]
  · intro hruns
    exact ⟨[], name.toList, rfl, .start hruns⟩

end SprayWatch.Mask
