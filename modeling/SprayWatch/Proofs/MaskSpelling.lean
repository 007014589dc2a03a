import Mathlib.Data.List.TakeWhile
import SprayWatch.Proofs.PatternMatching

/-!
# How masks are written

A mask is its pieces written one after the other.  Stars and question marks are written as they are,
a group in brackets, and every other character as itself.  A bracket opens a group if a later one
closes it and there is something between the two; where it opens none it is a character like any
other.  Reading a mask into tokens finds the pieces that it is written from, and there is but one
way to write a mask.
-/

namespace SprayWatch.Mask

/-- What stands between the brackets of a group before its body. -/
def groupMark : Bool → List Char
  | true => ['!']
  | false => []

/-- The mask is written from the pieces, where `Lists` says which body lists which characters, in a
group that is negated or not. -/
inductive Spells (Lists : Bool → List Char → Set Char → Prop) : List Piece → List Char → Prop
  | nil : Spells Lists [] []
  | anyText {pieces : List Piece} {cs : List Char} (hrest : Spells Lists pieces cs) :
      Spells Lists (.anyText :: pieces) ('*' :: cs)
  | anyChar {pieces : List Piece} {cs : List Char} (hrest : Spells Lists pieces cs) :
      Spells Lists (.anyChar :: pieces) ('?' :: cs)
  | ordinary {c : Char} {pieces : List Piece} {cs : List Char}
      (hordinary : c ≠ '*' ∧ c ≠ '?' ∧ c ≠ '[') (hrest : Spells Lists pieces cs) :
      Spells Lists (.ordinary c :: pieces) (c :: cs)
  | bracket {pieces : List Piece} {cs : List Char}
      (hopen : ']' ∉ cs ∨ ∃ rest, cs = ']' :: rest) (hrest : Spells Lists pieces cs) :
      Spells Lists (.ordinary '[' :: pieces) ('[' :: cs)
  | group {negated : Bool} {body : List Char} {listed : Set Char} {pieces : List Piece}
      {cs : List Char} (hlists : Lists negated body listed) (hrest : Spells Lists pieces cs) :
      Spells Lists (.group negated listed :: pieces)
        ('[' :: (groupMark negated ++ body) ++ ']' :: cs)

/-- A body that can be written between brackets.  In a group that is not negated it is not empty,
and it does not begin with the mark of one that is. -/
structure IsBody (negated : Bool) (body : List Char) : Prop where
  unclosed : ']' ∉ body
  unmarked : negated = false → body ≠ [] ∧ ∀ rest, body ≠ '!' :: rest

/-- What a token means. -/
inductive Token.Means (Lists : Bool → List Char → Set Char → Prop) : Token → Piece → Prop
  | anyText : Means Lists .anyText .anyText
  | anyChar : Means Lists .anyChar .anyChar
  | exactly (c : Char) : Means Lists (.exactly c) (.ordinary c)
  | group {negated : Bool} {body : List Char} {listed : Set Char}
      (hlists : Lists negated body listed) :
      Means Lists (.group negated body) (.group negated listed)

/-! ## Brackets -/

section Brackets

variable {cs body rest : List Char}

theorem groupBody?_closed (hunclosed : ']' ∉ body) (hsome : body ≠ []) :
    groupBody? (body ++ ']' :: rest) = some body := by
  have hbody : ∀ c ∈ body, (c != ']') = true := by
    intro c hmem
    rw [bne_iff_ne]
    intro hclose
    exact hunclosed (hclose ▸ hmem)
  have htaken : (body ++ ']' :: rest).takeWhile (· != ']') = body := by
    rw [List.takeWhile_append_of_pos hbody, List.takeWhile_cons_of_neg (by decide),
      List.append_nil]
  simp [groupBody?, htaken, hsome]

theorem exists_of_groupBody? (hsome : groupBody? cs = some body) :
    ∃ rest, cs = body ++ ']' :: rest ∧ body ≠ [] ∧ ']' ∉ body := by
  have htaken : cs.takeWhile (· != ']') = body ∧ body ≠ [] ∧ body.length ≠ cs.length := by
    simp only [groupBody?] at hsome
    split at hsome
    next => simp at hsome
    next hkept =>
      obtain rfl := Option.some.inj hsome
      simpa using hkept
  obtain ⟨rfl, hne, hlength⟩ := htaken
  have hunclosed : ']' ∉ cs.takeWhile (· != ']') := by
    intro hmem
    simpa using List.mem_takeWhile_imp hmem
  cases hdropped : cs.dropWhile (· != ']') with
  | nil =>
      have hall := List.takeWhile_append_dropWhile (p := (· != ']')) (l := cs)
      rw [hdropped, List.append_nil] at hall
      exact absurd (congrArg List.length hall) hlength
  | cons c rest =>
      have hclose : c = ']' := by
        have hhead := List.head_dropWhile_not (· != ']') (l := cs) (by simp [hdropped])
        simpa [hdropped] using hhead
      have hall := List.takeWhile_append_dropWhile (p := (· != ']')) (l := cs)
      rw [hdropped, hclose] at hall
      exact ⟨rest, hall.symm, hne, hunclosed⟩

/-- A bracket opens no group if none closes it, or if the next character does. -/
theorem groupBody?_eq_none_iff :
    groupBody? cs = none ↔ ']' ∉ cs ∨ ∃ rest, cs = ']' :: rest := by
  constructor
  · intro hnone
    by_cases hclosed : ']' ∈ cs
    · right
      obtain ⟨body, rest, rfl, hunclosed⟩ := List.eq_append_cons_of_mem hclosed
      by_cases hne : body = []
      · exact ⟨rest, by rw [hne, List.nil_append]⟩
      · rw [groupBody?_closed hunclosed hne] at hnone
        simp at hnone
    · exact .inl hclosed
  · intro hopen
    cases hsome : groupBody? cs with
    | none => rfl
    | some body =>
        obtain ⟨rest, rfl, hne, hunclosed⟩ := exists_of_groupBody? hsome
        rcases hopen with hnone | ⟨later, hnext⟩
        · exact absurd (by simp) hnone
        · cases body with
          | nil => exact absurd rfl hne
          | cons c body =>
              rw [List.cons_append, List.cons.injEq] at hnext
              exact absurd (by simp [hnext.1]) hunclosed

end Brackets

theorem Token.ofBody_eq {negated : Bool} {body : List Char} (hbody : IsBody negated body) :
    ofBody (groupMark negated ++ body) = .group negated body := by
  cases negated with
  | true => rfl
  | false =>
      have hunmarked := (hbody.unmarked rfl).2
      unfold ofBody groupMark
      split
      next rest hrest => exact absurd hrest (hunmarked rest)
      next => rfl

theorem IsBody.closed {negated : Bool} {body : List Char} (hbody : IsBody negated body) :
    ']' ∉ groupMark negated ++ body ∧ groupMark negated ++ body ≠ [] := by
  have hunclosed := hbody.unclosed
  cases negated with
  | true => simp [groupMark, hunclosed]
  | false => simp [groupMark, hunclosed, (hbody.unmarked rfl).1]

/-- What a body with the mark in front of it makes is written as it. -/
theorem exists_ofBody {body : List Char} (hunclosed : ']' ∉ body) (hne : body ≠ []) :
    ∃ negated inner, Token.ofBody body = .group negated inner ∧
      body = groupMark negated ++ inner ∧ IsBody negated inner := by
  unfold Token.ofBody
  split
  next inner =>
    exact ⟨true, inner, rfl, rfl, ⟨fun hmem => hunclosed (by simp [hmem]), by simp⟩⟩
  next hunmarked =>
    exact ⟨false, body, rfl, rfl, ⟨hunclosed, fun _ => ⟨hne, hunmarked⟩⟩⟩

/-! ## Reading what is written -/

theorem tokens_ordinary {c : Char} {cs : List Char} (hordinary : c ≠ '*' ∧ c ≠ '?' ∧ c ≠ '[') :
    tokens (c :: cs) = .exactly c :: tokens cs := by
  obtain ⟨hstar, hmark, hbracket⟩ := hordinary
  rw [tokens.eq_def]
  split <;> simp_all

theorem tokens_bracket {cs : List Char} (hopen : ']' ∉ cs ∨ ∃ rest, cs = ']' :: rest) :
    tokens ('[' :: cs) = .exactly '[' :: tokens cs := by
  rw [tokens, groupBody?_eq_none_iff.mpr hopen]

theorem drop_body (body cs : List Char) : (body ++ ']' :: cs).drop (body.length + 1) = cs := by
  rw [← List.drop_drop, List.drop_left]
  rfl

theorem tokens_group {body cs : List Char} (hunclosed : ']' ∉ body) (hne : body ≠ []) :
    tokens ('[' :: (body ++ ']' :: cs)) = Token.ofBody body :: tokens cs := by
  rw [tokens, groupBody?_closed hunclosed hne]
  simp only [drop_body]

/-- The body of every group in a mask can be written between brackets. -/
theorem isBody_of_mem_tokens {cs body : List Char} {negated : Bool}
    (hmem : .group negated body ∈ tokens cs) : IsBody negated body := by
  fun_induction tokens cs with
  | case1 => simp at hmem
  | case2 cs ih => exact ih (by simpa using hmem)
  | case3 cs ih => exact ih (by simpa using hmem)
  | case4 cs whole hsome ih =>
      obtain ⟨rest, -, hne, hunclosed⟩ := exists_of_groupBody? hsome
      obtain ⟨mark, inner, hofBody, -, hbody⟩ := exists_ofBody hunclosed hne
      rw [hofBody] at hmem
      rcases List.mem_cons.mp hmem with heq | hlater
      · obtain ⟨rfl, rfl⟩ := Token.group.inj heq
        exact hbody
      · exact ih hlater
  | case5 cs hnone ih => exact ih (by simpa using hmem)
  | case6 c cs hstar hmark hbracket ih => exact ih (by simpa using hmem)

section Lists

variable {Lists : Bool → List Char → Set Char → Prop} {pieces : List Piece} {cs : List Char}

/-- A mask is read into tokens that mean the pieces it is written from. -/
theorem Spells.means
    (hbodies : ∀ negated body listed, Lists negated body listed → IsBody negated body)
    (hspells : Spells Lists pieces cs) : List.Forall₂ (Token.Means Lists) (tokens cs) pieces := by
  induction hspells with
  | nil =>
      rw [tokens]
      exact .nil
  | anyText hrest ih =>
      rw [tokens]
      exact .cons .anyText ih
  | anyChar hrest ih =>
      rw [tokens]
      exact .cons .anyChar ih
  | ordinary hordinary hrest ih =>
      rw [tokens_ordinary hordinary]
      exact .cons (.exactly _) ih
  | bracket hopen hrest ih =>
      rw [tokens_bracket hopen]
      exact .cons (.exactly _) ih
  | group hlists hrest ih =>
      have hbody := hbodies _ _ _ hlists
      rw [List.cons_append, tokens_group hbody.closed.1 hbody.closed.2, Token.ofBody_eq hbody]
      exact .cons (.group hlists) ih

/-- What the tokens of a mask mean is what it is written from. -/
theorem spells_of_means (hmeans : List.Forall₂ (Token.Means Lists) (tokens cs) pieces) :
    Spells Lists pieces cs := by
  fun_induction tokens cs generalizing pieces with
  | case1 =>
      cases hmeans
      exact .nil
  | case2 cs ih =>
      cases hmeans with
      | cons hmeans hrest =>
          cases hmeans
          exact .anyText (ih hrest)
  | case3 cs ih =>
      cases hmeans with
      | cons hmeans hrest =>
          cases hmeans
          exact .anyChar (ih hrest)
  | case4 cs body hsome ih =>
      obtain ⟨rest, rfl, hne, hunclosed⟩ := exists_of_groupBody? hsome
      obtain ⟨negated, inner, hofBody, hwritten, -⟩ := exists_ofBody hunclosed hne
      rw [drop_body] at ih hmeans
      rw [hofBody] at hmeans
      cases hmeans with
      | cons hmeans hrest =>
          cases hmeans with
          | group hlists =>
              rw [hwritten]
              exact .group hlists (ih hrest)
  | case5 cs hnone ih =>
      cases hmeans with
      | cons hmeans hrest =>
          cases hmeans
          exact .bracket (groupBody?_eq_none_iff.mp hnone) (ih hrest)
  | case6 c cs hstar hmark hbracket ih =>
      cases hmeans with
      | cons hmeans hrest =>
          cases hmeans
          exact .ordinary ⟨hstar, hmark, hbracket⟩ (ih hrest)

end Lists

end SprayWatch.Mask
