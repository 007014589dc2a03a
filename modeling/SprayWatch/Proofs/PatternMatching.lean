import Mathlib.Data.List.Forall2
import Mathlib.Data.Set.Operations
import SprayWatch.Mask.Basic

/-!
# Names that match a pattern

A name matches when it can be split along the pieces of a mask, each piece taking its share: `*` any
text, `?` one character, a group one of the characters that it lists or one of the others, and any
other piece the character that it is.  A pattern does not try the splits one after the other.  It
keeps a row that tells, for each rest of the pattern, whether the end of the name that has been read
so far can be split along it, and makes a new row for each character in front.
-/

namespace SprayWatch.Mask

/-- A piece of a mask, as to what it means. -/
inductive Piece where
  | anyText
  | anyChar
  | ordinary (c : Char)
  | group (negated : Bool) (listed : Set Char)

/-- May the piece take the character?  Some pieces take all that are free to be taken. -/
def Piece.Takes (free : Char → Prop) : Piece → Char → Prop
  | .anyText, c => free c
  | .anyChar, c => free c
  | .ordinary d, c => c = d
  | .group false listed, c => c ∈ listed
  | .group true listed, c => c ∉ listed

/-- The characters can be split along the pieces. -/
inductive Splits (free : Char → Prop) : List Piece → List Char → Prop
  | nil : Splits free [] []
  | anyText {taken rest : List Char} {pieces : List Piece} (htakes : ∀ c ∈ taken, free c)
      (hrest : Splits free pieces rest) : Splits free (.anyText :: pieces) (taken ++ rest)
  | one {piece : Piece} {c : Char} {rest : List Char} {pieces : List Piece}
      (hone : piece ≠ .anyText) (htakes : piece.Takes free c) (hrest : Splits free pieces rest) :
      Splits free (piece :: pieces) (c :: rest)

section Splitting

variable {free : Char → Prop} {piece : Piece} {pieces : List Piece} {c : Char} {cs : List Char}

theorem splits_nil_iff : Splits free [] cs ↔ cs = [] := by
  constructor
  · intro hsplits
    cases hsplits
    rfl
  · intro hnil
    rw [hnil]
    exact .nil

theorem splits_anyText_iff :
    Splits free (.anyText :: pieces) cs ↔
      ∃ taken rest, cs = taken ++ rest ∧ (∀ c ∈ taken, free c) ∧ Splits free pieces rest := by
  constructor
  · intro hsplits
    cases hsplits with
    | anyText htakes hrest => exact ⟨_, _, rfl, htakes, hrest⟩
    | one hone _ _ => exact absurd rfl hone
  · intro hexists
    obtain ⟨taken, rest, rfl, htakes, hrest⟩ := hexists
    exact .anyText htakes hrest

theorem splits_anyText_nil_iff :
    Splits free (.anyText :: pieces) [] ↔ Splits free pieces [] := by
  rw [splits_anyText_iff]
  constructor
  · intro hexists
    obtain ⟨taken, rest, hempty, -, hrest⟩ := hexists
    have hnil : rest = [] := (List.append_eq_nil_iff.mp hempty.symm).2
    rwa [hnil] at hrest
  · intro hrest
    exact ⟨[], [], rfl, by simp, hrest⟩

/-- Any text takes the first character or leaves it to the pieces that follow. -/
theorem splits_anyText_cons_iff :
    Splits free (.anyText :: pieces) (c :: cs) ↔
      Splits free pieces (c :: cs) ∨ (free c ∧ Splits free (.anyText :: pieces) cs) := by
  constructor
  · intro hsplits
    obtain ⟨taken, rest, heq, htakes, hrest⟩ := splits_anyText_iff.mp hsplits
    cases taken with
    | nil =>
        rw [List.nil_append] at heq
        exact .inl (heq ▸ hrest)
    | cons d taken =>
        rw [List.cons_append, List.cons.injEq] at heq
        rw [List.forall_mem_cons] at htakes
        rw [heq.1, heq.2]
        exact .inr ⟨htakes.1, .anyText htakes.2 hrest⟩
  · intro hcases
    rcases hcases with hrest | ⟨hfree, hmore⟩
    · have hnone : ∀ d ∈ ([] : List Char), free d := by simp
      exact .anyText hnone hrest
    · obtain ⟨taken, rest, rfl, htakes, hrest⟩ := splits_anyText_iff.mp hmore
      have hall : ∀ d ∈ c :: taken, free d := List.forall_mem_cons.mpr ⟨hfree, htakes⟩
      exact .anyText hall hrest

variable (hone : piece ≠ .anyText)
include hone

theorem not_splits_one_nil : ¬ Splits free (piece :: pieces) [] := by
  intro hsplits
  generalize hnil : ([] : List Char) = cs at hsplits
  cases hsplits with
  | anyText => exact hone rfl
  | one => simp at hnil

theorem splits_one_cons_iff :
    Splits free (piece :: pieces) (c :: cs) ↔ piece.Takes free c ∧ Splits free pieces cs := by
  constructor
  · intro hsplits
    generalize hcons : c :: cs = whole at hsplits
    cases hsplits with
    | anyText => exact absurd rfl hone
    | one _ htakes hrest =>
        obtain ⟨rfl, rfl⟩ := List.cons.inj hcons
        exact ⟨htakes, hrest⟩
  · intro hboth
    exact .one hone hboth.1 hboth.2

end Splitting

/-- Which characters are free matters only for those that are to be split. -/
theorem splits_congr {free other : Char → Prop} {cs : List Char}
    (hsame : ∀ c ∈ cs, free c ↔ other c) (pieces : List Piece) :
    Splits free pieces cs ↔ Splits other pieces cs := by
  induction pieces generalizing cs with
  | nil => rw [splits_nil_iff, splits_nil_iff]
  | cons piece pieces ih =>
      by_cases hany : piece = .anyText
      · subst hany
        rw [splits_anyText_iff, splits_anyText_iff]
        apply exists_congr
        intro taken
        apply exists_congr
        intro rest
        apply and_congr_right
        intro heq
        have htaken : ∀ c ∈ taken, free c ↔ other c := fun c hmem => hsame c (by simp [heq, hmem])
        have hrest : ∀ c ∈ rest, free c ↔ other c := fun c hmem => hsame c (by simp [heq, hmem])
        exact and_congr (forall₂_congr htaken) (ih hrest)
      · cases cs with
        | nil => exact iff_of_false (not_splits_one_nil hany) (not_splits_one_nil hany)
        | cons c cs =>
            rw [List.forall_mem_cons] at hsame
            have htakes : piece.Takes free c ↔ piece.Takes other c := by
              cases piece with
              | anyText => exact hsame.1
              | anyChar => exact hsame.1
              | ordinary d => exact Iff.rfl
              | group negated listed => cases negated <;> exact Iff.rfl
            rw [splits_one_cons_iff hany, splits_one_cons_iff hany, htakes, ih hsame.2]

/-! ## Patterns -/

/-- What a place of a pattern means. -/
def Place.piece : Place → Piece
  | .anyText => .anyText
  | .anyChar => .anyChar
  | .exactly c => .ordinary c
  | .oneOf negated set => .group negated { c | set.holds c = true }

/-- All characters but the line feeds are free. -/
def IsFree (c : Char) : Prop := c ≠ '\n'

theorem Place.takes_iff (place : Place) (c : Char) :
    place.takes c = true ↔ place.piece.Takes IsFree c := by
  cases place with
  | anyText => simp [takes, piece, Piece.Takes, IsFree]
  | anyChar => simp [takes, piece, Piece.Takes, IsFree]
  | exactly d => simp [takes, piece, Piece.Takes]
  | oneOf negated set => cases negated <;> simp [takes, piece, Piece.Takes]

theorem Place.piece_eq_anyText_iff {place : Place} : place.piece = .anyText ↔ place = .anyText := by
  cases place <;> simp [piece]

/-- The row tells for each rest of the pattern whether the characters can be split along it. -/
def RowTells (places : List Place) (cs : List Char) (row : List Bool) : Prop :=
  List.Forall₂ (fun rest told => told = true ↔ Splits IsFree (rest.map Place.piece) cs)
    places.tails row

section Rows

variable {place : Place} {places : List Place} {cs : List Char} {row : List Bool}

theorem rowTells_nil_iff : RowTells [] cs row ↔ ∃ told, row = [told] ∧ (told = true ↔ cs = []) := by
  simp only [RowTells, List.tails, List.forall₂_cons_left_iff, List.forall₂_nil_left_iff,
    List.map_nil, splits_nil_iff]
  constructor
  · intro hexists
    obtain ⟨told, _, htold, rfl, rfl⟩ := hexists
    exact ⟨told, rfl, htold⟩
  · intro hexists
    obtain ⟨told, rfl, htold⟩ := hexists
    exact ⟨told, [], htold, rfl, rfl⟩

theorem rowTells_cons_iff :
    RowTells (place :: places) cs row ↔
      ∃ told later, row = told :: later ∧
        (told = true ↔ Splits IsFree (place.piece :: places.map Place.piece) cs) ∧
        RowTells places cs later := by
  simp only [RowTells, List.tails, List.forall₂_cons_left_iff, List.map_cons]
  constructor
  · intro hexists
    obtain ⟨told, later, htold, hlater, rfl⟩ := hexists
    exact ⟨told, later, rfl, htold, hlater⟩
  · intro hexists
    obtain ⟨told, later, rfl, htold, hlater⟩ := hexists
    exact ⟨told, later, htold, hlater, rfl⟩

theorem RowTells.headD_iff (htells : RowTells places cs row) :
    row.headD false = true ↔ Splits IsFree (places.map Place.piece) cs := by
  cases places with
  | nil =>
      obtain ⟨told, rfl, htold⟩ := rowTells_nil_iff.mp htells
      simpa [splits_nil_iff] using htold
  | cons place places =>
      obtain ⟨told, later, rfl, htold, -⟩ := rowTells_cons_iff.mp htells
      exact htold

end Rows

theorem rowTells_matchNothing (places : List Place) :
    RowTells places [] (restsMatchNothing places) := by
  induction places with
  | nil => exact rowTells_nil_iff.mpr ⟨true, rfl, by simp⟩
  | cons place places ih =>
      refine rowTells_cons_iff.mpr ⟨_, _, rfl, ?_, ih⟩
      rw [Bool.and_eq_true, beq_iff_eq, ih.headD_iff]
      by_cases hany : place = .anyText
      · subst hany
        simp [Place.piece, splits_anyText_nil_iff]
      · have hone : place.piece ≠ .anyText := mt Place.piece_eq_anyText_iff.mp hany
        exact iff_of_false (fun h => hany h.1) (not_splits_one_nil hone)

/-- The row for some characters makes the row for one more of them in front. -/
theorem RowTells.matchMore {places : List Place} {cs : List Char} {row : List Bool}
    (htells : RowTells places cs row) (c : Char) :
    RowTells places (c :: cs) (restsMatchMore c places row) := by
  induction places generalizing row with
  | nil => exact rowTells_nil_iff.mpr ⟨false, rfl, by simp⟩
  | cons place places ih =>
      obtain ⟨told, later, rfl, htold, hlater⟩ := rowTells_cons_iff.mp htells
      have hrests := ih hlater
      refine rowTells_cons_iff.mpr ⟨_, _, rfl, ?_, hrests⟩
      by_cases hany : place = .anyText
      · subst hany
        simp only [List.headD_cons, List.tail_cons, Bool.or_eq_true, Bool.and_eq_true]
        rw [hrests.headD_iff, htold, Place.takes_iff]
        exact splits_anyText_cons_iff.symm
      · have hone : place.piece ≠ .anyText := mt Place.piece_eq_anyText_iff.mp hany
        rw [splits_one_cons_iff hone, ← Place.takes_iff, ← hlater.headD_iff, ← Bool.and_eq_true]
        cases place with
        | anyText => exact absurd rfl hany
        | anyChar => rfl
        | exactly d => rfl
        | oneOf negated set => rfl

theorem rowTells_restsMatch (places : List Place) (cs : List Char) :
    RowTells places cs (restsMatch places cs) := by
  induction cs with
  | nil => exact rowTells_matchNothing places
  | cons c cs ih => exact ih.matchMore c

/-- A pattern matches the names that can be split along it. -/
theorem Pattern.matches_iff (pattern : Pattern) (name : String) :
    pattern.matches name = true ↔
      Splits IsFree (pattern.places.map Place.piece) name.toList :=
  (rowTells_restsMatch pattern.places name.toList).headD_iff

end SprayWatch.Mask
