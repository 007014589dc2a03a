import SprayWatch.Mask.Expression
import SprayWatch.Proofs.MaskGroups
import SprayWatch.Proofs.MaskSpelling

/-!
# Reading masks

Each token that reads stands for one place of the pattern, and the places stand in the order of the
tokens.  A mask does not read when one of its tokens stands for no place: a body with a range that
runs backwards is noticed at once, a group that excludes nothing only at the end, since the rest of
the mask is taken for its body.
-/

namespace SprayWatch.Mask

/-- The place that a token stands for.  A group that excludes nothing stands for none, and neither
does one whose body does not read. -/
inductive Token.Stands : Token → Place → Prop
  | anyText : Stands .anyText .anyText
  | anyChar : Stands .anyChar .anyChar
  | exactly (c : Char) : Stands (.exactly c) (.exactly c)
  | group {negated : Bool} {body : List Char} {set : CharSet}
      (hcloses : negated = true → body ≠ []) (hset : CharSet.ofBody body = .ok set) :
      Stands (.group negated body) (.oneOf negated set)

theorem Token.Stands.unique {t : Token} {place other : Place} (hplace : t.Stands place)
    (hother : t.Stands other) : place = other := by
  cases hplace with
  | anyText => cases hother; rfl
  | anyChar => cases hother; rfl
  | exactly c => cases hother; rfl
  | group hcloses hset =>
      cases hother with
      | group _ hset' => rw [Except.ok.inj (hset.symm.trans hset')]

/-! ## Compiling -/

section Compiling

variable {shown : List Char} {r s : Reading} {t : Token}

theorem Reading.next_of_stands {place : Place} (hstands : t.Stands place) (shown : List Char)
    (r : Reading) :
    r.next shown t =
      .ok { r with passed := r.passed + t.show.length, places := place :: r.places } := by
  cases hstands with
  | anyText => rfl
  | anyChar => rfl
  | exactly c => rfl
  | @group negated body set hcloses hset =>
      have hopen : (negated && body.isEmpty) = false := by
        cases negated with
        | false => rfl
        | true => simpa using hcloses rfl
      simp [next, hopen, hset]

/-- A token that is read stands for a place, or it is a group that never closes. -/
theorem Reading.cases_of_next (hread : r.next shown t = .ok s) :
    (∃ place, t.Stands place ∧ s.places = place :: r.places ∧ s.unclosed = r.unclosed) ∨
      s.unclosed ≠ none := by
  cases t with
  | anyText =>
      obtain rfl := Except.ok.inj hread
      exact .inl ⟨_, .anyText, rfl, rfl⟩
  | anyChar =>
      obtain rfl := Except.ok.inj hread
      exact .inl ⟨_, .anyChar, rfl, rfl⟩
  | exactly c =>
      obtain rfl := Except.ok.inj hread
      exact .inl ⟨_, .exactly c, rfl, rfl⟩
  | group negated body =>
      simp only [next] at hread
      split at hread
      next =>
        obtain rfl := Except.ok.inj hread
        exact .inr (by simp)
      next hopen =>
        cases hset : CharSet.ofBody body with
        | error b => simp [hset] at hread
        | ok set =>
            simp only [hset] at hread
            obtain rfl := Except.ok.inj hread
            have hcloses : negated = true → body ≠ [] := by
              intro hnegated hempty
              exact hopen (by simp [hnegated, hempty])
            exact .inl ⟨_, .group hcloses hset, rfl, rfl⟩

theorem Reading.foldlM_next {ts : List Token} {places : List Place}
    (hstands : List.Forall₂ Token.Stands ts places) (shown : List Char) (r : Reading) :
    ∃ passed, ts.foldlM (next shown) r = .ok ⟨passed, places.reverse ++ r.places, r.unclosed⟩ := by
  induction hstands generalizing r with
  | nil => exact ⟨r.passed, rfl⟩
  | @cons t place ts places hstand hrest ih =>
      obtain ⟨passed, hread⟩ :=
        ih { r with passed := r.passed + t.show.length, places := place :: r.places }
      refine ⟨passed, ?_⟩
      rw [List.foldlM_cons, next_of_stands hstand]
      exact hread.trans (by simp)

theorem Reading.stands_of_foldlM {ts : List Token} (hread : ts.foldlM (next shown) r = .ok s)
    (hclosed : s.unclosed = none) :
    r.unclosed = none ∧
      ∃ places, List.Forall₂ Token.Stands ts places ∧ s.places = places.reverse ++ r.places := by
  induction ts generalizing r with
  | nil =>
      obtain rfl := Except.ok.inj hread
      exact ⟨hclosed, [], .nil, rfl⟩
  | cons t ts ih =>
      rw [List.foldlM_cons] at hread
      cases hnext : r.next shown t with
      | error f =>
          rw [hnext] at hread
          exact absurd hread (by simp [bind, Except.bind])
      | ok mid =>
          rw [hnext] at hread
          obtain ⟨hmid, places, hstands, hplaces⟩ := ih hread
          rcases cases_of_next hnext with ⟨place, hstand, hmidPlaces, hsame⟩ | hunclosed
          · refine ⟨hsame ▸ hmid, place :: places, .cons hstand hstands, ?_⟩
            rw [hplaces, hmidPlaces]
            simp
          · exact absurd hmid hunclosed

/-- A mask reads if each of its tokens stands for a place, and its pattern is those places. -/
theorem compile_eq_ok_iff {mask : String} {pattern : Pattern} :
    compile mask = .ok pattern ↔
      List.Forall₂ Token.Stands (tokens mask.toList) pattern.places := by
  constructor
  · intro hcompile
    simp only [compile] at hcompile
    cases hread : (tokens mask.toList).foldlM
        (Reading.next (expression (tokens mask.toList))) ⟨1, [], none⟩ with
    | error f =>
        rw [hread] at hcompile
        exact absurd hcompile (by simp [bind, Except.bind])
    | ok r =>
        rw [hread] at hcompile
        simp only [bind, Except.bind] at hcompile
        cases hclosed : r.unclosed with
        | some start => simp [hclosed] at hcompile
        | none =>
            simp only [hclosed] at hcompile
            obtain rfl := Except.ok.inj hcompile
            obtain ⟨-, places, hstands, hplaces⟩ := Reading.stands_of_foldlM hread hclosed
            rw [List.append_nil] at hplaces
            rwa [hplaces, List.reverse_reverse]
  · intro hstands
    obtain ⟨passed, hread⟩ :=
      Reading.foldlM_next hstands (expression (tokens mask.toList)) ⟨1, [], none⟩
    simp only [compile, hread]
    simp [bind, Except.bind]

end Compiling

end SprayWatch.Mask
