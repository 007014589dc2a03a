import Mathlib.Data.List.Pairwise
import SprayWatch.Proofs.RepeatedRequests

/-!
# Results of listings

What is known of a listing when all its lines have been read, in terms of the lines alone: whether
it holds an error record, whether a match follows the repeated request, and which names it lists.
Each of these only grows as more lines are read, and the names end with the first error record.
-/

namespace SprayWatch.Output

namespace Match

variable {mask : String} {pattern : Mask.Pattern}

theorem counts_iff {line : String} :
    counts mask pattern line = true ↔
      ¬ Repeats mask line ∧ pattern.matches (Text.trim line) = true := by
  rw [counts, Bool.and_eq_true, Bool.not_eq_true', isEcho_eq_false_iff]

theorem shows_iff {lines : List String} :
    Shows mask pattern lines ↔
      ∃ (i j : Nat) (_ : i < j) (_ : j < lines.length),
        Repeats mask lines[i] ∧ ¬ Repeats mask lines[j] ∧
          pattern.matches (Text.trim lines[j]) = true := by
  -- Positions are to be had for lists in which no pair is so related, hence by way of the negation.
  have hpositions := List.pairwise_iff_getElem (l := lines)
    (R := fun echo line => ¬ (isEcho mask echo = true ∧ counts mask pattern line = true))
  rw [List.pairwise_iff_forall_sublist] at hpositions
  have hshows : Shows mask pattern lines ↔
      ¬ ∀ {echo line : String}, [echo, line].Sublist lines →
        ¬ (isEcho mask echo = true ∧ counts mask pattern line = true) := by
    simp only [Shows, not_forall, not_not, exists_prop]
  rw [hshows, hpositions]
  simp only [not_forall, not_not, isEcho_iff, counts_iff]
  constructor
  · rintro ⟨i, j, _, hj, hij, hecho, hline⟩
    exact ⟨i, j, hij, hj, hecho, hline⟩
  · rintro ⟨i, j, hij, hj, hecho, hline⟩
    exact ⟨i, j, hij.trans hj, hj, hij, hecho, hline⟩

/-- Lines before the request is first repeated need not be read. -/
theorem shows_append_iff {before : List String} (hnone : ∀ line ∈ before, ¬ Repeats mask line)
    (after : List String) :
    Shows mask pattern (before ++ after) ↔ Shows mask pattern after := by
  induction before with
  | nil => rfl
  | cons line before ih =>
      rw [List.forall_mem_cons] at hnone
      have hother : isEcho mask line = false := isEcho_eq_false_iff.mpr hnone.1
      rw [List.cons_append, shows_cons, ih hnone.2, hother]
      simp

/-- A reader for a match marks a listing exactly if there is an error record in it, and finds a file
exactly if there are two lines of which the first repeats the request and the second does not, and
matches.  So neither is undone by further lines, a line that repeats the request is never an error
record, and no line matters for the match that comes before the request is first repeated. -/
theorem flags_of_listing (hcompile : Mask.compile mask = .ok pattern) (lines : List String) :
    ∃ start, Match.start mask = .ok start ∧
      let seen := lines.foldl feed start
      (seen.hasErrors = true ↔ ∃ line ∈ lines, isErrorRecord line = true) ∧
      (seen.found = true ↔
        ∃ (i j : Nat) (_ : i < j) (_ : j < lines.length),
          Repeats mask lines[i] ∧ ¬ Repeats mask lines[j] ∧
            pattern.matches (Text.trim lines[j]) = true) ∧
      (∀ further : List String,
        (seen.hasErrors = true → (further.foldl feed seen).hasErrors = true) ∧
        (seen.found = true → (further.foldl feed seen).found = true)) ∧
      (∀ line, Repeats mask line → isErrorRecord line = false) ∧
      (∀ before after : List String, lines = before ++ after →
        (∀ line ∈ before, ¬ Repeats mask line) → seen.found = (after.foldl feed start).found) := by
  refine ⟨_, start_of_compile hcompile, ?_⟩
  intro seen
  refine ⟨?_, ?_, ?_, ?_, ?_⟩
  · rw [hasErrors_of_start, List.any_eq_true]
  · rw [found_of_start, shows_iff]
  · intro further
    rw [foldl_feed_hasErrors seen, foldl_feed_found seen]
    constructor
    · intro hmarked
      rw [hmarked, Bool.true_or]
    · exact Or.inl
  · exact fun line hrepeats => hrepeats.not_isErrorRecord
  · rintro before after rfl hnone
    rw [Bool.eq_iff_iff, found_of_start, found_of_start, shows_append_iff hnone]

theorem flags_of_listing_armed :
    Mask.compile "b*" = .ok ⟨[.exactly 'b', .anyText]⟩ ∧
      ∃ start, Match.start "b*" = .ok start ∧
        (["ba", "LIST B*", "1 - : 2 3 \"x\"", " bc"].foldl feed start).hasErrors = true ∧
        (["ba", "LIST B*", "1 - : 2 3 \"x\"", " bc"].foldl feed start).found = true ∧
        (["ba"].foldl feed start).found = false := by
  have hcompile : Mask.compile "b*" = .ok ⟨[.exactly 'b', .anyText]⟩ := by decide +kernel
  obtain ⟨start, hstart, herrors, hfound, -⟩ :=
    flags_of_listing hcompile ["ba", "LIST B*", "1 - : 2 3 \"x\"", " bc"]
  obtain ⟨start', hstart', -, -, -, -, hbefore⟩ := flags_of_listing hcompile ["ba"]
  obtain rfl := Except.ok.inj (hstart.symm.trans hstart')
  refine ⟨hcompile, start, hstart, herrors.mpr ?_, hfound.mpr ?_, ?_⟩
  · exact ⟨"1 - : 2 3 \"x\"", by simp, by decide +kernel⟩
  · exact ⟨1, 3, by decide, by decide, by decide +kernel⟩
  · rw [hbefore ["ba"] [] rfl (by decide +kernel)]
    obtain rfl := Except.ok.inj ((start_of_compile hcompile).symm.trans hstart)
    rfl

end Match

namespace Listing

theorem filterMap_name? (mask : String) (lines : List String) :
    lines.filterMap (name? mask) =
      (lines.filter fun line => Text.isAllBlank line = false ∧ ¬ Repeats mask line).map
        Text.trim := by
  induction lines with
  | nil => rfl
  | cons line lines ih =>
      rw [List.filterMap_cons, List.filter_cons, ih, name?]
      by_cases hrepeats : Repeats mask line
      · simp [isEcho_iff.mpr hrepeats, hrepeats]
      · rw [isEcho_eq_false_iff.mpr hrepeats]
        cases hblank : Text.isAllBlank line with
        | true => simp
        | false => simp [hrepeats]

/-- The names that are collected are the trimmed texts of the lines before the first error record,
without the blank ones and the repeated requests; and a listing is marked exactly if there is an
error record in it, as it is for those who wait for a match.  So what has been collected stays as it
is when more lines are read, and after an error record nothing is collected any more. -/
theorem names_of_listing (mask : String) (lines : List String) :
    let listed := lines.foldl feed (start mask)
    listed.files =
      ((lines.takeWhile (!isErrorRecord ·)).filter fun line =>
        Text.isAllBlank line = false ∧ ¬ Repeats mask line).map Text.trim ∧
    (listed.hasErrors = true ↔ ∃ line ∈ lines, isErrorRecord line = true) ∧
    (∀ pattern, Mask.compile mask = .ok pattern →
      ∃ start, Match.start mask = .ok start ∧
        (lines.foldl Match.feed start).hasErrors = listed.hasErrors) ∧
    (∀ further : List String, listed.files <+: (further.foldl feed listed).files) ∧
    (∀ further : List String, listed.hasErrors = true →
      (further.foldl feed listed).files = listed.files) := by
  intro listed
  have herrors : listed.hasErrors = lines.any isErrorRecord := hasErrors_of_start mask lines
  refine ⟨?_, ?_, ?_, ?_, ?_⟩
  · rw [foldl_feed_files, start, filterMap_name?]
    simp
  · rw [herrors, List.any_eq_true]
  · intro pattern hcompile
    refine ⟨_, Match.start_of_compile hcompile, ?_⟩
    rw [Match.hasErrors_of_start, herrors]
  · intro further
    rw [foldl_feed_files listed]
    exact List.prefix_append _ _
  · intro further hmarked
    rw [foldl_feed_files listed, if_pos hmarked, List.append_nil]

end Listing

end SprayWatch.Output
