import Mathlib.Data.List.Basic
import SprayWatch.Output.Listing
import SprayWatch.Proofs.Trimming

/-!
# Reading listings for a match

What a listing says of a file depends on its own lines only.  An error record anywhere in it marks
it.  It shows a file when the request has been repeated on some line and a line after that one
matches; a repetition of the request is never itself a match.
-/

namespace SprayWatch.Output.Match

/-- Is the line a match for those who have seen the request repeated? -/
def counts (mask : String) (pattern : Mask.Pattern) (line : String) : Bool :=
  !isEcho mask line && pattern.matches (Text.trim line)

/-- There is a match on a line after one that repeats the request. -/
def Shows (mask : String) (pattern : Mask.Pattern) (lines : List String) : Prop :=
  ∃ echo line,
    [echo, line].Sublist lines ∧ isEcho mask echo = true ∧ counts mask pattern line = true

theorem shows_cons {mask line : String} {pattern : Mask.Pattern} {lines : List String} :
    Shows mask pattern (line :: lines) ↔
      (isEcho mask line = true ∧ ∃ later ∈ lines, counts mask pattern later = true) ∨
        Shows mask pattern lines := by
  constructor
  · rintro ⟨echo, later, hsublist, hecho, hcounts⟩
    rcases List.sublist_cons_iff.mp hsublist with hlines | ⟨rest, hrest, hlater⟩
    · exact .inr ⟨echo, later, hlines, hecho, hcounts⟩
    · simp only [List.cons.injEq] at hrest
      obtain ⟨rfl, rfl⟩ := hrest
      exact .inl ⟨hecho, later, List.singleton_sublist.mp hlater, hcounts⟩
  · rintro (⟨hecho, later, hmem, hcounts⟩ | ⟨echo, later, hsublist, hecho, hcounts⟩)
    · exact ⟨line, later, (List.singleton_sublist.mpr hmem).cons_cons line, hecho, hcounts⟩
    · exact ⟨echo, later, hsublist.cons line, hecho, hcounts⟩

theorem start_of_compile {mask : String} {pattern : Mask.Pattern}
    (hmask : Mask.compile mask = .ok pattern) :
    start mask = .ok ⟨mask, pattern, false, false, false⟩ := by
  simp [start, hmask, Except.map]

section Feeding

variable {m : Match} {line : String}

theorem feed_of_isEcho (hecho : isEcho m.mask line = true) :
    m.feed line = { m with hasErrors := m.hasErrors || isErrorRecord line, armed := true } := by
  simp [feed, hecho]

theorem feed_of_not_isEcho (hecho : isEcho m.mask line = false) :
    m.feed line =
      { m with
        hasErrors := m.hasErrors || isErrorRecord line
        found := m.found || (m.armed && m.pattern.matches (Text.trim line)) } := by
  simp [feed, hecho]

theorem feed_hasErrors (m : Match) (line : String) :
    (m.feed line).hasErrors = (m.hasErrors || isErrorRecord line) := by
  cases hecho : isEcho m.mask line with
  | true => rw [feed_of_isEcho hecho]
  | false => rw [feed_of_not_isEcho hecho]

theorem feed_mask (m : Match) (line : String) : (m.feed line).mask = m.mask := by
  cases hecho : isEcho m.mask line with
  | true => rw [feed_of_isEcho hecho]
  | false => rw [feed_of_not_isEcho hecho]

theorem feed_armed (m : Match) (line : String) :
    (m.feed line).armed = (m.armed || isEcho m.mask line) := by
  cases hecho : isEcho m.mask line with
  | true => rw [feed_of_isEcho hecho, Bool.or_true]
  | false => rw [feed_of_not_isEcho hecho, Bool.or_false]

end Feeding

theorem foldl_feed_mask (m : Match) (lines : List String) :
    (lines.foldl feed m).mask = m.mask := by
  induction lines generalizing m with
  | nil => rfl
  | cons line lines ih => rw [List.foldl_cons, ih, feed_mask]

/-- Who reads for a match is armed by any repetition of the request. -/
theorem foldl_feed_armed (m : Match) (lines : List String) :
    (lines.foldl feed m).armed = (m.armed || lines.any (isEcho m.mask)) := by
  induction lines generalizing m with
  | nil => simp
  | cons line lines ih =>
      rw [List.foldl_cons, ih, feed_mask, feed_armed, List.any_cons, Bool.or_assoc]

theorem foldl_feed_hasErrors (m : Match) (lines : List String) :
    (lines.foldl feed m).hasErrors = (m.hasErrors || lines.any isErrorRecord) := by
  induction lines generalizing m with
  | nil => simp
  | cons line lines ih =>
      rw [List.foldl_cons, ih, feed_hasErrors, List.any_cons, Bool.or_assoc]

theorem foldl_feed_found (m : Match) (lines : List String) :
    (lines.foldl feed m).found = true ↔
      m.found = true ∨
        (m.armed = true ∧ ∃ line ∈ lines, counts m.mask m.pattern line = true) ∨
        Shows m.mask m.pattern lines := by
  induction lines generalizing m with
  | nil => simp [Shows]
  | cons line lines ih =>
      rw [List.foldl_cons, ih, shows_cons]
      cases hecho : isEcho m.mask line with
      | true =>
          have hline : counts m.mask m.pattern line = false := by simp [counts, hecho]
          rw [feed_of_isEcho hecho]
          simp only [true_and, List.exists_mem_cons_iff, hline, Bool.false_eq_true, false_or]
          -- Who has seen the request repeated before gains nothing by this line.
          constructor
          · rintro (hfound | hlater | hshows)
            · exact .inl hfound
            · exact .inr (.inr (.inl hlater))
            · exact .inr (.inr (.inr hshows))
          · rintro (hfound | ⟨-, hlater⟩ | hlater | hshows)
            · exact .inl hfound
            · exact .inr (.inl hlater)
            · exact .inr (.inl hlater)
            · exact .inr (.inr hshows)
      | false =>
          have hline : counts m.mask m.pattern line = m.pattern.matches (Text.trim line) := by
            simp [counts, hecho]
          rw [feed_of_not_isEcho hecho]
          simp only [List.exists_mem_cons_iff, hline, Bool.or_eq_true, Bool.and_eq_true,
            Bool.false_eq_true, false_and, false_or, and_or_left, or_assoc]

/-- A reader that starts with a listing marks it exactly if there is an error record in it. -/
theorem hasErrors_of_start (mask : String) (pattern : Mask.Pattern) (lines : List String) :
    (lines.foldl feed ⟨mask, pattern, false, false, false⟩).hasErrors =
      lines.any isErrorRecord := by
  simp [foldl_feed_hasErrors]

/-- A reader that starts with a listing finds a file exactly if the listing shows one. -/
theorem found_of_start (mask : String) (pattern : Mask.Pattern) (lines : List String) :
    (lines.foldl feed ⟨mask, pattern, false, false, false⟩).found = true ↔
      Shows mask pattern lines := by
  simp [foldl_feed_found]

instance (mask : String) (pattern : Mask.Pattern) (lines : List String) :
    Decidable (Shows mask pattern lines) :=
  decidable_of_iff _ (found_of_start mask pattern lines)

end SprayWatch.Output.Match

namespace SprayWatch.Output.Listing

/-- The name on a line: every line has one but the blank ones and the repeated requests. -/
def name? (mask line : String) : Option String :=
  if isEcho mask line || Text.isAllBlank line then none else some (Text.trim line)

section Feeding

variable {l : Listing} {line : String}

theorem feed_of_marked (hmarked : (l.hasErrors || isErrorRecord line) = true) :
    l.feed line = { l with hasErrors := true } := by
  simp [feed, hmarked]

theorem feed_of_unmarked (hunmarked : (l.hasErrors || isErrorRecord line) = false) :
    l.feed line = { l with files := l.files ++ (name? l.mask line).toList } := by
  have herrors : l.hasErrors = false := (Bool.or_eq_false_iff.mp hunmarked).1
  simp only [feed, name?, hunmarked, Text.trim_isEmpty, Bool.or_false]
  cases isEcho l.mask line with
  | true => simp [herrors]
  | false =>
      cases Text.isAllBlank line with
      | true => simp [herrors]
      | false => simp [herrors]

theorem feed_hasErrors (l : Listing) (line : String) :
    (l.feed line).hasErrors = (l.hasErrors || isErrorRecord line) := by
  cases hmarked : l.hasErrors || isErrorRecord line with
  | true => rw [feed_of_marked hmarked]
  | false =>
      rw [feed_of_unmarked hmarked]
      exact (Bool.or_eq_false_iff.mp hmarked).1

theorem feed_mask (l : Listing) (line : String) : (l.feed line).mask = l.mask := by
  cases hmarked : l.hasErrors || isErrorRecord line with
  | true => rw [feed_of_marked hmarked]
  | false => rw [feed_of_unmarked hmarked]

end Feeding

theorem foldl_feed_mask (l : Listing) (lines : List String) :
    (lines.foldl feed l).mask = l.mask := by
  induction lines generalizing l with
  | nil => rfl
  | cons line lines ih => rw [List.foldl_cons, ih, feed_mask]

/-- Those who collect names mark a listing just as those who wait for a match do. -/
theorem foldl_feed_hasErrors (l : Listing) (lines : List String) :
    (lines.foldl feed l).hasErrors = (l.hasErrors || lines.any isErrorRecord) := by
  induction lines generalizing l with
  | nil => simp
  | cons line lines ih =>
      rw [List.foldl_cons, ih, feed_hasErrors, List.any_cons, Bool.or_assoc]

/-- The names that are collected are those on the lines before the first error record. -/
theorem foldl_feed_files (l : Listing) (lines : List String) :
    (lines.foldl feed l).files =
      l.files ++ if l.hasErrors then []
        else (lines.takeWhile (!isErrorRecord ·)).filterMap (name? l.mask) := by
  induction lines generalizing l with
  | nil => simp
  | cons line lines ih =>
      rw [List.foldl_cons, ih]
      cases hmarked : l.hasErrors || isErrorRecord line with
      | true =>
          rw [feed_of_marked hmarked]
          cases herrors : l.hasErrors with
          | true => simp
          | false =>
              have hrecord : isErrorRecord line = true := by simpa [herrors] using hmarked
              simp [hrecord]
      | false =>
          obtain ⟨herrors, hrecord⟩ := Bool.or_eq_false_iff.mp hmarked
          rw [feed_of_unmarked hmarked, List.takeWhile_cons_of_pos (by simp [hrecord])]
          cases hname : name? l.mask line with
          | none => simp [herrors, hname]
          | some name => simp [herrors, hname]

theorem hasErrors_of_start (mask : String) (lines : List String) :
    (lines.foldl feed (start mask)).hasErrors = lines.any isErrorRecord := by
  rw [foldl_feed_hasErrors, start, Bool.false_or]

/-- Without error records, all names are collected. -/
theorem files_of_start {mask : String} {lines : List String}
    (hflawless : lines.any isErrorRecord = false) :
    (lines.foldl feed (start mask)).files = lines.filterMap (name? mask) := by
  have hclean : lines.takeWhile (!isErrorRecord ·) = lines := by
    rw [List.takeWhile_eq_self_iff]
    intro line hmem
    simp [List.any_eq_false.mp hflawless line hmem]
  rw [foldl_feed_files, hclean]
  simp [start]

end SprayWatch.Output.Listing
