import SprayWatch.Proofs.RepeatedRequests

/-!
# Waiting for a file and listing it

Those who wait for a file and those who list files read the same lines.  A match that ends the wait
is on a line after the repeated request, and unless that line is blank it holds a name, which the
listing collects as well.  A blank line names no file, but it is held against the mask all the same:
a mask that matches the empty text, as `*` does, is therefore found on any blank line that follows
the request, where the listing shows nothing.
-/

namespace SprayWatch.Output

theorem isEcho_of_isAllBlank {mask line : String} (hblank : Text.isAllBlank line = true) :
    isEcho mask line = false := by
  rw [isEcho_eq_false_iff]
  intro hrepeats
  exact absurd hblank (by simp [hrepeats.not_isAllBlank])

namespace Match

/-- There is a blank line after one that repeats the request. -/
def ShowsBlank (mask : String) (lines : List String) : Prop :=
  ∃ echo line,
    [echo, line].Sublist lines ∧ isEcho mask echo = true ∧ Text.isAllBlank line = true

/-- A line that counts as a match holds a name, or else it is blank. -/
theorem name?_of_counts {mask line : String} {pattern : Mask.Pattern}
    (hcounts : counts mask pattern line = true) :
    (∃ name, Listing.name? mask line = some name ∧ pattern.matches name = true) ∨
      (pattern.matches "" = true ∧ Text.isAllBlank line = true) := by
  simp only [counts, Bool.and_eq_true, Bool.not_eq_true'] at hcounts
  obtain ⟨hother, hmatches⟩ := hcounts
  cases hblank : Text.isAllBlank line with
  | false => exact .inl ⟨Text.trim line, by simp [Listing.name?, hother, hblank], hmatches⟩
  | true => exact .inr ⟨Text.trim_of_isAllBlank hblank ▸ hmatches, rfl⟩

theorem counts_of_isAllBlank {mask line : String} {pattern : Mask.Pattern}
    (hempty : pattern.matches "" = true) (hblank : Text.isAllBlank line = true) :
    counts mask pattern line = true := by
  simp [counts, isEcho_of_isAllBlank hblank, Text.trim_of_isAllBlank hblank, hempty]

end Match

/-- With a mask that reads, those who wait and those who list mark the same outputs.  In an output
without error records, what is found is a name that is collected too, unless the mask matches the
empty text and there is a blank line after the request; and then it is found in any case. -/
theorem found_is_listed {mask : String} {pattern : Mask.Pattern}
    (hmask : Mask.compile mask = .ok pattern) (lines : List String) :
    ∃ start, Match.start mask = .ok start ∧
      let seen := lines.foldl Match.feed start
      let listed := lines.foldl Listing.feed (Listing.start mask)
      seen.hasErrors = listed.hasErrors ∧
      (seen.found = true → seen.hasErrors = false →
        (∃ name ∈ listed.files, pattern.matches name = true) ∨
          (pattern.matches "" = true ∧ Match.ShowsBlank mask lines)) ∧
      (pattern.matches "" = true → Match.ShowsBlank mask lines → seen.found = true) := by
  refine ⟨_, Match.start_of_compile hmask, ?_⟩
  intro seen listed
  have hseen : seen.hasErrors = lines.any isErrorRecord :=
    Match.hasErrors_of_start mask pattern lines
  have hfound : seen.found = true ↔ Match.Shows mask pattern lines :=
    Match.found_of_start mask pattern lines
  have hlisted : listed.hasErrors = lines.any isErrorRecord :=
    Listing.hasErrors_of_start mask lines
  refine ⟨hseen.trans hlisted.symm, ?_, ?_⟩
  · intro hshown hflawless
    have hfiles : listed.files = lines.filterMap (Listing.name? mask) :=
      Listing.files_of_start (hseen.symm.trans hflawless)
    obtain ⟨echo, line, hsublist, hecho, hcounts⟩ := hfound.mp hshown
    rcases Match.name?_of_counts hcounts with ⟨name, hname, hmatches⟩ | ⟨hempty, hblank⟩
    · have hmem : line ∈ lines := hsublist.subset (by simp)
      exact .inl ⟨name, hfiles ▸ List.mem_filterMap.mpr ⟨line, hmem, hname⟩, hmatches⟩
    · exact .inr ⟨hempty, echo, line, hsublist, hecho, hblank⟩
  · rintro hempty ⟨echo, line, hsublist, hecho, hblank⟩
    exact hfound.mpr ⟨echo, line, hsublist, hecho, Match.counts_of_isAllBlank hempty hblank⟩

theorem found_is_listed_named :
    Mask.compile "a*" = .ok ⟨[.exactly 'a', .anyText]⟩ ∧
      ∃ name ∈ (["List a*", "", " abc"].foldl Listing.feed (Listing.start "a*")).files,
        Mask.Pattern.matches ⟨[.exactly 'a', .anyText]⟩ name = true := by
  have hmask : Mask.compile "a*" = .ok ⟨[.exactly 'a', .anyText]⟩ := by decide +kernel
  obtain ⟨start, hstart, -, hlisted, -⟩ := found_is_listed hmask ["List a*", "", " abc"]
  obtain rfl := Except.ok.inj ((Match.start_of_compile hmask).symm.trans hstart)
  refine ⟨hmask, (hlisted (by decide +kernel) (by decide +kernel)).resolve_right ?_⟩
  rintro ⟨hempty, -⟩
  exact absurd hempty (by decide)

/-- A blank line ends the wait for any file at all, and the listing shows none. -/
theorem blank_line_found :
    ∃ start, Match.start "*" = .ok start ∧
      let seen := ["List *", ""].foldl Match.feed start
      seen.found = true ∧ seen.hasErrors = false ∧
        (["List *", ""].foldl Listing.feed (Listing.start "*")).files = [] := by
  have hmask : Mask.compile "*" = .ok ⟨[.anyText]⟩ := by decide +kernel
  refine ⟨_, Match.start_of_compile hmask, ?_⟩
  decide +kernel

end SprayWatch.Output
