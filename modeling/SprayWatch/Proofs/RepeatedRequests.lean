import SprayWatch.Proofs.ErrorRecords
import SprayWatch.Proofs.LetterCase
import SprayWatch.Proofs.ListingLines

/-!
# The repeated request

A listing begins by repeating the request.  A line is held against the request without the blanks
around it, and the request is kept as it was written; so a request that ends in a blank, as it does
for a mask that is empty or ends in one, is not recognised however it is repeated.  All others are
recognised in any letter case.
-/

namespace SprayWatch.Output

/-- The line repeats the request, apart from letter case and blanks around it. -/
def Repeats (mask line : String) : Prop :=
  Text.lowercase (Text.trim line) = Text.lowercase ("List " ++ mask)

instance (mask line : String) : Decidable (Repeats mask line) :=
  inferInstanceAs (Decidable (_ = _))

theorem isEcho_iff {mask line : String} : isEcho mask line = true ↔ Repeats mask line :=
  beq_iff_eq

theorem isEcho_eq_false_iff {mask line : String} :
    isEcho mask line = false ↔ ¬ Repeats mask line := by
  rw [← isEcho_iff, Bool.not_eq_true]

/-- There is something in the mask, and it does not end in a blank. -/
def endsInWord (mask : String) : Bool :=
  mask.toList.getLast?.any (!Text.isBlank ·)

theorem lowercase_request (mask : String) :
    ∃ rest, (Text.lowercase ("List " ++ mask)).toList = 'l' :: rest := by
  rw [Text.lowercase, String.toList_append, String.toList_ofList]
  exact ⟨_, rfl⟩

theorem request_getLast? (mask : String) :
    ("List " ++ mask).toList.getLast?.any Text.isBlank = !endsInWord mask := by
  rw [endsInWord, String.toList_append, List.getLast?_append]
  cases mask.toList.getLast? with
  | none => rfl
  | some c => simp

/-- The request in lower case is free of blanks around it, unless the mask leaves one at its end. -/
theorem trim_lowercase_request_iff {mask : String} :
    Text.trim (Text.lowercase ("List " ++ mask)) = Text.lowercase ("List " ++ mask) ↔
      endsInWord mask = true := by
  obtain ⟨rest, hrest⟩ := lowercase_request mask
  have hfirst : ('l' :: rest).dropWhile Text.isBlank = 'l' :: rest :=
    List.dropWhile_cons_of_neg (by decide)
  rw [← String.toList_inj, Text.trim, String.toList_ofList, Text.trimChars, hrest, hfirst,
    Text.trimEndChars_eq_self_iff, ← hrest, Text.lowercase, String.toList_ofList,
    Text.getLast?_lowerAfter_isBlank, request_getLast?]
  simp

theorem Repeats.endsInWord {mask line : String} (hrepeats : Repeats mask line) :
    endsInWord mask = true := by
  rw [← trim_lowercase_request_iff, ← hrepeats, Text.lowercase_trim, Text.trim_trim]

section Written

variable {mask line : String} (hline : Text.lowercase line = Text.lowercase ("List " ++ mask))
include hline

theorem repeats_iff_endsInWord : Repeats mask line ↔ endsInWord mask = true := by
  rw [Repeats, Text.lowercase_trim, hline, trim_lowercase_request_iff]

theorem isEcho_eq_endsInWord : isEcho mask line = endsInWord mask := by
  rw [Bool.eq_iff_iff, isEcho_iff, repeats_iff_endsInWord hline]

theorem head?_lowercase_of_written :
    (Text.lowercase (Text.trim line)).toList.head? = some 'l' := by
  obtain ⟨rest, hrest⟩ := lowercase_request mask
  rw [Text.lowercase_trim, hline, Text.trim, String.toList_ofList, hrest,
    Text.trimChars_cons (by decide), List.head?_cons]

end Written

/-! ## Other lines -/

theorem Repeats.head?_lowercase {mask line : String} (hrepeats : Repeats mask line) :
    (Text.lowercase (Text.trim line)).toList.head? = some 'l' := by
  obtain ⟨rest, hrest⟩ := lowercase_request mask
  rw [hrepeats, hrest, List.head?_cons]

theorem exists_of_isErrorRecord {line : String} (hrecord : isErrorRecord line = true) :
    ∃ c rest, line.toList = c :: rest ∧ c.isDigit = true := by
  obtain ⟨fields, text, after, hfields, -⟩ := isErrorRecord_iff.mp hrecord
  generalize line.toList = cs at hfields
  cases hfields with
  | @cons _ _ field _ more _ hne hdigits _ =>
      obtain ⟨c, later, rfl⟩ := List.exists_cons_of_ne_nil hne
      exact ⟨c, later ++ ' ' :: more, rfl, hdigits c List.mem_cons_self⟩

section Words

variable {line : String} (hfirst : (Text.lowercase (Text.trim line)).toList.head? = some 'l')
include hfirst

theorem not_isAllBlank_of_head? : Text.isAllBlank line = false := by
  rw [Bool.eq_false_iff]
  intro hblank
  rw [Text.trim_of_isAllBlank hblank] at hfirst
  exact absurd hfirst (by decide)

theorem not_isErrorRecord_of_head? : isErrorRecord line = false := by
  rw [Bool.eq_false_iff]
  intro hrecord
  obtain ⟨c, rest, hline, hdigit⟩ := exists_of_isErrorRecord hrecord
  obtain ⟨hword, hother, hlower⟩ := Text.isDigit_table hdigit
  rw [Text.lowercase, Text.trim, String.toList_ofList, String.toList_ofList, hline,
    Text.trimChars_cons hword, Text.lowerAfter_cons, Text.lowerIn_of_ne hother, hlower,
    List.cons_append, List.head?_cons, Option.some.injEq] at hfirst
  rw [hfirst] at hdigit
  exact absurd hdigit (by decide)

end Words

theorem Repeats.not_isAllBlank {mask line : String} (hrepeats : Repeats mask line) :
    Text.isAllBlank line = false :=
  not_isAllBlank_of_head? hrepeats.head?_lowercase

theorem Repeats.not_isErrorRecord {mask line : String} (hrepeats : Repeats mask line) :
    isErrorRecord line = false :=
  not_isErrorRecord_of_head? hrepeats.head?_lowercase

/-! ## Readers -/

section Reading

variable {mask line : String} (hline : Text.lowercase line = Text.lowercase ("List " ++ mask))

theorem Match.endsInWord_of_armed {pattern : Mask.Pattern} {before : List String}
    (harmed : (before.foldl feed ⟨mask, pattern, false, false, false⟩).armed = true) :
    endsInWord mask = true := by
  rw [foldl_feed_armed, Bool.false_or, List.any_eq_true] at harmed
  obtain ⟨echo, -, hecho⟩ := harmed
  exact (isEcho_iff.mp hecho).endsInWord

include hline

theorem Match.feed_written {m : Match} (hmask : m.mask = mask)
    (harmed : m.armed = true → endsInWord mask = true) :
    (m.feed line).armed = endsInWord mask ∧ (m.feed line).found = m.found := by
  have hecho : isEcho m.mask line = endsInWord mask := by rw [hmask, isEcho_eq_endsInWord hline]
  by_cases hend : endsInWord mask = true
  · rw [hend] at hecho ⊢
    rw [feed_of_isEcho hecho]
    exact ⟨rfl, rfl⟩
  · have hunarmed : m.armed = false := by
      rw [Bool.eq_false_iff]
      exact mt harmed hend
    rw [Bool.not_eq_true] at hend
    rw [hend] at hecho ⊢
    rw [feed_of_not_isEcho hecho]
    simp [hunarmed]

theorem Listing.feed_written {l : Listing} (hmask : l.mask = mask) :
    (l.feed line).files =
      if endsInWord mask || l.hasErrors then l.files else l.files ++ [Text.trim line] := by
  have hecho : isEcho l.mask line = endsInWord mask := by rw [hmask, isEcho_eq_endsInWord hline]
  have hfirst := head?_lowercase_of_written hline
  have hrecord : isErrorRecord line = false := not_isErrorRecord_of_head? hfirst
  cases herrors : l.hasErrors with
  | true =>
      rw [feed_of_marked (by simp [herrors])]
      simp
  | false =>
      rw [feed_of_unmarked (by simp [herrors, hrecord]), name?, hecho,
        not_isAllBlank_of_head? hfirst]
      cases endsInWord mask with
      | true => simp
      | false => simp

end Reading

/-- However many lines have been read: a line that is the request, apart from letter case, is never
itself found.  It arms those who wait for a match, and those who collect names leave it out, exactly
if the mask does not end in a blank; otherwise it is collected as a name like any other line. -/
theorem repeated_request_recognised {mask line : String}
    (hline : Text.lowercase line = Text.lowercase ("List " ++ mask)) (before : List String) :
    (∀ pattern, Mask.compile mask = .ok pattern →
      ∃ start, Match.start mask = .ok start ∧
        let seen := before.foldl Match.feed start
        (seen.feed line).armed = endsInWord mask ∧ (seen.feed line).found = seen.found) ∧
    let listed := before.foldl Listing.feed (Listing.start mask)
    (listed.feed line).files =
      if endsInWord mask || listed.hasErrors then listed.files
      else listed.files ++ [Text.trim line] := by
  constructor
  · intro pattern hcompile
    refine ⟨_, Match.start_of_compile hcompile, ?_⟩
    intro seen
    apply Match.feed_written hline (Match.foldl_feed_mask _ before)
    exact Match.endsInWord_of_armed
  · intro listed
    exact Listing.feed_written hline (Listing.foldl_feed_mask _ before)

theorem repeated_request_recognised_sigma :
    Text.lowercase "LIST οδος" = Text.lowercase ("List " ++ "ΟΔΟΣ") ∧
      (∃ start, Match.start "ΟΔΟΣ" = .ok start ∧
        ((["οδος"].foldl Match.feed start).feed "LIST οδος").armed = true) ∧
      ((["οδος"].foldl Listing.feed (Listing.start "ΟΔΟΣ")).feed "LIST οδος").files = ["οδος"] := by
  have hline : Text.lowercase "LIST οδος" = Text.lowercase ("List " ++ "ΟΔΟΣ") := by
    decide +kernel
  have hend : endsInWord "ΟΔΟΣ" = true := by decide +kernel
  have hcompile : Mask.compile "ΟΔΟΣ" =
      .ok ⟨[.exactly 'Ο', .exactly 'Δ', .exactly 'Ο', .exactly 'Σ']⟩ := by decide +kernel
  obtain ⟨hseen, hlisted⟩ := repeated_request_recognised hline ["οδος"]
  obtain ⟨start, hstart, harmed, -⟩ := hseen _ hcompile
  refine ⟨hline, ⟨start, hstart, harmed.trans hend⟩, ?_⟩
  rw [hlisted, hend]
  decide +kernel

/-- With a blank at its end, a mask has its own request listed as a file. -/
theorem request_listed_as_file :
    Text.lowercase "List a " = Text.lowercase ("List " ++ "a ") ∧
      (∃ start, Match.start "a " = .ok start ∧ (start.feed "List a ").armed = false) ∧
      ((Listing.start "a ").feed "List a ").files = ["List a"] := by
  have hcompile : Mask.compile "a " = .ok ⟨[.exactly 'a', .exactly ' ']⟩ := by decide +kernel
  refine ⟨by decide +kernel, ⟨_, Match.start_of_compile hcompile, ?_⟩, ?_⟩
  · decide +kernel
  · decide +kernel

end SprayWatch.Output
