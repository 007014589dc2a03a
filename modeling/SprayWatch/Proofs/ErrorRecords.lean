import Mathlib.Data.List.TakeWhile
import SprayWatch.Output.ErrorRecord

/-!
# The fields of error records

An error record begins with five fields, each of characters of its own kind and with a space after
it.  No kind includes the space, so a text can be cut into such fields in one way only: a field ends
where its characters end.  A pass from left to right that takes every field as long as it can
therefore misses no record.  Nothing is asked of what follows the closing quote.
-/

namespace SprayWatch.Output

/-- A text begins with fields of some kinds, each of them followed by a space, and goes on with a
rest. -/
inductive Fields : List (Char → Bool) → List (List Char) → List Char → List Char → Prop where
  | nil (rest : List Char) : Fields [] [] rest rest
  | cons {kind : Char → Bool} {kinds : List (Char → Bool)} {field : List Char}
      {fields : List (List Char)} {more rest : List Char} (hne : field ≠ [])
      (hkind : ∀ c ∈ field, kind c = true) (hmore : Fields kinds fields more rest) :
      Fields (kind :: kinds) (field :: fields) (field ++ ' ' :: more) rest

/-- The fields that one pass from left to right takes, each as long as it can be, and the rest. -/
def longestFields? : List (Char → Bool) → List Char → Option (List (List Char) × List Char)
  | [], cs => some ([], cs)
  | kind :: kinds, cs =>
    (afterField? kind cs).bind fun more =>
      (longestFields? kinds more).map fun split => (cs.takeWhile kind :: split.1, split.2)

def recordKinds : List (Char → Bool) :=
  [Char.isDigit, isDigitOr '-', isDigitOr ':', Char.isDigit, Char.isDigit]

theorem space_of_mem_recordKinds : ∀ kind ∈ recordKinds, kind ' ' = false := by
  simp [recordKinds, isDigitOr]

/-! ## One field -/

section Field

variable {kind : Char → Bool} {cs field more : List Char}

theorem field_of_afterField? (hfield : afterField? kind cs = some more) :
    cs.takeWhile kind ≠ [] ∧ cs = cs.takeWhile kind ++ ' ' :: more := by
  unfold afterField? at hfield
  split at hfield
  next c taken rest htaken hleft =>
    simp only [Option.some.injEq] at hfield
    subst hfield
    constructor
    · simp [htaken]
    · rw [← hleft, List.takeWhile_append_dropWhile]
  next => simp at hfield

variable (hspace : kind ' ' = false) (hkind : ∀ c ∈ field, kind c = true)
include hspace hkind

theorem takeWhile_field : (field ++ ' ' :: more).takeWhile kind = field := by
  rw [List.takeWhile_append_of_pos hkind, List.takeWhile_cons_of_neg (by simp [hspace]),
    List.append_nil]

theorem afterField?_field (hne : field ≠ []) :
    afterField? kind (field ++ ' ' :: more) = some more := by
  have hleft : (field ++ ' ' :: more).dropWhile kind = ' ' :: more := by
    rw [List.dropWhile_append_of_pos hkind, List.dropWhile_cons_of_neg (by simp [hspace])]
  unfold afterField?
  rw [takeWhile_field hspace hkind, hleft]
  cases field with
  | nil => exact absurd rfl hne
  | cons c field => rfl

end Field

/-! ## All fields -/

section Split

variable {kinds : List (Char → Bool)} {fields others : List (List Char)}
  {cs rest left : List Char}

theorem Fields.append (hfields : Fields kinds fields cs rest) (more : List Char) :
    Fields kinds fields (cs ++ more) (rest ++ more) := by
  induction hfields with
  | nil rest => exact .nil _
  | cons hne hkind _ ih =>
      rw [List.append_assoc, List.cons_append]
      exact .cons hne hkind ih

theorem fields_of_longestFields? (hlongest : longestFields? kinds cs = some (fields, rest)) :
    Fields kinds fields cs rest := by
  induction kinds generalizing cs fields with
  | nil =>
      simp only [longestFields?, Option.some.injEq, Prod.mk.injEq] at hlongest
      obtain ⟨rfl, rfl⟩ := hlongest
      exact .nil cs
  | cons kind kinds ih =>
      simp only [longestFields?, Option.bind_eq_some_iff, Option.map_eq_some_iff,
        Prod.mk.injEq] at hlongest
      obtain ⟨more, hfield, split, hsplit, rfl, rfl⟩ := hlongest
      obtain ⟨hne, hcs⟩ := field_of_afterField? hfield
      have hkind : ∀ c ∈ cs.takeWhile kind, kind c = true :=
        fun c hmem => List.mem_takeWhile_imp hmem
      have hfields := Fields.cons hne hkind (ih hsplit)
      rwa [← hcs] at hfields

theorem longestFields?_of_fields (hspace : ∀ kind ∈ kinds, kind ' ' = false)
    (hfields : Fields kinds fields cs rest) : longestFields? kinds cs = some (fields, rest) := by
  induction hfields with
  | nil rest => rfl
  | @cons kind kinds field fields more rest hne hkind _ ih =>
      rw [List.forall_mem_cons] at hspace
      simp only [longestFields?, afterField?_field hspace.1 hkind hne, Option.bind_some,
        ih hspace.2, Option.map_some, takeWhile_field hspace.1 hkind]

theorem longestFields?_eq_some_iff (hspace : ∀ kind ∈ kinds, kind ' ' = false) :
    longestFields? kinds cs = some (fields, rest) ↔ Fields kinds fields cs rest :=
  ⟨fields_of_longestFields?, longestFields?_of_fields hspace⟩

theorem Fields.unique (hspace : ∀ kind ∈ kinds, kind ' ' = false)
    (hfields : Fields kinds fields cs rest) (hothers : Fields kinds others cs left) :
    fields = others ∧ rest = left := by
  have hfirst := longestFields?_of_fields hspace hfields
  rw [longestFields?_of_fields hspace hothers] at hfirst
  simp only [Option.some.injEq, Prod.mk.injEq] at hfirst
  exact ⟨hfirst.1.symm, hfirst.2.symm⟩

end Split

/-! ## The quoted text -/

theorem startsQuoted_iff {cs : List Char} :
    startsQuoted cs = true ↔ ∃ text after, cs = '"' :: text ++ '"' :: after ∧ '\n' ∉ text := by
  constructor
  · intro hquoted
    unfold startsQuoted at hquoted
    split at hquoted
    next inner =>
      rw [List.contains_iff_mem] at hquoted
      obtain ⟨text, more, hline⟩ := List.append_of_mem hquoted
      have hwhole := List.takeWhile_append_dropWhile (p := (· != '\n')) (l := inner)
      rw [hline, List.append_assoc, List.cons_append] at hwhole
      refine ⟨text, _, congrArg ('"' :: ·) hwhole.symm, ?_⟩
      intro hfeed
      have hmem : '\n' ∈ inner.takeWhile (· != '\n') := by
        rw [hline]
        exact List.mem_append_left _ hfeed
      simpa using List.mem_takeWhile_imp hmem
    next => simp at hquoted
  · rintro ⟨text, after, rfl, hfeed⟩
    have htext : ∀ c ∈ text, (c != '\n') = true := by
      intro c hmem
      rw [bne_iff_ne]
      rintro rfl
      exact hfeed hmem
    simp only [startsQuoted, List.cons_append]
    rw [List.takeWhile_append_of_pos htext, List.takeWhile_cons_of_pos (by decide)]
    simp

/-! ## Records -/

theorem map_snd_longestFields? (kind : Char → Bool) (kinds : List (Char → Bool)) (cs : List Char) :
    (longestFields? (kind :: kinds) cs).map Prod.snd =
      (afterField? kind cs).bind fun more => (longestFields? kinds more).map Prod.snd := by
  cases hfield : afterField? kind cs with
  | none => simp [longestFields?, hfield]
  | some more => simp [longestFields?, hfield, Function.comp_def]

theorem isErrorRecord_eq (line : String) :
    isErrorRecord line =
      (longestFields? recordKinds line.toList).any fun split => startsQuoted split.2 := by
  have hrest : ∀ found : Option (List (List Char) × List Char),
      (found.any fun split => startsQuoted split.2) = (found.map Prod.snd).any startsQuoted := by
    intro found
    cases found with
    | none => rfl
    | some split => rfl
  rw [hrest, recordKinds]
  simp only [map_snd_longestFields?]
  simp only [longestFields?, Option.map_some, Option.bind_fun_some, isErrorRecord]
  split
  next cs htext => rw [htext, Option.any_some]
  next htext => rw [htext, Option.any_none]

theorem isErrorRecord_iff {line : String} :
    isErrorRecord line = true ↔
      ∃ fields text after,
        Fields recordKinds fields line.toList ('"' :: text ++ '"' :: after) ∧ '\n' ∉ text := by
  rw [isErrorRecord_eq, Option.any_eq_true]
  constructor
  · rintro ⟨⟨fields, rest⟩, hlongest, hquoted⟩
    obtain ⟨text, after, rfl, hfeed⟩ := startsQuoted_iff.mp hquoted
    exact ⟨fields, text, after, fields_of_longestFields? hlongest, hfeed⟩
  · rintro ⟨fields, text, after, hfields, hfeed⟩
    exact ⟨_, longestFields?_of_fields space_of_mem_recordKinds hfields,
      startsQuoted_iff.mpr ⟨text, after, rfl, hfeed⟩⟩

theorem isErrorRecord_append {line : String} (hrecord : isErrorRecord line = true) (text : String) :
    isErrorRecord (line ++ text) = true := by
  rw [isErrorRecord_iff] at hrecord ⊢
  obtain ⟨fields, quoted, after, hfields, hfeed⟩ := hrecord
  refine ⟨fields, quoted, after ++ text.toList, ?_, hfeed⟩
  have hlonger := hfields.append text.toList
  rw [List.append_assoc, List.cons_append] at hlonger
  rwa [String.toList_append]

theorem Fields.mem {kinds : List (Char → Bool)} {fields : List (List Char)} {cs rest : List Char}
    (hfields : Fields kinds fields cs rest) {c : Char} (hmem : c ∈ rest) : c ∈ cs := by
  induction hfields with
  | nil rest => exact hmem
  | cons _ _ _ ih => exact List.mem_append_right _ (List.mem_cons_of_mem _ (ih hmem))

/-- A text can be cut into the fields of a record in one way at most, and it is the pass that takes
each field as long as it can that finds it.  A text is a record exactly if it begins with such
fields and goes on with a text in double quotes, on one line; and it stays one whatever is
appended. -/
theorem error_record_fields (line : String) :
    (∀ fields others rest left, Fields recordKinds fields line.toList rest →
      Fields recordKinds others line.toList left → fields = others ∧ rest = left) ∧
    (∀ fields rest, longestFields? recordKinds line.toList = some (fields, rest) ↔
      Fields recordKinds fields line.toList rest) ∧
    (isErrorRecord line =
      (longestFields? recordKinds line.toList).any fun split => startsQuoted split.2) ∧
    (isErrorRecord line = true ↔
      ∃ fields text after,
        Fields recordKinds fields line.toList ('"' :: text ++ '"' :: after) ∧ '\n' ∉ text) ∧
    ('\n' ∉ line.toList →
      (isErrorRecord line = true ↔
        ∃ fields rest, Fields recordKinds fields line.toList ('"' :: rest) ∧ '"' ∈ rest)) ∧
    (isErrorRecord line = true → ∀ text, isErrorRecord (line ++ text) = true) := by
  refine ⟨fun _ _ _ _ => Fields.unique space_of_mem_recordKinds,
    fun _ _ => longestFields?_eq_some_iff space_of_mem_recordKinds, isErrorRecord_eq line,
    isErrorRecord_iff, ?_, isErrorRecord_append⟩
  intro hline
  rw [isErrorRecord_iff]
  constructor
  · rintro ⟨fields, text, after, hfields, -⟩
    exact ⟨fields, text ++ '"' :: after, hfields, by simp⟩
  · rintro ⟨fields, rest, hfields, hquote⟩
    obtain ⟨text, after, rfl⟩ := List.append_of_mem hquote
    refine ⟨fields, text, after, hfields, ?_⟩
    intro hfeed
    apply hline
    apply hfields.mem
    simp [hfeed]

theorem error_record_fields_connecting :
    let line := "00000000 2016-06-16 15:55:40 18852 20308 \"ERROR: Error connecting\""
    let fields := ["00000000", "2016-06-16", "15:55:40", "18852", "20308"].map String.toList
    let rest := "\"ERROR: Error connecting\"".toList
    Fields recordKinds fields line.toList rest ∧ '\n' ∉ line.toList ∧
      ¬ Fields recordKinds fields line.toList [] ∧ isErrorRecord line = true ∧
      isErrorRecord (line ++ ", again") = true := by
  intro line fields rest
  obtain ⟨hunique, hpass, -, -, honLine, hlonger⟩ := error_record_fields line
  have hlongest : longestFields? recordKinds line.toList = some (fields, rest) := by
    decide +kernel
  have hfields := (hpass fields rest).mp hlongest
  have hline : '\n' ∉ line.toList := by decide +kernel
  have hrecord : isErrorRecord line = true :=
    (honLine hline).mpr ⟨fields, "ERROR: Error connecting\"".toList, hfields, by decide +kernel⟩
  refine ⟨hfields, hline, ?_, hrecord, hlonger hrecord ", again"⟩
  intro hothers
  obtain ⟨-, hrest⟩ := hunique _ _ _ _ hfields hothers
  exact absurd hrest (by decide)

end SprayWatch.Output
