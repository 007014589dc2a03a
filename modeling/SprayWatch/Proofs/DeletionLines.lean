import Mathlib.Data.List.DropRight
import Mathlib.Data.List.Infix
import SprayWatch.Output.Deletion

/-!
# Reading deletions

Of the output of a deletion only the last line counts that tells how far it got.  No two stages
begin with the same words, so a line tells at most one of them.

Three of the stages are reports on the file.  The fourth is what is known before any report, and
there are words for it as well: a line that begins with them takes back every report before it, so
that only what comes after the last such line is read.
-/

namespace SprayWatch.Output.Deletion

/-- Does a line begin with the words for a stage? -/
def Tells (line : String) (stage : Deletion) : Prop :=
  stage.text.toList <+: line.toList

/-- The last line that tells a stage tells this one. -/
def LastTells (lines : List String) (stage : Deletion) : Prop :=
  ∃ before line after,
    lines = before ++ line :: after ∧ Tells line stage ∧
      ∀ later ∈ after, ∀ other, ¬ Tells later other

theorem mem_all (stage : Deletion) : stage ∈ all := by
  cases stage <;> decide

theorem eq_of_prefix_text {stage other : Deletion}
    (hbegins : stage.text.toList <+: other.text.toList) : stage = other := by
  cases stage <;> cases other <;> first | rfl | exact absurd hbegins (by decide)

theorem Tells.unique {line : String} {stage other : Deletion} (hstage : Tells line stage)
    (hother : Tells line other) : stage = other := by
  rcases List.prefix_or_prefix_of_prefix hstage hother with hbegins | hbegins
  · exact eq_of_prefix_text hbegins
  · exact (eq_of_prefix_text hbegins).symm

theorem stageOf?_eq_some {line : String} {stage : Deletion} :
    stageOf? line = some stage ↔ Tells line stage := by
  constructor
  · intro hfound
    have hbegins := List.find?_some hfound
    exact List.isPrefixOf_iff_prefix.mp hbegins
  · intro htells
    cases hfound : stageOf? line with
    | none =>
        have hnone := List.find?_eq_none.mp hfound stage (mem_all stage)
        exact absurd (List.isPrefixOf_iff_prefix.mpr htells) hnone
    | some other =>
        have hbegins := List.find?_some hfound
        have hother : Tells line other := List.isPrefixOf_iff_prefix.mp hbegins
        rw [hother.unique htells]

theorem stageOf?_eq_none {line : String} :
    stageOf? line = none ↔ ∀ stage, ¬ Tells line stage := by
  constructor
  · intro hnone stage htells
    rw [stageOf?_eq_some.mpr htells] at hnone
    simp at hnone
  · intro hnone
    cases hfound : stageOf? line with
    | none => rfl
    | some stage => exact absurd (stageOf?_eq_some.mp hfound) (hnone stage)

theorem lastTells_cons {line : String} {lines : List String} {stage : Deletion} :
    LastTells (line :: lines) stage ↔
      LastTells lines stage ∨
        (Tells line stage ∧ ∀ later ∈ lines, ∀ other, ¬ Tells later other) := by
  constructor
  · rintro ⟨before, last, after, hlines, htells, hsilent⟩
    cases before with
    | nil =>
        obtain ⟨rfl, rfl⟩ := List.cons.inj hlines
        exact .inr ⟨htells, hsilent⟩
    | cons first before =>
        obtain ⟨-, hrest⟩ := List.cons.inj hlines
        exact .inl ⟨before, last, after, hrest, htells, hsilent⟩
  · rintro (⟨before, last, after, rfl, htells, hsilent⟩ | ⟨htells, hsilent⟩)
    · exact ⟨line :: before, last, after, rfl, htells, hsilent⟩
    · exact ⟨[], line, lines, rfl, htells, hsilent⟩

/-- What has been read is the stage that was told last, or what was known before. -/
theorem foldl_feed_eq_iff {start stage : Deletion} {lines : List String} :
    lines.foldl feed start = stage ↔
      LastTells lines stage ∨ (start = stage ∧ ∀ line ∈ lines, ∀ other, ¬ Tells line other) := by
  induction lines generalizing start with
  | nil => simp [LastTells]
  | cons line lines ih =>
      rw [List.foldl_cons, ih, lastTells_cons, or_assoc]
      apply or_congr_right
      rw [List.forall_mem_cons]
      cases hline : stageOf? line with
      | none =>
          have hsilent := stageOf?_eq_none.mp hline
          have hfed : start.feed line = start := by simp [feed, hline]
          simp [hfed, hsilent]
      | some told =>
          have htold := stageOf?_eq_some.mp hline
          have hfed : start.feed line = told := by simp [feed, hline]
          have hheard : ¬ ∀ other, ¬ Tells line other := fun hsilent => hsilent told htold
          have hiff : told = stage ↔ Tells line stage := by
            constructor
            · intro heq
              exact heq ▸ htold
            · exact htold.unique
          simp only [hfed, hiff, hheard, false_and, and_false, or_false]

/-- A deletion of which nothing is known is taken to have gone through exactly if its output tells
this last. -/
theorem foldl_feed_eq_deleted {lines : List String} :
    lines.foldl feed .unknown = .deleted ↔ LastTells lines .deleted := by
  simp [foldl_feed_eq_iff]

instance (lines : List String) : Decidable (LastTells lines .deleted) :=
  decidable_of_iff _ foldl_feed_eq_deleted

/-! ## Reports on the file -/

/-- Does the line begin with the word for knowing nothing? -/
def forgets (line : String) : Bool :=
  "Unknown".toList.isPrefixOf line.toList

/-- The line begins with the words of a report. -/
def Reports (line : String) : Deletion → Prop
  | .unknown => False
  | .removing => "Removing".toList <+: line.toList
  | .deleted => "Deleted File".toList <+: line.toList
  | .notFound => "File not found".toList <+: line.toList

/-- The last report is on this stage. -/
def LastReports (lines : List String) (stage : Deletion) : Prop :=
  ∃ before line after,
    lines = before ++ line :: after ∧ Reports line stage ∧
      ∀ later ∈ after, ∀ other, ¬ Reports later other

instance (line : String) : (stage : Deletion) → Decidable (Reports line stage)
  | .unknown => inferInstanceAs (Decidable False)
  | .removing => inferInstanceAs (Decidable ("Removing".toList <+: line.toList))
  | .deleted => inferInstanceAs (Decidable ("Deleted File".toList <+: line.toList))
  | .notFound => inferInstanceAs (Decidable ("File not found".toList <+: line.toList))

theorem tells_unknown_iff {line : String} : Tells line .unknown ↔ forgets line = true :=
  List.isPrefixOf_iff_prefix.symm

theorem tells_iff_reports {line : String} (hkeeps : forgets line = false) (stage : Deletion) :
    Tells line stage ↔ Reports line stage := by
  cases stage with
  | unknown => simp [tells_unknown_iff, hkeeps, Reports]
  | removing => exact Iff.rfl
  | deleted => exact Iff.rfl
  | notFound => exact Iff.rfl

theorem lastTells_iff_lastReports {lines : List String}
    (hkeeps : ∀ line ∈ lines, forgets line = false) (stage : Deletion) :
    LastTells lines stage ↔ LastReports lines stage := by
  apply exists₃_congr
  intro before line after
  apply and_congr_right
  rintro rfl
  have hline : forgets line = false := hkeeps line (by simp)
  have hlater : ∀ later ∈ after, forgets later = false :=
    fun later hmem => hkeeps later (by simp [hmem])
  apply and_congr (tells_iff_reports hline stage)
  apply forall₂_congr
  intro later hmem
  simp only [tells_iff_reports (hlater later hmem)]

theorem feed_of_not_tells {line : String} (hsilent : ∀ stage, ¬ Tells line stage)
    (known : Deletion) : known.feed line = known := by
  simp [feed, stageOf?_eq_none.mpr hsilent]

theorem feed_of_forgets {line : String} (hforgets : forgets line = true) (known : Deletion) :
    known.feed line = .unknown := by
  simp [feed, stageOf?_eq_some.mpr (tells_unknown_iff.mpr hforgets)]

/-- Only the lines after the last one that takes the reports back need be read. -/
theorem foldl_feed_rtakeWhile (lines : List String) :
    (lines.rtakeWhile (!forgets ·)).foldl feed .unknown = lines.foldl feed .unknown := by
  -- From the end, where both sides are cut short by the same line.
  induction lines using List.reverseRecOn with
  | nil => rfl
  | append_singleton lines line ih =>
      rw [List.foldl_concat, List.rtakeWhile_concat]
      cases hline : forgets line with
      | true => simp [feed_of_forgets hline]
      | false => simp [ih]

/-- What is known in the end is the last report since a line began with the word for knowing
nothing, or nothing if there is none.  A line that begins neither with that word nor with those of a
report changes nothing, and what has been reported is taken back by that word only. -/
theorem last_report_counts (lines : List String) :
    let read := lines.foldl feed .unknown
    let since := lines.rtakeWhile (!forgets ·)
    (∀ stage, read = stage ↔
      LastReports since stage ∨
        (stage = .unknown ∧ ∀ line ∈ since, ∀ other, ¬ Reports line other)) ∧
    (∀ (known : Deletion) (line : String), forgets line = false →
      (∀ stage, ¬ Reports line stage) → known.feed line = known) ∧
    (∀ further : List String, read ≠ .unknown → (∀ line ∈ further, forgets line = false) →
      further.foldl feed read ≠ .unknown) := by
  intro read since
  have hkeeps : ∀ line ∈ since, forgets line = false := by
    intro line hmem
    simpa using List.mem_rtakeWhile_imp hmem
  refine ⟨?_, ?_, ?_⟩
  · intro stage
    have hread : read = since.foldl feed .unknown := (foldl_feed_rtakeWhile lines).symm
    rw [hread, foldl_feed_eq_iff, lastTells_iff_lastReports hkeeps, eq_comm (a := stage)]
    apply or_congr_right
    apply and_congr_right
    intro hstage
    apply forall₂_congr
    intro line hmem
    simp only [tells_iff_reports (hkeeps line hmem)]
  · intro known line hline hsilent
    apply feed_of_not_tells
    intro stage
    rw [tells_iff_reports hline]
    exact hsilent stage
  · intro further hread hfurther hforgotten
    rcases foldl_feed_eq_iff.mp hforgotten with ⟨before, line, after, rfl, htells, -⟩ | ⟨hnone, -⟩
    · have hline : forgets line = false := hfurther line (by simp)
      rw [tells_unknown_iff.mp htells] at hline
      exact absurd hline (by decide)
    · exact hread hnone

/-- A report is the last one, and yet it is no longer known. -/
theorem report_taken_back :
    LastReports ["Deleted File a", "Unknown"] .deleted ∧
      ["Deleted File a", "Unknown"].foldl feed .unknown = .unknown := by
  refine ⟨⟨[], "Deleted File a", ["Unknown"], rfl, by decide, ?_⟩, by decide⟩
  intro later hmem other
  obtain rfl := List.mem_singleton.mp hmem
  cases other <;> decide

end SprayWatch.Output.Deletion
