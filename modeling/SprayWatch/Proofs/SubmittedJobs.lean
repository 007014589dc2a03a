import Mathlib.Data.List.Induction
import SprayWatch.Proofs.ArgumentKeys
import SprayWatch.Proofs.JobAborts

/-!
# Jobs that are submitted

Of the output of a submission only the last line counts that names a job.  A name that comes out of
it is trimmed and not blank, and so it passes unchanged through all who look at it later: those who
read the answers about the job, the commands that ask about it and abort it, and the abort itself.
No run therefore ever finds the name of its own job blank.
-/

namespace SprayWatch

namespace Output.Submission

/-- The line begins with the words for it and names a job, with blanks around the name perhaps. -/
def Names (line id : String) : Prop :=
  ∃ rest, line = "Submitted WUID " ++ rest ∧ Text.isAllBlank rest = false ∧ id = Text.trim rest

/-- The last line that names a job names this one. -/
def LastNames (lines : List String) (id : String) : Prop :=
  ∃ before line after,
    lines = before ++ line :: after ∧ Names line id ∧ ∀ later ∈ after, ∀ other, ¬ Names later other

theorem jobOf?_marker (rest : String) :
    jobOf? (marker ++ rest) =
      if Text.isAllBlank rest then none else some (Text.trim rest) := by
  have hdrop : (marker ++ rest).toList.drop marker.length = rest.toList := by
    rw [String.toList_append, ← String.length_toList, List.drop_left]
  have hempty : (Text.trimChars rest.toList).isEmpty = Text.isAllBlank rest := by
    rw [Bool.eq_iff_iff, List.isEmpty_iff, Text.trimChars_eq_nil, Text.isAllBlank, List.all_eq_true]
  unfold jobOf?
  rw [if_pos (List.isPrefixOf_iff_prefix.mpr (by simp)), hdrop]
  simp only [hempty]
  rfl

theorem jobOf?_eq_some {line id : String} : jobOf? line = some id ↔ Names line id := by
  constructor
  · intro hjob
    have hbegins : marker.toList.isPrefixOf line.toList = true := by
      by_contra hother
      simp [jobOf?, hother] at hjob
    obtain ⟨rest, hrest⟩ := List.isPrefixOf_iff_prefix.mp hbegins
    have hline : line = marker ++ String.ofList rest := by
      rw [← String.toList_inj, ← hrest, String.toList_append, String.toList_ofList]
    rw [hline, jobOf?_marker] at hjob
    split at hjob
    · simp at hjob
    next hword =>
      exact ⟨_, hline, Bool.eq_false_iff.mpr hword, (Option.some.inj hjob).symm⟩
  · rintro ⟨rest, rfl, hword, rfl⟩
    exact (jobOf?_marker rest).trans (by rw [hword]; rfl)

theorem jobId_eq_findSome? (lines : List String) :
    (lines.foldl feed start).jobId = lines.reverse.findSome? jobOf? := by
  induction lines using List.reverseRecOn with
  | nil => rfl
  | append_singleton lines line ih =>
      rw [List.foldl_concat, List.reverse_concat, List.findSome?_cons, ← ih, feed]
      cases jobOf? line with
      | none => rfl
      | some id => rfl

theorem jobId_eq_some_iff {lines : List String} {id : String} :
    (lines.foldl feed start).jobId = some id ↔ LastNames lines id := by
  rw [jobId_eq_findSome?, List.findSome?_eq_some_iff]
  constructor
  · rintro ⟨after, line, before, hlines, hnames, hsilent⟩
    refine ⟨before.reverse, line, after.reverse, ?_, jobOf?_eq_some.mp hnames, ?_⟩
    · rw [← List.reverse_reverse lines, hlines]
      simp
    · intro later hmem other hother
      have hnone := hsilent later (List.mem_reverse.mp hmem)
      simp [jobOf?_eq_some.mpr hother] at hnone
  · rintro ⟨before, line, after, rfl, hnames, hsilent⟩
    refine ⟨after.reverse, line, before.reverse, by simp, jobOf?_eq_some.mpr hnames, ?_⟩
    intro later hmem
    rw [Option.eq_none_iff_forall_ne_some]
    intro other hother
    exact hsilent later (List.mem_reverse.mp hmem) other (jobOf?_eq_some.mp hother)

theorem jobId_eq_none_iff {lines : List String} :
    (lines.foldl feed start).jobId = none ↔ ∀ line ∈ lines, ∀ id, ¬ Names line id := by
  rw [jobId_eq_findSome?, List.findSome?_eq_none_iff]
  simp only [List.mem_reverse, Option.eq_none_iff_forall_ne_some, ne_eq, jobOf?_eq_some]

end Output.Submission

theorem IsJobName.toList_eq {id : String} (hid : IsJobName id) :
    Text.trimChars id.toList = id.toList := by
  rw [← String.toList_ofList (l := Text.trimChars id.toList)]
  exact congrArg String.toList hid.trim_eq

/-- Among the arguments of a command about a job, its name is found as it is. -/
theorem Command.valueOf?_jobId {base : Command} (hnone : base.valueOf? "wuid" = none)
    (id action : String) : (base.withArgs ["wuid=" ++ id, action]).valueOf? "wuid" = some id := by
  have hspelled : argValue? "wuid" ("wuid=" ++ id) = some id :=
    (argValue?_spell .jobId .jobId id).trans (if_pos rfl)
  unfold valueOf? at hnone
  rw [valueOf?, withArgs, List.findSome?_append, hnone, Option.none_or, List.findSome?_cons,
    hspelled]

/-- Is the failure of a kind that a run of a job can come to by itself? -/
def Failure.isOwn : Failure → Bool
  | .processAbort _ | .interrupted | .timeoutExceeded | .remoteJobFailure _ | .missingJobId
  | .poolShutDown | .taskLost => true
  | _ => false

theorem Failure.ne_of_isOwn {f g : Failure} (hother : f.isOwn = false) (hown : g.isOwn = true) :
    g ≠ f := by
  rintro rfl
  simp [hown] at hother

namespace Monitor

variable {σ : Type} {f : Failure}

/-- What a run concludes from a failure of its poll that is none of its own. -/
theorem concluded_handed_of_not_isOwn (hother : f.isOwn = false) (jobId : String) :
    concluded jobId (handed (.error (.failed f))) = .failed f := by
  cases f <;> first | rfl | simp [Failure.isOwn] at hother

theorem concluded_handed_eq_failed (hother : f.isOwn = false) {jobId : String}
    {result : Except Break Job.Status} :
    concluded jobId (handed result) = .failed f ↔ result = .error (.failed f) := by
  constructor
  · intro hfailed
    cases result with
    | ok status =>
        have hown : ∀ id, Failure.remoteJobFailure id ≠ f := fun _ => Failure.ne_of_isOwn hother rfl
        cases status <;> simp [handed, concluded, hown] at hfailed
    | error b =>
        cases b with
        | failed g => cases g <;> simp_all [handed, concluded, Failure.isAbort]
        | lost => exact absurd (Outcome.failed.inj hfailed) (Failure.ne_of_isOwn hother rfl)
        | abandoned => simp [handed, concluded] at hfailed
  · rintro rfl
    exact concluded_handed_of_not_isOwn hother jobId

theorem unfollowed_eq_failed (hother : f.isOwn = false) {ending : Option Ending} :
    unfollowed ending = .failed f ↔ ending = some (.failed f) := by
  constructor
  · intro hfailed
    unfold unfollowed at hfailed
    split at hfailed
    next => exact absurd (Outcome.failed.inj hfailed) (Failure.ne_of_isOwn hother rfl)
    next => simp at hfailed
    next => simp at hfailed
    next => rw [Outcome.failed.inj hfailed]
    next => exact absurd (Outcome.failed.inj hfailed) (Failure.ne_of_isOwn hother rfl)
    next => simp at hfailed
  · rintro rfl
    cases f <;> first | rfl | simp [Failure.isOwn] at hother

theorem outcome_of_not_isOwn (hother : f.isOwn = false) (n : Nat) :
    (Cause.query n (some (.failed f))).outcome = .failed f := by
  cases f <;> first | rfl | simp [Failure.isOwn] at hother

theorem ClosesBy.ending_of_failed {exchanges : Nat → Exchange} {jobId : String} {budget n : Nat}
    (hother : f.isOwn = false)
    (hrested : ∀ b, (exchanges n).rested = .error b → b = .failed .interrupted ∨ b = .abandoned)
    (hcloses :
      ClosesBy (fun e => e.result? jobId) exchanges budget n (.error (.failed f))) :
    ReachedBy (fun e => e.result? jobId) exchanges budget n ∧
      (exchanges n).answer.ending = some (.failed f) := by
  cases hcloses with
  | brought hreached hresult =>
      refine ⟨hreached, ?_⟩
      rcases Exchange.result?_eq_error.mp hresult with hbreak | ⟨-, hbroke⟩
      · exact Course.ending_of_break (fun _ => (Failure.ne_of_isOwn hother rfl).symm) hbreak
      · rcases hrested _ hbroke with hinterrupted | habandoned
        · have heq := Break.failed.inj hinterrupted
          exact absurd heq.symm (Failure.ne_of_isOwn hother rfl)
        · simp at habandoned
  | exhausted => simp [Failure.isOwn] at hother

theorem Reaches.submit_of_failed {m : Monitor σ} {jobId : String} {c : Command} {s : Station σ}
    {n : Nat} (hother : f.isOwn = false) (hreaches : m.Reaches jobId c s n)
    (hfailed : (m.statusExchanges jobId c s n).answer.ending = some (.failed f)) :
    (m.submit c s).value = .failed f := by
  have hended := EndedBy.query hreaches (by simp [hfailed])
  rw [(hended.submit hreaches.named).1, hfailed, outcome_of_not_isOwn hother]

/-- A failure that is none of its own comes to a run from its submission or from a status query. -/
theorem submit_eq_failed_iff (hother : f.isOwn = false) (m : Monitor σ) (c : Command)
    (s : Station σ) :
    (m.submit c s).value = .failed f ↔
      (m.submission c s).ending = some (.failed f) ∨
        ∃ jobId n, m.Reaches jobId c s n ∧
          (m.statusExchanges jobId c s n).answer.ending = some (.failed f) := by
  by_cases hfollows : ∃ jobId, m.Follows jobId c s
  · obtain ⟨jobId, hfollows⟩ := hfollows
    constructor
    · intro hfailed
      cases haccepting : s.accepting with
      | true =>
          obtain ⟨n, result, hcloses, hvalue, -⟩ := hfollows.submit_of_accepting haccepting
          rw [hfailed] at hvalue
          rw [(concluded_handed_eq_failed hother).mp hvalue.symm] at hcloses
          obtain ⟨hreached, hending⟩ := hcloses.ending_of_failed hother
            fun _ hbroke => m.exchanges_rested_error _ _ hbroke
          exact .inr ⟨jobId, n, ⟨hfollows, haccepting, hreached⟩, hending⟩
      | false =>
          rw [(hfollows.submit_of_not_accepting haccepting).1] at hfailed
          exact absurd (Outcome.failed.inj hfailed) (Failure.ne_of_isOwn hother rfl)
    · rintro (hfailed | ⟨other, n, hreaches, hfailed⟩)
      · simp [hfollows.exited] at hfailed
      · exact hreaches.submit_of_failed hother hfailed
  · rw [not_exists] at hfollows
    have hreaches : ∀ jobId n, ¬ m.Reaches jobId c s n :=
      fun jobId _ hreached => hfollows jobId hreached.toFollows
    rw [(submit_of_not_follows hfollows).1, unfollowed_eq_failed hother]
    simp [hreaches]

/-- The job of a submission is the one that the last line names that names any.  Its name is trimmed
and not blank, so whoever looks at it later finds it as it is: the readers of answers, the abort, and
the commands about the job, when there is no other name among their arguments.  A run fails because
of a blank name only if a command of its site does. -/
theorem submission_names_job (lines : List String) :
    let named := (lines.foldl Output.Submission.feed .start).jobId
    (named = none ↔ ∀ line ∈ lines, ∀ id, ¬ Output.Submission.Names line id) ∧
    (∀ id, named = some id ↔ Output.Submission.LastNames lines id) ∧
    (∀ id, named = some id →
      id ≠ "" ∧
      id.toList.head?.any Text.isBlank = false ∧
      id.toList.getLast?.any Text.isBlank = false ∧
      Output.Status.start? id = some ⟨id, .unknown, .notComplete⟩ ∧
      (∀ (m : Monitor σ) (s : Station σ),
        (m.abort (some id) s).did.commands = [m.base.abort id]) ∧
      ∀ base : Command, base.valueOf? "wuid" = none →
        base.status id = base.withArgs ["wuid=" ++ id, "action=status"] ∧
        (base.status id).valueOf? "wuid" = some id ∧
        base.abort id = base.withArgs ["wuid=" ++ id, "action=abort"] ∧
        (base.abort id).valueOf? "wuid" = some id) ∧
    ∀ (m : Monitor σ) (c : Command) (s : Station σ),
      (m.submit c s).value = .failed .blankJobId ↔
        (m.submission c s).ending = some (.failed .blankJobId) ∨
          ∃ jobId n, m.Reaches jobId c s n ∧
            (m.statusExchanges jobId c s n).answer.ending = some (.failed .blankJobId) := by
  intro named
  refine ⟨Output.Submission.jobId_eq_none_iff, fun _ => Output.Submission.jobId_eq_some_iff, ?_,
    submit_eq_failed_iff rfl⟩
  intro id hnamed
  have hid : IsJobName id :=
    Output.Submission.isJobName_of_foldl (by simp [Output.Submission.start]) hnamed
  refine ⟨?_, ?_, ?_, hid.start_eq, ?_, ?_⟩
  · rintro rfl
    exact absurd hid.ne_empty (by decide)
  · rw [← hid.toList_eq]
    exact Text.head?_trimChars _
  · rw [← hid.toList_eq]
    exact Text.getLast?_trimChars _
  · intro m s
    have hnames : ∀ other, some id = some other → IsJobName other :=
      fun _ heq => Option.some.inj heq ▸ hid
    rw [← Transcript.commands_deeds, m.abort_deeds s hnames]
    rfl
  · intro base hnone
    rw [hid.status_eq, hid.abort_eq]
    exact ⟨rfl, Command.valueOf?_jobId hnone id _, rfl, Command.valueOf?_jobId hnone id _⟩

theorem submission_names_job_blanks :
    let lines := ["Submitted WUID D1", "Submitted WUID \u2003D2 \r", "Submitted WUID \t"]
    let base : Command := (Command.bare ⟨"dfuplus"⟩).withArgs ["server=s"]
    (lines.foldl Output.Submission.feed .start).jobId = some "D2" ∧
    base.valueOf? "wuid" = none ∧
    Output.Submission.LastNames lines "D2" ∧
    (base.status "D2").valueOf? "wuid" = some "D2" := by
  intro lines base
  have hnamed : (lines.foldl Output.Submission.feed .start).jobId = some "D2" := by
    decide +kernel
  have hnone : base.valueOf? "wuid" = none := by decide +kernel
  obtain ⟨-, hlast, hkeeps, -⟩ := submission_names_job (σ := Rehearsal) lines
  obtain ⟨-, -, -, -, -, hcommands⟩ := hkeeps "D2" hnamed
  exact ⟨hnamed, hnone, (hlast "D2").mp hnamed, (hcommands base hnone).2.1⟩

end Monitor

end SprayWatch
