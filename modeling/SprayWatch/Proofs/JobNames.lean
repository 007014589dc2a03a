import SprayWatch.Command
import SprayWatch.Output.Status
import SprayWatch.Output.Submission
import SprayWatch.Proofs.Trimming

/-!
# Names of jobs

The name that a submission gives to its job is trimmed and not blank.  Those who use it later trim
it again, and refuse blank names; to a name that comes from a submission this makes no difference,
so the job that is asked about and aborted is the one that was named.
-/

namespace SprayWatch

/-- A text that may name a job: it is trimmed, and there is something in it. -/
structure IsJobName (id : String) : Prop where
  trim_eq : Text.trim id = id
  ne_empty : id.isEmpty = false

namespace IsJobName

variable {id : String}

/-- A name that is not blank is fit for it once it has been trimmed. -/
theorem trim {name : String} (hname : Text.isAllBlank name = false) : IsJobName (Text.trim name) :=
  ⟨Text.trim_trim name, (Text.trim_isEmpty name).trans hname⟩

theorem not_isAllBlank (hid : IsJobName id) : Text.isAllBlank id = false := by
  rw [← Text.trim_isEmpty, hid.trim_eq]
  exact hid.ne_empty

theorem start_eq (hid : IsJobName id) :
    Output.Status.start? id = some ⟨id, .unknown, .notComplete⟩ := by
  simp [Output.Status.start?, hid.trim_eq, hid.ne_empty]

theorem status_eq (hid : IsJobName id) (base : Command) :
    base.status id = base.withArgs ["wuid=" ++ id, "action=status"] := by
  simp [Command.status, Command.query, Command.arg, Command.withArgs, hid.not_isAllBlank]

theorem abort_eq (hid : IsJobName id) (base : Command) :
    base.abort id = base.withArgs ["wuid=" ++ id, "action=abort"] := by
  simp [Command.abort, Command.query, Command.arg, Command.withArgs, hid.not_isAllBlank]

end IsJobName

namespace Output.Submission

theorem isJobName_of_jobOf? {line id : String} (hjob : jobOf? line = some id) :
    IsJobName id := by
  unfold jobOf? at hjob
  split at hjob
  next =>
    simp only at hjob
    split at hjob
    next => simp at hjob
    next hnonempty =>
      simp only [Option.some.injEq] at hjob
      subst hjob
      constructor
      · simp [Text.trim, Text.trimChars_idem]
      · simpa using hnonempty
  next => simp at hjob

theorem isJobName_of_foldl {lines : List String} {start : Submission} {id : String}
    (hstart : ∀ named, start.jobId = some named → IsJobName named)
    (hnamed : (lines.foldl feed start).jobId = some id) : IsJobName id := by
  induction lines generalizing start with
  | nil => exact hstart id hnamed
  | cons line lines ih =>
      have hfed : ∀ named, (start.feed line).jobId = some named → IsJobName named := by
        intro named hjobId
        unfold feed at hjobId
        split at hjobId
        next hjob =>
          simp only [Option.some.injEq] at hjobId
          exact isJobName_of_jobOf? (hjobId ▸ hjob)
        next => exact hstart named hjobId
      exact ih hfed hnamed

end Output.Submission

end SprayWatch
