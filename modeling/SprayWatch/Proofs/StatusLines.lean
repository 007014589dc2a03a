import SprayWatch.Output.Status

/-!
# Reading status lines

Of the output of a status query only the last line counts that tells a state of the job.  What was
read before matters to those who read on only by the status that it left.
-/

namespace SprayWatch.Output.Status

/-- The state that the last line tells of those that tell one of the job. -/
def lastState? (jobId : String) (lines : List String) : Option Job.State :=
  (lines.filterMap (classify jobId)).getLast?

theorem lastState?_cons (jobId line : String) (lines : List String) :
    lastState? jobId (line :: lines) = (lastState? jobId lines).or (classify jobId line) := by
  unfold lastState?
  cases hline : classify jobId line with
  | none => simp [hline]
  | some state =>
      rw [List.filterMap_cons_some hline, List.getLast?_cons]
      cases (lines.filterMap (classify jobId)).getLast? with
      | none => rfl
      | some last => rfl

theorem feed_of_classify_some {read : Status} {line : String} {state : Job.State}
    (hline : classify read.jobId line = some state) :
    read.feed line = ⟨read.jobId, state, state.status⟩ := by
  simp [feed, hline]

theorem feed_of_classify_none {read : Status} {line : String}
    (hline : classify read.jobId line = none) : read.feed line = read := by
  simp [feed, hline]

@[simp] theorem feed_jobId (read : Status) (line : String) :
    (read.feed line).jobId = read.jobId := by
  unfold feed
  split <;> rfl

theorem foldl_feed (read : Status) (lines : List String) :
    lines.foldl feed read =
      match lastState? read.jobId lines with
      | some state => ⟨read.jobId, state, state.status⟩
      | none => read := by
  induction lines generalizing read with
  | nil => rfl
  | cons line lines ih =>
      rw [List.foldl_cons, ih, feed_jobId, lastState?_cons]
      cases lastState? read.jobId lines with
      | some last => rfl
      | none =>
          cases hline : classify read.jobId line with
          | none => simp [feed_of_classify_none hline]
          | some state => simp [feed_of_classify_some hline]

/-- Do two readers know the same of the job, as far as it matters to what follows? -/
structure Alike (read other : Status) : Prop where
  jobId_eq : read.jobId = other.jobId
  status_eq : read.status = other.status

namespace Alike

variable {read other : Status}

theorem feed (halike : Alike read other) (line : String) :
    Alike (read.feed line) (other.feed line) := by
  cases hline : classify read.jobId line with
  | none =>
      rw [feed_of_classify_none hline, feed_of_classify_none (halike.jobId_eq ▸ hline)]
      exact halike
  | some state =>
      rw [feed_of_classify_some hline, feed_of_classify_some (halike.jobId_eq ▸ hline)]
      exact ⟨halike.jobId_eq, rfl⟩

theorem records_eq (halike : Alike read other) (line : String) :
    read.records line = other.records line := by
  obtain ⟨hjobId, hstatus⟩ := halike
  cases hline : classify read.jobId line with
  | none =>
      have hother : classify other.jobId line = none := hjobId ▸ hline
      simp [records, feed_of_classify_none hline, feed_of_classify_none hother]
  | some state =>
      have hother : classify other.jobId line = some state := hjobId ▸ hline
      simp [records, feed_of_classify_some hline, feed_of_classify_some hother, hjobId, hstatus]

theorem foldl_feed (halike : Alike read other) (lines : List String) :
    Alike (lines.foldl Status.feed read) (lines.foldl Status.feed other) := by
  induction lines generalizing read other with
  | nil => exact halike
  | cons line lines ih => exact ih (halike.feed line)

end Alike

end SprayWatch.Output.Status
