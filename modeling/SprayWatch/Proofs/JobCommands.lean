import SprayWatch.Proofs.JobRuns

/-!
# The commands of a job's run

A run does little but run commands and pause between them, and in a fixed order: the submission,
then status queries with one pause between any two of them, then an abort if the job was given up.
Nobody reads the output of an abort or looks at how it ended.
-/

namespace SprayWatch

/-- The site when commands that nobody can stop are run in another way. -/
def Site.withUndisturbed {σ : Type} (site : Site σ)
    (other : Command → Watch → σ → Course Ending × σ) : Site σ :=
  { site with
    run := fun c watch state =>
      if watch.stoppable then site.run c watch state else other c watch state }

namespace Monitor

variable {σ : Type}

/-! ## The deeds of a run -/

section Deeds

variable (m : Monitor σ) (c : Command) (s : Station σ)

theorem submit_deeds_of_named {id : String} (hnamed : (m.submission c s).jobId? = some id) :
    ∃ waits last,
      (m.submit c s).did.deeds =
        .ran c ::
          (Transcript.queries (m.base.status id) waits last ++
            if (m.submit c s).value.isGivenUp then [.ran (m.base.abort id)] else []) ∧
      ((m.submission c s).ending ≠ some (.exited .finished) → waits = [] ∧ last = false) := by
  by_cases hexited : (m.submission c s).ending = some (.exited .finished)
  · have hfollows : m.Follows id c s := ⟨hexited, hnamed⟩
    cases haccepting : s.accepting with
    | true =>
        obtain ⟨n, result, -, -, hdeeds⟩ := hfollows.submit_of_accepting haccepting
        obtain ⟨waits, last, hqueries⟩ := exists_queries_eq_deedsBy (m.base.status id)
        rw [hqueries] at hdeeds
        exact ⟨waits, last, hdeeds, fun hne => absurd hexited hne⟩
    | false =>
        obtain ⟨hvalue, hdeeds⟩ := hfollows.submit_of_not_accepting haccepting
        refine ⟨[], false, ?_, fun hne => absurd hexited hne⟩
        rw [hdeeds, hvalue]
        rfl
  · refine ⟨[], false, ?_, fun _ => ⟨rfl, rfl⟩⟩
    rw [(submit_of_not_follows fun _ hfollows => hexited hfollows.exited).2, hnamed]
    rfl

theorem submit_deeds_of_unnamed (hnamed : (m.submission c s).jobId? = none) :
    (m.submit c s).did.deeds = [.ran c] ∧ (m.submit c s).value ≠ .timedOut := by
  have hfollows : ∀ id, ¬ m.Follows id c s := by
    intro id hfollows
    have hsome := hfollows.named
    rw [hnamed] at hsome
    simp at hsome
  obtain ⟨hvalue, hdeeds⟩ := submit_of_not_follows hfollows
  constructor
  · rw [hdeeds, hnamed]
    simp [aborts]
  · rw [hvalue]
    unfold unfollowed
    split <;> simp

end Deeds

/-! ## The abort -/

section Undisturbed

variable (m : Monitor σ) (other : Command → Watch → σ → Course Ending × σ)

def withUndisturbed : Monitor σ := { m with site := m.site.withUndisturbed other }

@[simp] theorem withUndisturbed_base : (m.withUndisturbed other).base = m.base := rfl

theorem poll_withUndisturbed (deadline : Nat) (read : Output.Status) :
    (m.withUndisturbed other).poll deadline
        ((m.withUndisturbed other).attemptStatus deadline) read =
      m.poll deadline (m.attemptStatus deadline) read := by
  funext s
  refine pollFrom_eq_of_alike Eq ?_ ?_ rfl 0 0 s
  · rfl
  · rintro memory _ previous t rfl
    change (m.round deadline (m.attemptStatus deadline) memory previous t).Alike _
      (m.round deadline (m.attemptStatus deadline) memory previous t)
    refine ⟨?_, rfl, rfl⟩
    cases (m.round deadline (m.attemptStatus deadline) memory previous t).value with
    | ended result => exact .ended result
    | rested next wait => exact .rested wait rfl

theorem handOver_withUndisturbed (read : Output.Status) :
    (m.withUndisturbed other).handOver (m.withUndisturbed other).attemptStatus read =
      m.handOver m.attemptStatus read := by
  unfold handOver
  simp only [m.poll_withUndisturbed other]
  rfl

theorem follow_withUndisturbed (jobId : String) (s : Station σ) (hid : IsJobName jobId) :
    ((m.withUndisturbed other).follow (m.withUndisturbed other).attemptStatus jobId s).value =
        (m.follow m.attemptStatus jobId s).value ∧
      ((m.withUndisturbed other).follow (m.withUndisturbed other).attemptStatus
          jobId s).did.deeds =
        (m.follow m.attemptStatus jobId s).did.deeds := by
  have hvalue :
      ((m.withUndisturbed other).follow (m.withUndisturbed other).attemptStatus jobId s).value =
        (m.follow m.attemptStatus jobId s).value := by
    rw [follow_value _ _ _ _ hid, follow_value _ _ _ _ hid, m.handOver_withUndisturbed other]
  constructor
  · exact hvalue
  · rw [follow_deeds _ _ _ _ hid, follow_deeds _ _ _ _ hid, hvalue,
      m.handOver_withUndisturbed other, withUndisturbed_base]

theorem submit_withUndisturbed (c : Command) (s : Station σ) :
    ((m.withUndisturbed other).submit c s).value = (m.submit c s).value ∧
      ((m.withUndisturbed other).submit c s).did.deeds = (m.submit c s).did.deeds := by
  have hsubmission : (m.withUndisturbed other).submission c s = m.submission c s := rfl
  have hafter : (m.withUndisturbed other).afterSubmission c s = m.afterSubmission c s := rfl
  have hnames : ∀ id, (m.submission c s).jobId? = some id → IsJobName id :=
    fun id hnamed => Course.isJobName hnamed
  simp only [submit, submitBy_value, submitBy_deeds, hsubmission, hafter]
  generalize (m.submission c s).jobId? = named at hnames ⊢
  generalize (m.submission c s).submitted = submitted
  by_cases hended : submitted = .ok .finished
  · subst hended
    cases named with
    | none => exact ⟨rfl, rfl⟩
    | some id =>
        obtain ⟨hvalue, hdeeds⟩ :=
          m.follow_withUndisturbed other id (m.afterSubmission c s) (hnames id rfl)
        exact ⟨hvalue, congrArg (.ran c :: ·) hdeeds⟩
  · have hvalue :
        ((m.withUndisturbed other).proceed (m.withUndisturbed other).attemptStatus named
          submitted (m.afterSubmission c s)).value =
        (m.proceed m.attemptStatus named submitted (m.afterSubmission c s)).value := by
      simp only [proceed_value]
      cases submitted with
      | ok o =>
          cases o with
          | finished => exact absurd rfl hended
          | watchdogKilled => simp [RunOutcome.isAbort]
          | nonZeroExit code => simp [RunOutcome.isAbort]
      | error f => cases f <;> simp
    constructor
    · exact hvalue
    · rw [proceed_deeds_of_ne_finished _ _ _ _ hnames hended,
        proceed_deeds_of_ne_finished _ _ _ _ hnames hended, hvalue, withUndisturbed_base]

end Undisturbed

/-- A run is its submission, then status queries with one completed pause between any two of them,
then an abort exactly if the run is given up with a job that its submission named.  There are no
queries unless the submission succeeded, and nothing depends on how an abort goes. -/
theorem submit_commands_in_order (m : Monitor σ) (c : Command) (s : Station σ) :
    ((m.submission c s).jobId? = none →
      (m.submit c s).did.deeds = [.ran c] ∧ (m.submit c s).value ≠ .timedOut) ∧
    (∀ id, (m.submission c s).jobId? = some id →
      ∃ waits last,
        (m.submit c s).did.deeds =
          .ran c ::
            (Transcript.queries (m.base.withArgs ["wuid=" ++ id, "action=status"]) waits last ++
              if (m.submit c s).value.isGivenUp then
                [.ran (m.base.withArgs ["wuid=" ++ id, "action=abort"])]
              else []) ∧
        (m.submit c s).did.commands =
          c ::
            (List.replicate (waits.length + last.toNat)
                (m.base.withArgs ["wuid=" ++ id, "action=status"]) ++
              if (m.submit c s).value = .timedOut ∨ (m.submit c s).value = .aborted then
                [m.base.withArgs ["wuid=" ++ id, "action=abort"]]
              else []) ∧
        ((m.submission c s).ending ≠ some (.exited .finished) → waits = [] ∧ last = false)) ∧
    ∀ other,
      ((m.withUndisturbed other).submit c s).value = (m.submit c s).value ∧
        ((m.withUndisturbed other).submit c s).did.deeds = (m.submit c s).did.deeds := by
  refine ⟨m.submit_deeds_of_unnamed c s, ?_, fun other => m.submit_withUndisturbed other c s⟩
  intro id hnamed
  have hid : IsJobName id := Course.isJobName hnamed
  obtain ⟨waits, last, hdeeds, hqueries⟩ := m.submit_deeds_of_named c s hnamed
  rw [hid.status_eq, hid.abort_eq] at hdeeds
  refine ⟨waits, last, hdeeds, ?_, hqueries⟩
  rw [← Transcript.commands_deeds, hdeeds, ← Transcript.commands_queries]
  simp only [← Outcome.isGivenUp_iff]
  cases (m.submit c s).value.isGivenUp <;> simp [Transcript.commands]

end Monitor

end SprayWatch
