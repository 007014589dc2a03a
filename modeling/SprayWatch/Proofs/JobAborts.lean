import SprayWatch.Proofs.JobOutcomes

/-!
# Which jobs are aborted

A run can end before an end of its job is told.  The job is then aborted if the run was stopped, if
time ran out, or if a command for it exited without success.  It is left alone on the cluster if a
command could not be run for another reason, or if there was no worker to follow it.
-/

namespace SprayWatch.Monitor

variable {σ : Type}

/-- What can end a run before an end of the job is told: the submission exits without success, or
fails; there is no worker; a status query ends without success, or is not waited for any longer; the
pause after a query is interrupted, or not waited for any longer, or uses up the budget. -/
inductive Cause where
  | submissionExited (o : RunOutcome)
  | submissionFailed (f : Failure)
  | noWorker
  | query (n : Nat) (ending : Option Ending)
  | interrupted (n : Nat)
  | abandoned (n : Nat)
  | exhausted (n : Nat)

namespace Cause

def queries : Cause → Nat
  | .submissionExited _ | .submissionFailed _ | .noWorker => 0
  | .query n _ | .interrupted n | .abandoned n | .exhausted n => n + 1

/-- Is the job aborted? -/
def callsOff : Cause → Bool
  | .submissionExited _ => true
  | .submissionFailed f => f == .interrupted
  | .noWorker => false
  | .query _ (some (.exited _)) => true
  | .query _ (some (.failed f)) => f.isAbort || f == .timeoutExceeded
  | .query _ (some .brokeDown) => false
  | .query _ none => true
  | .interrupted _ | .abandoned _ | .exhausted _ => true

def outcome : Cause → Outcome
  | .submissionExited _ => .aborted
  | .submissionFailed .interrupted => .aborted
  | .submissionFailed f => .failed f
  | .noWorker => .failed .poolShutDown
  | .query _ (some (.exited _)) => .aborted
  | .query _ (some (.failed .interrupted)) => .aborted
  | .query _ (some (.failed (.processAbort _))) => .aborted
  | .query _ (some (.failed .timeoutExceeded)) => .timedOut
  | .query _ (some (.failed f)) => .failed f
  | .query _ (some .brokeDown) => .failed .taskLost
  | .query _ none => .timedOut
  | .interrupted _ => .aborted
  | .abandoned _ | .exhausted _ => .timedOut

theorem isGivenUp_outcome (cause : Cause) : cause.outcome.isGivenUp = cause.callsOff := by
  cases cause with
  | submissionFailed f => cases f <;> rfl
  | query n ending =>
      cases ending with
      | none => rfl
      | some ending =>
          cases ending with
          | failed f => cases f <;> rfl
          | _ => rfl
  | _ => rfl

end Cause

/-- A run comes to its status query number `n`. -/
structure Reaches (m : Monitor σ) (jobId : String) (c : Command) (s : Station σ) (n : Nat) :
    Prop extends m.Follows jobId c s where
  accepting : s.accepting = true
  reached : ReachedBy (fun e => e.result? jobId) (m.statusExchanges jobId c s) m.budget n

/-- No status query of a run that exits with success tells an end of the job. -/
def Silent (m : Monitor σ) (jobId : String) (c : Command) (s : Station σ) : Prop :=
  ∀ n, m.Reaches jobId c s n →
    (m.statusExchanges jobId c s n).answer.ending = some (.exited .finished) →
    (m.statusExchanges jobId c s n).answer.state? jobId ∈
      [none, some Job.State.scheduled, some .queued, some .started]

/-- The run of a job is ended by a cause. -/
inductive EndedBy (m : Monitor σ) (jobId : String) (c : Command) (s : Station σ) :
    Cause → Prop where
  | submissionExited {o : RunOutcome} (hexited : (m.submission c s).ending = some (.exited o))
      (hfailed : o ≠ .finished) : EndedBy m jobId c s (.submissionExited o)
  | submissionFailed {f : Failure} (hfailed : (m.submission c s).ending = some (.failed f)) :
      EndedBy m jobId c s (.submissionFailed f)
  | noWorker (hfollows : m.Follows jobId c s) (haccepting : s.accepting = false) :
      EndedBy m jobId c s .noWorker
  | query {n : Nat} (hreaches : m.Reaches jobId c s n)
      (hfailed :
        (m.statusExchanges jobId c s n).answer.ending ≠ some (.exited .finished)) :
      EndedBy m jobId c s (.query n (m.statusExchanges jobId c s n).answer.ending)
  | interrupted {n : Nat} (hreaches : m.Reaches jobId c s n)
      (hgoesOn : (m.statusExchanges jobId c s n).answer.GoesOn jobId)
      (hbroke : (m.statusExchanges jobId c s n).rested = .error (.failed .interrupted)) :
      EndedBy m jobId c s (.interrupted n)
  | abandoned {n : Nat} (hreaches : m.Reaches jobId c s n)
      (hgoesOn : (m.statusExchanges jobId c s n).answer.GoesOn jobId)
      (hbroke : (m.statusExchanges jobId c s n).rested = .error .abandoned) :
      EndedBy m jobId c s (.abandoned n)
  | exhausted {n : Nat} (hreaches : m.Reaches jobId c s n)
      (hgoesOn : (m.statusExchanges jobId c s n).answer.GoesOn jobId)
      (hrested : (m.statusExchanges jobId c s n).rested = .ok ())
      (hspent : m.budget ≤ spent (m.statusExchanges jobId c s) (n + 1)) :
      EndedBy m jobId c s (.exhausted n)

theorem exists_break_of_ending {answer : Course Ending}
    (hfailed : answer.ending ≠ some (.exited .finished)) (jobId : String) (n : Nat) :
    ∃ b, answer.break? = some b ∧
      concluded jobId (handed (.error b)) = (Cause.query n answer.ending).outcome := by
  unfold Course.break?
  cases hending : answer.ending with
  | none => exact ⟨.abandoned, rfl, rfl⟩
  | some ending =>
      cases ending with
      | exited o =>
          cases o with
          | finished => exact absurd hending hfailed
          | watchdogKilled => exact ⟨_, rfl, rfl⟩
          | nonZeroExit code => exact ⟨_, rfl, rfl⟩
      | failed f => exact ⟨.failed f, rfl, by cases f <;> rfl⟩
      | brokeDown => exact ⟨.lost, rfl, rfl⟩

section Causes

variable {m : Monitor σ} {jobId : String} {c : Command} {s : Station σ} {cause : Cause}

theorem Reaches.submit {n : Nat} {result : Except Break Job.Status}
    (hreaches : m.Reaches jobId c s n)
    (hcloses :
      ClosesBy (fun e => e.result? jobId) (m.statusExchanges jobId c s) m.budget n result)
    (hqueries : cause.queries = n + 1)
    (houtcome : concluded jobId (handed result) = cause.outcome) :
    (m.submit c s).value = cause.outcome ∧
      (m.submit c s).did.commands =
        c :: (List.replicate cause.queries (m.base.status jobId) ++
          if cause.callsOff then [m.base.abort jobId] else []) := by
  obtain ⟨hvalue, hdeeds⟩ :=
    hreaches.toFollows.submit_of_closesBy hreaches.accepting hcloses
  rw [houtcome] at hvalue
  constructor
  · exact hvalue
  · rw [hvalue, Cause.isGivenUp_outcome] at hdeeds
    rw [← Transcript.commands_deeds, hdeeds, hqueries, Transcript.commands_ran,
      Transcript.commands_append, commands_deedsBy]
    cases cause.callsOff <;> rfl

theorem submit_of_unsuccessful (hnamed : (m.submission c s).jobId? = some jobId)
    (hfailed : (m.submission c s).ending ≠ some (.exited .finished))
    (houtcome : unfollowed (m.submission c s).ending = cause.outcome) :
    (m.submit c s).value = cause.outcome ∧
      (m.submit c s).did.commands =
        c :: if cause.callsOff then [m.base.abort jobId] else [] := by
  obtain ⟨hvalue, hdeeds⟩ := submit_of_not_follows fun _ hfollows => hfailed hfollows.exited
  rw [houtcome] at hvalue
  constructor
  · exact hvalue
  · rw [hvalue, Cause.isGivenUp_outcome, hnamed] at hdeeds
    rw [← Transcript.commands_deeds, hdeeds]
    cases cause.callsOff <;> rfl

theorem EndedBy.submit (hended : m.EndedBy jobId c s cause)
    (hnamed : (m.submission c s).jobId? = some jobId) :
    (m.submit c s).value = cause.outcome ∧
      (m.submit c s).did.commands =
        c :: (List.replicate cause.queries (m.base.status jobId) ++
          if cause.callsOff then [m.base.abort jobId] else []) := by
  cases hended with
  | @submissionExited o hexited hfailed =>
      apply submit_of_unsuccessful hnamed (by simp [hexited, hfailed])
      rw [hexited]
      cases o with
      | finished => exact absurd rfl hfailed
      | watchdogKilled => rfl
      | nonZeroExit code => rfl
  | @submissionFailed f hfailed =>
      apply submit_of_unsuccessful hnamed (by simp [hfailed])
      rw [hfailed]
      cases f <;> rfl
  | noWorker hfollows haccepting =>
      obtain ⟨hvalue, hdeeds⟩ := hfollows.submit_of_not_accepting haccepting
      constructor
      · exact hvalue
      · rw [← Transcript.commands_deeds, hdeeds]
        rfl
  | @query n hreaches hfailed =>
      obtain ⟨b, hbreak, houtcome⟩ := exists_break_of_ending hfailed jobId n
      have hbrought : (m.statusExchanges jobId c s n).result? jobId = _ :=
        Exchange.result?_eq_error.mpr (.inl hbreak)
      exact hreaches.submit (.brought hreaches.reached hbrought) rfl houtcome
  | interrupted hreaches hgoesOn hbroke =>
      have hbrought := Exchange.result?_eq_error.mpr (.inr ⟨hgoesOn, hbroke⟩)
      exact hreaches.submit (.brought hreaches.reached hbrought) rfl rfl
  | abandoned hreaches hgoesOn hbroke =>
      have hbrought := Exchange.result?_eq_error.mpr (.inr ⟨hgoesOn, hbroke⟩)
      exact hreaches.submit (.brought hreaches.reached hbrought) rfl rfl
  | exhausted hreaches hgoesOn hrested hspent =>
      have hpending := Exchange.result?_eq_none.mpr ⟨hgoesOn, hrested⟩
      exact hreaches.submit (.exhausted hreaches.reached hpending hspent) rfl rfl

theorem ClosesBy.exists_endedBy {n : Nat} {result : Except Break Job.Status}
    (hcloses :
      ClosesBy (fun e => e.result? jobId) (m.statusExchanges jobId c s) m.budget n result)
    (hreaches : m.Reaches jobId c s n) (hsilent : m.Silent jobId c s) :
    ∃ cause, m.EndedBy jobId c s cause := by
  cases hcloses with
  | @brought result _ hresult =>
      cases result with
      | ok status =>
          obtain ⟨hexited, hstatus, hterminal⟩ := Exchange.result?_eq_ok.mp hresult
          rw [Course.status_eq_notComplete.mpr (hsilent n hreaches hexited)] at hstatus
          simp [← hstatus, Job.Status.isTerminal] at hterminal
      | error b =>
          rcases Exchange.result?_eq_error.mp hresult with hbreak | ⟨hgoesOn, hbroke⟩
          · refine ⟨_, .query hreaches fun hexited => ?_⟩
            simp [Course.break?_eq_none.mpr hexited] at hbreak
          · rcases m.exchanges_rested_error _ _ hbroke with rfl | rfl
            · exact ⟨_, .interrupted hreaches hgoesOn hbroke⟩
            · exact ⟨_, .abandoned hreaches hgoesOn hbroke⟩
  | exhausted _ hpending hspent =>
      obtain ⟨hgoesOn, hrested⟩ := Exchange.result?_eq_none.mp hpending
      exact ⟨_, .exhausted hreaches hgoesOn hrested hspent⟩

/-- When no answer tells an end of the job, there is a cause that ends its run. -/
theorem exists_endedBy (hnamed : (m.submission c s).jobId? = some jobId)
    (hended : (m.submission c s).ending ≠ none)
    (hthere : (m.submission c s).ending ≠ some .brokeDown)
    (hsilent : m.Silent jobId c s) :
    ∃ cause, m.EndedBy jobId c s cause := by
  cases hending : (m.submission c s).ending with
  | none => exact absurd hending hended
  | some ending =>
      cases ending with
      | brokeDown => exact absurd hending hthere
      | failed f => exact ⟨_, .submissionFailed hending⟩
      | exited o =>
          by_cases hfailed : o = .finished
          · subst hfailed
            have hfollows : m.Follows jobId c s := ⟨hending, hnamed⟩
            cases haccepting : s.accepting with
            | false => exact ⟨_, .noWorker hfollows haccepting⟩
            | true =>
                obtain ⟨n, result, hcloses, -, -⟩ := hfollows.submit_of_accepting haccepting
                have hreaches : m.Reaches jobId c s n :=
                  ⟨hfollows, haccepting, hcloses.reached⟩
                exact hcloses.exists_endedBy hreaches hsilent
          · exact ⟨_, .submissionExited hending hfailed⟩

end Causes

/-! ## Rehearsed causes -/

/-- A rehearsal where a job is submitted and every status query ends in a certain way. -/
def rehearsed (ending : Ending) : Station Rehearsal :=
  .start
    (.start
      [("spray", [⟨false, ["Submitted WUID D1"], false, .exited .finished⟩]),
        ("status", [⟨false, [], false, ending⟩])]
      .empty)
    ⟨[]⟩

def failing : Station Rehearsal := rehearsed (.failed (.io (.other "disk")))

def killed : Station Rehearsal := rehearsed (.exited .watchdogKilled)

theorem Reaches.eq_zero {m : Monitor σ} {jobId : String} {c : Command} {s : Station σ} {n : Nat}
    (hreaches : m.Reaches jobId c s n)
    (hfailed : (m.statusExchanges jobId c s 0).answer.ending ≠ some (.exited .finished)) :
    n = 0 := by
  apply Nat.eq_zero_of_not_pos
  intro hpos
  exact hfailed (Exchange.result?_eq_none.mp (hreaches.reached 0 hpos).1).1.exited

/-- A job whose status cannot be asked for is not aborted: the query fails for a reason that is
neither the signal nor a timeout, no end of the job is ever told, and the run ends with the failure
of the query. -/
theorem failing_job_not_aborted :
    (rehearsing.submission recited failing).jobId? = some "D1" ∧
      (∀ n, rehearsing.Reaches "D1" recited failing n →
        (rehearsing.statusExchanges "D1" recited failing n).answer.state? "D1" = none) ∧
      (rehearsing.submit recited failing).value = .failed (.io (.other "disk")) ∧
      (rehearsing.submit recited failing).did.commands =
        [recited, rehearsing.base.withArgs ["wuid=D1", "action=status"]] := by
  have hnamed : (rehearsing.submission recited failing).jobId? = some "D1" := by
    decide +kernel
  have hanswer : (rehearsing.statusExchanges "D1" recited failing 0).answer =
      ⟨[], some (.failed (.io (.other "disk")))⟩ := by
    decide +kernel
  have hfailed : (rehearsing.statusExchanges "D1" recited failing 0).answer.ending ≠
      some (.exited .finished) := by
    simp [hanswer]
  have hreaches : rehearsing.Reaches "D1" recited failing 0 :=
    ⟨⟨by decide +kernel, hnamed⟩, rfl, fun k hk => absurd hk (Nat.not_lt_zero k)⟩
  obtain ⟨hvalue, hcommands⟩ := (EndedBy.query hreaches hfailed).submit hnamed
  rw [hanswer] at hvalue hcommands
  refine ⟨hnamed, fun n hn => ?_, hvalue, ?_⟩
  · rw [hn.eq_zero hfailed, hanswer]
    rfl
  · rw [hcommands, hreaches.isJobName.status_eq]
    rfl

/-- A run whose submission has named a job, and in which no answer tells an end of it, is ended by a
cause, and the cause decides how many status queries there are, whether the job is aborted, which
happens once then, and what the run comes to. -/
theorem submit_aborts_by_cause (m : Monitor σ) (jobId : String) (c : Command) (s : Station σ)
    (hnamed : (m.submission c s).jobId? = some jobId)
    (hended : (m.submission c s).ending ≠ none)
    (hthere : (m.submission c s).ending ≠ some .brokeDown)
    (hsilent : m.Silent jobId c s) :
    (∃ cause, m.EndedBy jobId c s cause) ∧
    ∀ cause, m.EndedBy jobId c s cause →
      (m.submit c s).value = cause.outcome ∧
      (m.submit c s).did.commands =
        c ::
          (List.replicate cause.queries
              (m.base.withArgs ["wuid=" ++ jobId, "action=status"]) ++
            if cause.callsOff then [m.base.withArgs ["wuid=" ++ jobId, "action=abort"]]
            else []) := by
  have hid : IsJobName jobId := Course.isJobName hnamed
  refine ⟨exists_endedBy hnamed hended hthere hsilent, fun cause hcause => ?_⟩
  rw [← hid.status_eq, ← hid.abort_eq]
  exact hcause.submit hnamed

theorem killed_job_aborted :
    ((rehearsing.submission recited killed).jobId? = some "D1" ∧
      (rehearsing.submission recited killed).ending ≠ none ∧
      (rehearsing.submission recited killed).ending ≠ some .brokeDown ∧
      rehearsing.Silent "D1" recited killed) ∧
    (rehearsing.submit recited killed).value = .aborted ∧
    (rehearsing.submit recited killed).did.commands =
      [recited, rehearsing.base.withArgs ["wuid=D1", "action=status"],
        rehearsing.base.withArgs ["wuid=D1", "action=abort"]] := by
  have hnamed : (rehearsing.submission recited killed).jobId? = some "D1" := by
    decide +kernel
  have hended : (rehearsing.submission recited killed).ending = some (.exited .finished) := by
    decide +kernel
  have hthere : (rehearsing.submission recited killed).ending ≠ some .brokeDown := by
    simp [hended]
  have hanswer : (rehearsing.statusExchanges "D1" recited killed 0).answer =
      ⟨[], some (.exited .watchdogKilled)⟩ := by
    decide +kernel
  have hfailed : (rehearsing.statusExchanges "D1" recited killed 0).answer.ending ≠
      some (.exited .finished) := by
    simp [hanswer]
  have hsilent : rehearsing.Silent "D1" recited killed := by
    intro n hn hexited
    rw [hn.eq_zero hfailed] at hexited
    exact absurd hexited hfailed
  have hreaches : rehearsing.Reaches "D1" recited killed 0 :=
    ⟨⟨hended, hnamed⟩, rfl, fun k hk => absurd hk (Nat.not_lt_zero k)⟩
  obtain ⟨-, hcauses⟩ := submit_aborts_by_cause rehearsing "D1" recited killed hnamed
    (by simp [hended]) hthere hsilent
  obtain ⟨hvalue, hcommands⟩ := hcauses _ (.query hreaches hfailed)
  rw [hanswer] at hvalue hcommands
  exact ⟨⟨hnamed, by simp [hended], hthere, hsilent⟩, hvalue, hcommands⟩

end SprayWatch.Monitor
