import SprayWatch.Proofs.JobNames
import SprayWatch.Proofs.QueryPolls

/-!
# Runs of jobs

A run is a submission, a poll for the status and what is concluded from it.  This file says of each
of these steps what it gives and which deeds it leaves, so that a run can be read off from what the
site answers.  The first result on whole runs is the order of their commands: the submission, then
status queries with pauses in between, then an abort if the job was given up.
-/

namespace SprayWatch

def Course.jobId? (course : Course Ending) : Option String :=
  (course.lines.foldl Output.Submission.feed .start).jobId

theorem Course.isJobName {course : Course Ending} {id : String}
    (hnamed : course.jobId? = some id) : IsJobName id :=
  Output.Submission.isJobName_of_foldl (by simp [Output.Submission.start]) hnamed

/-- How a course ended for one who runs the command himself and waits for its end. -/
def Course.submitted (course : Course Ending) : Except Failure RunOutcome :=
  (Ending.outcome? course.ending).mapError Break.failure

theorem Course.submitted_eq_finished {course : Course Ending} :
    course.submitted = .ok .finished ↔ course.ending = some (.exited .finished) := by
  unfold Course.submitted
  cases course.ending with
  | none => simp [Ending.outcome?, Except.mapError]
  | some ending => cases ending <;> simp [Ending.outcome?, Except.mapError]

/-- Was the job given up, so that the cluster is to abort it? -/
def Outcome.isGivenUp : Outcome → Bool
  | .timedOut | .aborted => true
  | _ => false

theorem Outcome.isGivenUp_iff {o : Outcome} :
    o.isGivenUp = true ↔ o = .timedOut ∨ o = .aborted := by
  cases o <;> simp [isGivenUp]

namespace Monitor

variable {σ : Type}

/-! ## Aborts -/

def aborts (base : Command) (named : Option String) : Transcript :=
  (named.map fun id => Entry.ran (base.abort id)).toList

theorem abort_deeds (m : Monitor σ) {named : Option String} (s : Station σ)
    (hnamed : ∀ id, named = some id → IsJobName id) :
    (m.abort named s).did.deeds = aborts m.base named := by
  unfold aborts
  cases named with
  | none => simp [abort]
  | some id =>
      have hid := hnamed id rfl
      simp only [abort, Option.map_some, hid.trim_eq, Option.filter_some, hid.ne_empty,
        Bool.not_false, if_true, Act.bind_apply, Act.log_apply, Transcript.deeds_append,
        Act.runCommand_deeds]
      cases (Act.runCommand m.site .deaf () (m.base.abort id) .undisturbed s).value.2 with
      | error b => simp
      | ok o =>
          cases haborted : o.isAbort with
          | true => simp [haborted]
          | false => simp [haborted]

/-! ## Conclusions -/

def concluded (jobId : String) : Except Failure Job.Status → Outcome
  | .ok .success => .completed .success
  | .ok _ => .failed (.remoteJobFailure jobId)
  | .error .timeoutExceeded => .timedOut
  | .error f => if f.isAbort then .aborted else .failed f

section Concluding

variable (m : Monitor σ) (jobId : String) (result : Except Failure Job.Status) (s : Station σ)

theorem conclude_value : (m.conclude jobId result s).value = concluded jobId result := by
  cases result with
  | ok status => cases status <;> rfl
  | error f =>
      cases f with
      | timeoutExceeded => rfl
      | interrupted => rfl
      | processAbort o => rfl
      | _ => rfl

theorem conclude_deeds (hid : IsJobName jobId) :
    (m.conclude jobId result s).did.deeds =
      if (concluded jobId result).isGivenUp then [.ran (m.base.abort jobId)] else [] := by
  have habort : ∀ t : Station σ,
      (m.abort (some jobId) t).did.deeds = [.ran (m.base.abort jobId)] := by
    intro t
    rw [m.abort_deeds t fun id hsome => Option.some.inj hsome ▸ hid]
    rfl
  cases result with
  | ok status => cases status <;> simp [conclude, concluded, Outcome.isGivenUp]
  | error f =>
      cases f with
      | timeoutExceeded => simp [conclude, concluded, Outcome.isGivenUp, habort]
      | interrupted =>
          simp [conclude, concluded, Outcome.isGivenUp, habort, Failure.isAbort]
      | processAbort o =>
          simp [conclude, concluded, Outcome.isGivenUp, habort, Failure.isAbort]
      | _ => simp [conclude, concluded, Outcome.isGivenUp, Failure.isAbort]

end Concluding

/-! ## The hand-over to a worker -/

/-- What the one who waits for a poll makes of its result. -/
def handed {α : Type} : Except Break α → Except Failure α
  | .ok a => .ok a
  | .error (.failed f) => .error f
  | .error .lost => .error .taskLost
  | .error .abandoned => .error .timeoutExceeded

section HandingOver

variable {μ α : Type} (m : Monitor σ) (attempt : Nat → μ → Act σ (Verdict μ α)) (memory : μ)
  (s : Station σ)

def deadline : Nat := m.site.clock s.site + m.maxWait

theorem handOver_value_of_accepting (haccepting : s.accepting = true) :
    (m.handOver attempt memory s).value =
      handed (m.poll (m.deadline s) (attempt (m.deadline s)) memory s).value := by
  simp only [handOver, Act.bind_apply, Act.look_apply, haccepting, if_true, deadline]
  cases (m.poll (m.site.clock s.site + m.maxWait) (attempt (m.site.clock s.site + m.maxWait))
      memory s).value with
  | ok a => rfl
  | error b => cases b <;> rfl

theorem handOver_deeds_of_accepting (haccepting : s.accepting = true) :
    (m.handOver attempt memory s).did.deeds =
      (m.poll (m.deadline s) (attempt (m.deadline s)) memory s).did.deeds := by
  simp only [handOver, Act.bind_apply, Act.look_apply, haccepting, if_true, deadline,
    Transcript.deeds_append, List.nil_append]
  cases (m.poll (m.site.clock s.site + m.maxWait) (attempt (m.site.clock s.site + m.maxWait))
      memory s).value with
  | ok a => simp
  | error b => cases b <;> simp [Act.raiseCurrent]

theorem handOver_of_not_accepting (haccepting : s.accepting = false) :
    m.handOver attempt memory s = ⟨.error .poolShutDown, [], s⟩ := by
  simp [handOver, haccepting]

end HandingOver

/-! ## Polls for the status of a job -/

theorem repeats_attemptStatus (m : Monitor σ) (deadline : Nat) (jobId : String) :
    m.Repeats deadline (m.base.status jobId) (m.attemptStatus deadline)
      (fun e => e.result? jobId)
      fun read => read.jobId = jobId ∧ read.status = .notComplete := by
  constructor
  · rintro read previous s result ⟨rfl, hread⟩ hresult
    have hround := m.round_attemptStatus deadline previous s hread
    rw [hresult] at hround
    exact hround
  · rintro read previous s ⟨rfl, hread⟩ hpending
    have hround := m.round_attemptStatus deadline previous s hread
    rw [hpending] at hround
    exact hround

/-! ## Whole runs -/

section Runs

variable (m : Monitor σ) (attempt : StatusAttempt σ) (jobId : String) (c : Command)
  (s : Station σ)

theorem follow_value (hid : IsJobName jobId) :
    (m.follow attempt jobId s).value =
      concluded jobId (m.handOver attempt ⟨jobId, .unknown, .notComplete⟩ s).value := by
  simp only [follow, hid.start_eq, Act.bind_apply, Act.log_apply, conclude_value]

theorem follow_deeds (hid : IsJobName jobId) :
    (m.follow attempt jobId s).did.deeds =
      (m.handOver attempt ⟨jobId, .unknown, .notComplete⟩ s).did.deeds ++
        if (m.follow attempt jobId s).value.isGivenUp then [.ran (m.base.abort jobId)]
        else [] := by
  rw [follow_value m attempt jobId s hid]
  simp only [follow, hid.start_eq, Act.bind_apply, Act.log_apply, Transcript.deeds_append,
    Station.logged_deeds, List.nil_append,
    conclude_deeds m jobId _ _ hid]

section Proceeding

variable {named : Option String} (submitted : Except Failure RunOutcome)

theorem proceed_value :
    (m.proceed attempt named submitted s).value =
      match submitted with
      | .ok o =>
        if o.isAbort then .aborted
        else
          match named with
          | some id => (m.follow attempt id s).value
          | none => .failed .missingJobId
      | .error .interrupted => .aborted
      | .error f => .failed f := by
  cases submitted with
  | ok o =>
      cases haborted : o.isAbort with
      | true => simp [proceed, haborted]
      | false => cases named <;> simp [proceed, haborted]
  | error f => cases f <;> simp [proceed]

theorem proceed_deeds_of_ne_finished (hnamed : ∀ id, named = some id → IsJobName id)
    (hended : submitted ≠ .ok .finished) :
    (m.proceed attempt named submitted s).did.deeds =
      if (m.proceed attempt named submitted s).value.isGivenUp then aborts m.base named
      else [] := by
  have habort : ∀ t : Station σ, (m.abort named t).did.deeds = aborts m.base named :=
    fun t => m.abort_deeds t hnamed
  cases submitted with
  | ok o =>
      cases o with
      | finished => exact absurd rfl hended
      | watchdogKilled => simp [proceed, RunOutcome.isAbort, habort, Outcome.isGivenUp]
      | nonZeroExit code => simp [proceed, RunOutcome.isAbort, habort, Outcome.isGivenUp]
  | error f =>
      cases f with
      | interrupted => simp [proceed, habort, Outcome.isGivenUp]
      | _ => simp [proceed, Outcome.isGivenUp]

end Proceeding

def submission : Course Ending :=
  (m.site.run c (.on (some .fresh) none) s.site).1

def afterSubmission : Station σ :=
  ({ s with
      site := (m.site.run c (.on (some .fresh) none) s.site).2
      current := some .fresh } : Station σ).after (m.submission c s).happenings

theorem submitBy_value :
    (m.submitBy attempt c s).value =
      (m.proceed attempt (m.submission c s).jobId? (m.submission c s).submitted
        (m.afterSubmission c s)).value := by
  simp only [submitBy, monitored, runJob, Act.bind_apply, Act.change_apply, Act.look_apply,
    Act.log_apply, Act.pure_apply, Act.runCommand_value, Act.runCommand_station]
  rfl

theorem submitBy_deeds :
    (m.submitBy attempt c s).did.deeds =
      .ran c ::
        (m.proceed attempt (m.submission c s).jobId? (m.submission c s).submitted
          (m.afterSubmission c s)).did.deeds := by
  simp only [submitBy, monitored, runJob, Act.bind_apply, Act.change_apply, Act.look_apply,
    Act.log_apply, Act.pure_apply, Act.runCommand_value, Act.runCommand_station,
    Act.runCommand_deeds, Transcript.deeds_append, Station.logged_deeds, List.nil_append,
    List.append_nil, List.cons_append]
  rfl

/-- The exchanges of the poll that follows a submission. -/
def statusExchanges : Nat → Exchange :=
  m.exchanges (m.deadline (m.afterSubmission c s)) (m.base.status jobId) 0
    (m.afterSubmission c s)

@[simp] theorem afterSubmission_accepting :
    (m.afterSubmission c s).accepting = s.accepting :=
  Station.after_accepting _ _

/-- A run follows a job: its submission succeeds and names the job. -/
structure Follows : Prop where
  exited : (m.submission c s).ending = some (.exited .finished)
  named : (m.submission c s).jobId? = some jobId

/-- What a run comes to that follows no job, by how its submission ended. -/
def unfollowed : Option Ending → Outcome
  | some (.exited .finished) => .failed .missingJobId
  | some (.exited _) => .aborted
  | some (.failed .interrupted) => .aborted
  | some (.failed f) => .failed f
  | some .brokeDown => .failed .taskLost
  | none => .aborted

section Following

variable {m jobId c s}

theorem Follows.isJobName (hfollows : m.Follows jobId c s) : IsJobName jobId :=
  Course.isJobName hfollows.named

theorem Follows.submit_eq (hfollows : m.Follows jobId c s) :
    (m.submit c s).value =
        (m.follow m.attemptStatus jobId (m.afterSubmission c s)).value ∧
      (m.submit c s).did.deeds =
        .ran c :: (m.follow m.attemptStatus jobId (m.afterSubmission c s)).did.deeds := by
  rw [submit, submitBy_value, submitBy_deeds, hfollows.named,
    Course.submitted_eq_finished.mpr hfollows.exited]
  exact ⟨rfl, rfl⟩

/-- A run that follows its job comes to what the exchange brings that closes its poll. -/
theorem Follows.submit_of_accepting (hfollows : m.Follows jobId c s)
    (haccepting : s.accepting = true) :
    ∃ n result,
      ClosesBy (fun e => e.result? jobId) (m.statusExchanges jobId c s) m.budget n result ∧
      (m.submit c s).value = concluded jobId (handed result) ∧
      (m.submit c s).did.deeds =
        .ran c ::
          (deedsBy (fun e => e.result? jobId) (m.statusExchanges jobId c s)
              (m.base.status jobId) n ++
            if (m.submit c s).value.isGivenUp then [.ran (m.base.abort jobId)] else []) := by
  have hid := hfollows.isJobName
  have hthere : (m.afterSubmission c s).accepting = true := by simpa using haccepting
  obtain ⟨n, hcloses, hdeeds⟩ :=
    (m.repeats_attemptStatus (m.deadline (m.afterSubmission c s)) jobId).poll_closesBy
      ⟨jobId, .unknown, .notComplete⟩ ⟨rfl, rfl⟩ (m.afterSubmission c s)
  obtain ⟨hvalue, hdid⟩ := hfollows.submit_eq
  refine ⟨n, _, hcloses, ?_, ?_⟩
  · rw [hvalue, follow_value _ _ _ _ hid, handOver_value_of_accepting m _ _ _ hthere]
  · rw [hdid, follow_deeds _ _ _ _ hid, handOver_deeds_of_accepting m _ _ _ hthere, hdeeds,
      hvalue]
    rfl

theorem Follows.submit_of_closesBy {n : Nat} {result : Except Break Job.Status}
    (hfollows : m.Follows jobId c s) (haccepting : s.accepting = true)
    (hcloses :
      ClosesBy (fun e => e.result? jobId) (m.statusExchanges jobId c s) m.budget n result) :
    (m.submit c s).value = concluded jobId (handed result) ∧
      (m.submit c s).did.deeds =
        .ran c ::
          (deedsBy (fun e => e.result? jobId) (m.statusExchanges jobId c s)
              (m.base.status jobId) n ++
            if (m.submit c s).value.isGivenUp then [.ran (m.base.abort jobId)] else []) := by
  obtain ⟨k, other, hother, hvalue, hdeeds⟩ := hfollows.submit_of_accepting haccepting
  obtain ⟨rfl, rfl⟩ := hother.unique hcloses
  exact ⟨hvalue, hdeeds⟩

theorem Follows.submit_of_not_accepting (hfollows : m.Follows jobId c s)
    (haccepting : s.accepting = false) :
    (m.submit c s).value = .failed .poolShutDown ∧ (m.submit c s).did.deeds = [.ran c] := by
  have hid := hfollows.isJobName
  have hthere : (m.afterSubmission c s).accepting = false := by simpa using haccepting
  obtain ⟨hvalue, hdid⟩ := hfollows.submit_eq
  have hfailed : (m.submit c s).value = .failed .poolShutDown := by
    rw [hvalue, follow_value _ _ _ _ hid, handOver_of_not_accepting m _ _ _ hthere]
    rfl
  constructor
  · exact hfailed
  · rw [hdid, follow_deeds _ _ _ _ hid, handOver_of_not_accepting m _ _ _ hthere, ← hvalue,
      hfailed]
    rfl

theorem submit_of_not_follows (hfollows : ∀ jobId, ¬ m.Follows jobId c s) :
    (m.submit c s).value = unfollowed (m.submission c s).ending ∧
      (m.submit c s).did.deeds =
        .ran c ::
          if (m.submit c s).value.isGivenUp then aborts m.base (m.submission c s).jobId?
          else [] := by
  have hnames : ∀ id, (m.submission c s).jobId? = some id → IsJobName id :=
    fun _ hnamed => Course.isJobName hnamed
  have hunnamed : (m.submission c s).ending = some (.exited .finished) →
      (m.submission c s).jobId? = none := by
    intro hexited
    cases hnamed : (m.submission c s).jobId? with
    | none => rfl
    | some id => exact absurd ⟨hexited, hnamed⟩ (hfollows id)
  rw [submit, submitBy_value, submitBy_deeds]
  constructor
  · rw [proceed_value]
    unfold Course.submitted
    cases hending : (m.submission c s).ending with
    | none => rfl
    | some ending =>
        cases ending with
        | exited o =>
            cases o with
            | finished =>
                rw [hunnamed hending]
                rfl
            | watchdogKilled => rfl
            | nonZeroExit code => rfl
        | failed f => cases f <;> rfl
        | brokeDown => rfl
  · by_cases hended : (m.submission c s).submitted = .ok .finished
    · rw [hended, hunnamed (Course.submitted_eq_finished.mp hended)]
      simp [proceed, RunOutcome.isAbort, Outcome.isGivenUp]
    · rw [proceed_deeds_of_ne_finished _ _ _ _ hnames hended]

end Following

end Runs

end Monitor

end SprayWatch
