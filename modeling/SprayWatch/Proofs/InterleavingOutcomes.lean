import SprayWatch.Proofs.InterleavedSubmissions
import SprayWatch.Proofs.JobAborts

/-!
# What every interleaving comes to

A run that starts with a caller who has not begun has one outcome in the end and at most one abort,
whatever the order in which caller, worker and cancellations take their steps.  The wait of the
caller, once it has expired, decides both.  A raised signal stops the worker, and if it was raised
before the submission came back, nothing that the worker does can decide the outcome any more.
-/

namespace SprayWatch.Interleaving

variable {σ : Type} {m : Monitor σ} {c : Command} {s t u : State} {accepting : Bool} {e : Event}
  {es before after : List Event}

/-! ## Runs from the start -/

section Start

variable (hrun : Run m c (.start accepting) es t)
include hrun

theorem Run.sound_of_start : t.Sound := hrun.sound (.start accepting)

theorem Run.outcomes_of_start : outcomes es = t.outcome?.toList := by
  rw [hrun.outcomes_eq]
  simp [State.outcome?, State.start]

theorem Run.aborts_of_start : aborts es = t.aborts m.base := by
  rw [hrun.aborts_eq]
  simp [State.aborts, State.start]

theorem Run.submissions_of_start : submissions es = t.submission.toList := by
  rw [hrun.submissions_eq (.start accepting)]
  simp [State.start]

theorem Run.mem_submissions {course : Course Ending} :
    course ∈ submissions es ↔ t.submission = some course := by
  rw [hrun.submissions_of_start]
  simp

theorem Run.outcome?_of_mem {outcome : Outcome} (hmem : outcome ∈ outcomes es) :
    t.caller = .home outcome := by
  rw [hrun.outcomes_of_start] at hmem
  unfold State.outcome? at hmem
  split at hmem
  next home hcaller =>
    obtain rfl : outcome = home := by simpa using hmem
    exact hcaller
  next => simp at hmem

theorem Run.accepting_of_start : t.accepting = accepting := by
  have hkeeps : ∀ s e t, s.accepting = accepting → Move m c s e t → t.accepting = accepting := by
    intro s e t hs hmove
    cases hmove <;> exact hs
  exact hrun.keeps hkeeps rfl

end Start

/-! ## Outcomes and aborts -/

/-- The submission of a run has named a job. -/
def Named (es : List Event) (jobId : String) : Prop :=
  ∃ course ∈ submissions es, course.jobId? = some jobId

/-- There is one abort, for one job, and it is the caller's. -/
def AbortedOnce (base : Command) (es : List Event) (jobId : String) : Prop :=
  aborts es = [(.caller, base.withArgs ["wuid=" ++ jobId, "action=abort"])]

theorem Run.named_iff (hrun : Run m c (.start accepting) es t) {jobId : String} :
    Named es jobId ↔ t.jobId? = some jobId := by
  unfold Named State.jobId?
  simp [hrun.mem_submissions, Option.bind_eq_some_iff]

theorem Named.isJobName {jobId : String} (hnamed : Named es jobId) : IsJobName jobId := by
  obtain ⟨course, -, hname⟩ := hnamed
  exact Course.isJobName hname

theorem Run.abortedOnce (hrun : Run m c (.start accepting) es t) {outcome : Outcome}
    {jobId : String} (hmem : outcome ∈ outcomes es) (hgivenUp : outcome.isGivenUp = true)
    (hnamed : Named es jobId) : AbortedOnce m.base es jobId := by
  unfold AbortedOnce
  rw [hrun.aborts_of_start, ← hnamed.isJobName.abort_eq]
  simp [State.aborts, State.abortsFor, hrun.outcome?_of_mem hmem, hgivenUp,
    hrun.named_iff.mp hnamed]

theorem State.abortsFor_cases (base : Command) (s : State) (outcome : Outcome) :
    s.abortsFor base outcome = [] ∨
      ∃ jobId, s.jobId? = some jobId ∧
        s.abortsFor base outcome = [(.caller, base.abort jobId)] := by
  unfold abortsFor
  cases outcome.isGivenUp with
  | false => exact .inl rfl
  | true =>
      cases s.jobId? with
      | none => exact .inl rfl
      | some jobId => exact .inr ⟨jobId, rfl, rfl⟩

theorem State.aborts_cases (base : Command) (s : State) :
    s.aborts base = [] ∨
      ∃ jobId, s.jobId? = some jobId ∧ s.aborts base = [(.caller, base.abort jobId)] := by
  unfold aborts
  split
  · exact s.abortsFor_cases base _
  · exact s.abortsFor_cases base _
  · exact s.abortsFor_cases base _
  · exact .inl rfl

theorem Run.aborts_eq_nil_or (hrun : Run m c (.start accepting) es t) :
    aborts es = [] ∨ ∃ jobId, Named es jobId ∧ AbortedOnce m.base es jobId := by
  rcases t.aborts_cases m.base with hnone | ⟨jobId, hnamed, honce⟩
  · exact .inl (hrun.aborts_of_start.trans hnone)
  · have hname := hrun.named_iff.mpr hnamed
    rw [hname.isJobName.abort_eq] at honce
    exact .inr ⟨jobId, hname, hrun.aborts_of_start.trans honce⟩

theorem Run.outcomes_length_le (hrun : Run m c (.start accepting) es t) :
    (outcomes es).length ≤ 1 := by
  rw [hrun.outcomes_of_start]
  cases t.outcome? <;> simp

/-- A run in which the caller has no move left has an outcome. -/
theorem Run.outcomes_length_eq (hrun : Run m c (.start accepting) es t)
    (hover : ∀ e u, Move m c t e u → e.party ≠ .caller) : (outcomes es).length = 1 := by
  rw [hrun.outcomes_of_start]
  cases houtcome : t.outcome? with
  | some outcome => rfl
  | none =>
      obtain ⟨e, u, hmove, hcaller⟩ := hrun.sound_of_start.exists_move houtcome
      exact absurd hcaller (hover e u hmove)

theorem Run.caller_moves_le (hrun : Run m c (.start accepting) es t) :
    es.countP (fun e => e.party = .caller) ≤ 10 := by
  have hleft := hrun.movesLeft
  simp only [State.start, Caller.movesLeft] at hleft
  omega

/-! ## A wait that has expired -/

theorem State.GivenUp.eq_timedOut {outcome : Outcome} (hgivenUp : t.GivenUp)
    (hhome : t.caller = .home outcome) : outcome = .timedOut := by
  simpa [hhome, Caller.HasGivenUp] using hgivenUp.caller

/-- A caller whose wait has expired ends the run as timed out, with one abort, whatever the worker
still comes to. -/
theorem Run.of_expires (hrun : Run m c (.start accepting) (before ++ .expires :: after) t) :
    ∃ jobId, Named (before ++ .expires :: after) jobId ∧
      ∀ outcome ∈ outcomes (before ++ .expires :: after),
        outcome = .timedOut ∧ AbortedOnce m.base (before ++ .expires :: after) jobId := by
  obtain ⟨s, hfirst, hlater⟩ := hrun.exists_of_append
  cases hlater with
  | cons hexpires hrest =>
      have hgivenUp : t.GivenUp :=
        hrest.keeps (fun _ _ _ => Move.givenUp) (hexpires.givenUp_of_expires hfirst.sound_of_start)
      obtain ⟨jobId, hnamed⟩ := Option.isSome_iff_exists.mp hgivenUp.named
      have hname := hrun.named_iff.mpr hnamed
      refine ⟨jobId, hname, fun outcome hmem => ?_⟩
      obtain rfl := hgivenUp.eq_timedOut (hrun.outcome?_of_mem hmem)
      exact ⟨rfl, hrun.abortedOnce hmem rfl hname⟩

/-! ## A raised signal -/

theorem Run.ne_idle (hrun : Run m c (.start accepting) es t) (hbegun : .begins ∈ es) :
    t.caller ≠ .idle := by
  intro hidle
  have hleft := hrun.movesLeft
  have hmoved : 0 < es.countP (fun e => e.party = .caller) :=
    List.countP_pos_iff.mpr ⟨_, hbegun, by decide⟩
  rw [hidle] at hleft
  simp only [State.start, Caller.movesLeft] at hleft
  omega

/-- A cancellation raises the signal of a run that has begun and not finished. -/
theorem Run.raised_of_signals (hrun : Run m c (.start accepting) es s) (hmove : Move m c s e t)
    (hsignals : Signals es e) : t.raised = true := by
  cases hsignals with
  | raises => cases hmove; rfl
  | cancels hbegun hunfinished =>
      have hlisted : s.listed = true := by
        rw [hrun.sound_of_start.listed_eq]
        have hbegun := hrun.ne_idle hbegun
        rw [hrun.outcomes_of_start] at hunfinished
        cases hcaller : s.caller <;> simp_all [Caller.isUnderWay, State.outcome?]
      cases hmove
      simp [hlisted]

/-- Once the signal is raised, the worker starts one more query at most, and completes no pause that
starts later. -/
theorem Run.of_signals (hrun : Run m c (.start accepting) (before ++ e :: after) t)
    (hsignals : Signals before e) :
    (queries after).length ≤ 1 ∧
      ∀ middle ms later, after = middle ++ .pauses ms :: later →
        ∀ k, .wakes k (.ok ()) ∉ later := by
  obtain ⟨s, hfirst, hlater⟩ := hrun.exists_of_append
  cases hlater with
  | @cons _ u _ _ _ hmove hrest =>
      have hsound := hmove.sound hfirst.sound_of_start
      have hraised := hfirst.raised_of_signals hmove hsignals
      constructor
      · exact Nat.le_trans (hrest.queries_length_le hsound hraised) u.worker.queriesLeft_le_one
      · rintro middle ms later rfl
        exact hrest.not_completed_of_pauses hsound hraised

/-! ## A signal before the submission comes back -/

theorem State.Sound.stoppedEarly (hs : s.Sound) (hraised : s.raised = true)
    (hsubmission : s.submission = none) : s.StoppedEarly := by
  have hearly : s.caller.isEarly = true := by
    by_contra hlate
    simpa [hsubmission] using hs.late (by simpa using hlate)
  have hunhanded : s.caller.isUnhanded = true := by
    cases hcaller : s.caller <;> simp_all [Caller.isEarly, Caller.isUnhanded]
  obtain ⟨habsent, hempty⟩ := hs.unhanded hunhanded
  refine ⟨hraised, by rw [habsent]; trivial, by simp [hempty], ?_⟩
  cases hcaller : s.caller <;> simp_all [Caller.isEarly, Caller.IsPermitted]

theorem Run.stoppedEarly (hrun : Run m c (.start accepting) (before ++ e :: after) t)
    (hsignals : Signals before e) (hearly : submissions before = []) : t.StoppedEarly := by
  obtain ⟨s, hfirst, hlater⟩ := hrun.exists_of_append
  cases hlater with
  | cons hmove hrest =>
      have hsound := hmove.sound hfirst.sound_of_start
      have hraised := hfirst.raised_of_signals hmove hsignals
      have hsubmission := hmove.submission_eq hfirst.sound_of_start
      rw [← hfirst.submissions_of_start, hearly] at hsubmission
      refine hrest.keeps (fun _ _ _ => Move.stoppedEarly) (hsound.stoppedEarly hraised ?_)
      cases hsignals <;> simpa [Event.submission?] using hsubmission

/-- Of a run that was stopped before its submission came back, nothing is left but to be aborted or
timed out, once the job has been submitted to a pool that accepts work. -/
theorem Run.of_signals_early (hrun : Run m c (.start accepting) (before ++ e :: after) t)
    (hsignals : Signals before e) (hearly : submissions before = []) {outcome : Outcome}
    (hmem : outcome ∈ outcomes (before ++ e :: after)) :
    (∀ status, outcome ≠ .completed status) ∧
      (∀ jobId, outcome = .failed (.remoteJobFailure jobId) →
        ∃ course ∈ submissions (before ++ e :: after),
          course.ending = some (.failed (.remoteJobFailure jobId))) ∧
      ∀ course ∈ submissions (before ++ e :: after), ∀ jobId, course.Submits jobId →
        accepting = true →
        (outcome = .aborted ∨ outcome = .timedOut) ∧
          AbortedOnce m.base (before ++ e :: after) jobId := by
  have hpermits := (hrun.stoppedEarly hsignals hearly).caller
  simp only [hrun.outcome?_of_mem hmem, Caller.IsPermitted, hrun.accepting_of_start] at hpermits
  refine ⟨hpermits.ne_completed, fun jobId hfailed => ?_, ?_⟩
  · obtain ⟨course, hsubmission, hending⟩ := hpermits.of_remoteJobFailure jobId hfailed
    exact ⟨course, hrun.mem_submissions.mpr hsubmission, hending⟩
  · intro course hcourse jobId hsubmits haccepting
    have hgivenUp := hpermits.of_submits course jobId (hrun.mem_submissions.mp hcourse) hsubmits
      haccepting
    exact ⟨(Outcome.isGivenUp_iff.mp hgivenUp).symm,
      hrun.abortedOnce hmem hgivenUp ⟨course, hcourse, hsubmits.named⟩⟩

/-! ## Interleavings of a submission -/

/-- Whatever the order in which caller, worker and cancellations take their steps: the run has one
outcome and at most one abort, and the abort is the caller's.  A wait that has expired decides both,
whatever the worker still delivers.  After the signal, the worker starts one more query at most and
completes no pause that starts later.  A signal before the submission comes back leaves no success,
and no failure of the job unless it is the submission that reports it; if a job was submitted to a
pool that accepts work, it is aborted.  What a monitor does when it submits is such a run, provided
that commands which start while the signal is raised fail as interrupted. -/
theorem interleaved_run (m : Monitor σ) (c : Command) :
    (∀ accepting es t, Run m c (.start accepting) es t →
      ((outcomes es).length ≤ 1 ∧ es.countP (fun e => e.party = .caller) ≤ 10 ∧
        ((∀ e u, Move m c t e u → e.party ≠ .caller) → (outcomes es).length = 1) ∧
        (aborts es = [] ∨ ∃ jobId, Named es jobId ∧ AbortedOnce m.base es jobId)) ∧
      (∀ before after, es = before ++ .expires :: after →
        ∃ jobId, Named es jobId ∧
          ∀ outcome ∈ outcomes es, outcome = .timedOut ∧ AbortedOnce m.base es jobId) ∧
      ∀ before e after, es = before ++ e :: after → Signals before e →
        ((queries after).length ≤ 1 ∧
          ∀ middle ms later, after = middle ++ .pauses ms :: later →
            ∀ k, .wakes k (.ok ()) ∉ later) ∧
        (submissions before = [] → ∀ outcome ∈ outcomes es,
          (∀ status, outcome ≠ .completed status) ∧
          (∀ jobId, outcome = .failed (.remoteJobFailure jobId) →
            ∃ course ∈ submissions es,
              course.ending = some (.failed (.remoteJobFailure jobId))) ∧
          ∀ course ∈ submissions es, ∀ jobId, course.Submits jobId → accepting = true →
            (outcome = .aborted ∨ outcome = .timedOut) ∧ AbortedOnce m.base es jobId)) ∧
    ∀ s : Station σ, m.site.Interrupts → (m.submission c s).ending ≠ none →
      (m.submission c s).ending ≠ some .brokeDown →
      ∃ es t, Run m c (.start s.accepting) es t ∧ outcomes es = [(m.submit c s).value] ∧
        deeds es = (m.submit c s).did.deeds := by
  refine ⟨fun accepting es t hrun => ⟨⟨?_, ?_, ?_, ?_⟩, ?_, ?_⟩, ?_⟩
  · exact hrun.outcomes_length_le
  · exact hrun.caller_moves_le
  · exact hrun.outcomes_length_eq
  · exact hrun.aborts_eq_nil_or
  · rintro before after rfl
    exact hrun.of_expires
  · rintro before e after rfl hsignals
    exact ⟨hrun.of_signals hsignals, fun hearly _ => hrun.of_signals_early hsignals hearly⟩
  · intro s hinterrupts hended hsound
    obtain ⟨t, ⟨es, hrun, hdeeds⟩, hhome⟩ := plays_submit hinterrupts hended hsound
    refine ⟨es, t, hrun, ?_, hdeeds⟩
    simp [hrun.outcomes_of_start, State.outcome?, hhome]

/-- The output of a submission that succeeds. -/
def receipt : Course Ending := ⟨[.line "Submitted WUID D1"], some (.exited .finished)⟩

theorem receipt_submits : receipt.Submits "D1" := ⟨rfl, by decide +kernel⟩

/-- The caller and the worker of a run that is cancelled while the submission is under way. -/
def cancelledEarly : List Event :=
  [.begins, .starts .caller .submission Monitor.recited, .cancels, .ends .submission receipt,
    .handsOver, .takes, .starts .worker .query (Monitor.rehearsing.base.status "D1"),
    .ends .query ⟨[], some (.failed .interrupted)⟩, .delivers (.error (.failed .interrupted)),
    .receives (.error (.failed .interrupted)), .concludes .aborted,
    .starts .caller .abort (Monitor.rehearsing.base.abort "D1"),
    .ends .abort ⟨[], some (.exited .finished)⟩, .finishes .aborted]

theorem run_cancelledEarly :
    Run Monitor.rehearsing Monitor.recited (.start true) cancelledEarly
      ⟨.home .aborted, some receipt, .gone, none, true, false, true⟩ := by
  have hread := (Course.isJobName receipt_submits.named).start_eq
  have hnamed : receipt.jobId? = some "D1" := receipt_submits.named
  refine .cons (.begins rfl) ?_
  refine .cons (.submits rfl) ?_
  refine .cons .cancels ?_
  refine .cons (.submitted rfl ⟨by simp [receipt], by simp [State.start]⟩ (by simp [receipt])) ?_
  refine .cons (.handsOver rfl rfl receipt_submits hread rfl) ?_
  refine .cons (.takes rfl) ?_
  refine .cons (@Move.queries _ _ _ _ ⟨"D1", .unknown, .notComplete⟩ 0 0 ⟨[]⟩ rfl) ?_
  refine .cons (.answers rfl ⟨by simp, fun _ => rfl⟩) ?_
  refine .cons (.delivers rfl) ?_
  refine .cons (.receives rfl rfl) ?_
  refine .cons (@Move.concludes _ _ _ _ (.error .interrupted) "D1" rfl hnamed) ?_
  refine .cons (.aborts rfl rfl hnamed) ?_
  refine .cons (.aborted rfl (by simp) (by simp)) ?_
  refine .cons (.finishes rfl) ?_
  exact .nil _

theorem rehearsal_interrupts : Rehearsal.site.Interrupts := by
  intro c watch r hraised
  simp [Rehearsal.site, Rehearsal.run, hraised]

/-- A run that is cancelled before the submission comes back has the job aborted, and the submission
of a job whose status cannot be told is one of the runs. -/
theorem interleaved_run_cancelled :
    (Signals (cancelledEarly.take 2) .cancels ∧ submissions (cancelledEarly.take 2) = [] ∧
      outcomes cancelledEarly = [.aborted] ∧ submissions cancelledEarly = [receipt] ∧
      AbortedOnce Monitor.rehearsing.base cancelledEarly "D1" ∧
      (queries (cancelledEarly.drop 3)).length ≤ 1) ∧
    Monitor.rehearsing.site.Interrupts ∧
    ∃ es t, Run Monitor.rehearsing Monitor.recited (.start true) es t ∧
      outcomes es = [(Monitor.rehearsing.submit Monitor.recited Monitor.killed).value] := by
  have hsignals : Signals (cancelledEarly.take 2) .cancels :=
    .cancels (List.mem_cons_self ..) rfl
  have hended : (Monitor.rehearsing.submission Monitor.recited Monitor.killed).ending =
      some (.exited .finished) := by
    decide +kernel
  obtain ⟨hruns, hplays⟩ := interleaved_run Monitor.rehearsing Monitor.recited
  obtain ⟨-, -, hraised⟩ := hruns true cancelledEarly _ run_cancelledEarly
  obtain ⟨hstopped, hearly⟩ :=
    hraised (cancelledEarly.take 2) .cancels (cancelledEarly.drop 3) rfl hsignals
  have hreturned : outcomes cancelledEarly = [.aborted] := rfl
  have hsubmitted : submissions cancelledEarly = [receipt] := rfl
  obtain ⟨-, -, hsubmits⟩ := hearly rfl .aborted (by simp [hreturned])
  have honce := (hsubmits receipt (by simp [hsubmitted]) "D1" receipt_submits rfl).2
  obtain ⟨es, t, hrun, houtcomes, -⟩ :=
    hplays Monitor.killed rehearsal_interrupts (by simp [hended]) (by simp [hended])
  exact ⟨⟨hsignals, rfl, hreturned, hsubmitted, honce, hstopped.1⟩, rehearsal_interrupts,
    es, t, hrun, houtcomes⟩

end SprayWatch.Interleaving
