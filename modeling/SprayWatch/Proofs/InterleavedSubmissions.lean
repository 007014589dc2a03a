import SprayWatch.Proofs.InterleavingSafety

/-!
# Submissions as interleavings

What a monitor does when it submits a job is one interleaving of caller and worker: the requests to
stop that come in during a command or a pause are cancellations, and a command or pause that is not
waited for any longer is where the caller's wait expires.
-/

namespace SprayWatch

/-- Commands that start while their signal is raised fail as interrupted. -/
def Site.Interrupts {σ : Type} (site : Site σ) : Prop :=
  ∀ c watch x, watch.raised = true →
    (site.run c watch x).1.ending = some (.failed .interrupted)

namespace Interleaving

variable {σ : Type} {m : Monitor σ} {c : Command} {s t u : State} {st : Station σ}

/-! ## Plays -/

/-- Some run leads from one state to another and has these deeds. -/
def Plays (m : Monitor σ) (c : Command) (s t : State) (did : Transcript) : Prop :=
  ∃ es, Run m c s es t ∧ deeds es = did

theorem Plays.refl (s : State) : Plays m c s s [] := ⟨[], .nil s, rfl⟩

theorem Plays.trans {did later : Transcript} (hfirst : Plays m c s t did)
    (hlater : Plays m c t u later) : Plays m c s u (did ++ later) := by
  obtain ⟨es, hes, rfl⟩ := hfirst
  obtain ⟨fs, hfs, rfl⟩ := hlater
  exact ⟨es ++ fs, hes.append hfs, List.filterMap_append⟩

theorem Plays.of_move {e : Event} (hmove : Move m c s e t) : Plays m c s t e.deed?.toList := by
  refine ⟨[e], .single hmove, ?_⟩
  cases h : e.deed? <;> simp [deeds, h]

/-! ## Requests to stop -/

/-- The state after requests to stop have come in, if there are any. -/
def State.hearing (s : State) (happenings : List Happening) : State :=
  { s with raised := s.raised || decide (.stopAsked ∈ happenings) }

/-- A run that is listed, with its signal, at a station. -/
structure State.Mirrors (s : State) (st : Station σ) : Prop where
  listed : s.listed = true
  current : st.current = some ⟨s.raised⟩

theorem State.Mirrors.hearing (hmirrors : s.Mirrors st) (happenings : List Happening) :
    (s.hearing happenings).Mirrors (st.after happenings) := by
  refine ⟨hmirrors.listed, ?_⟩
  have hcurrent := hmirrors.current
  by_cases hasked : .stopAsked ∈ happenings
  · simp [Station.after, hasked, Station.stopped, State.hearing, hcurrent]
  · simp [Station.after, hasked, State.hearing, hcurrent]

/-- Requests to stop that come in while a run is listed are cancellations. -/
theorem plays_hearing (s : State) (hlisted : s.listed = true) (happenings : List Happening) :
    Plays m c s (s.hearing happenings) [] := by
  by_cases hasked : .stopAsked ∈ happenings
  · have hcancels : Plays m c s _ [] := .of_move .cancels
    simpa [State.hearing, hasked, hlisted] using hcancels
  · simpa [State.hearing, hasked] using Plays.refl (m := m) (c := c) s

/-! ## The worker -/

def State.working (s : State) (worker : Worker) : State := { s with worker := worker }

theorem State.hearing_hearing (s : State) (happenings later : List Happening) :
    (s.hearing happenings).hearing later = s.hearing (happenings ++ later) := by
  simp [hearing, Bool.or_assoc]

theorem State.Mirrors.working (hmirrors : s.Mirrors st) (worker : Worker) :
    (s.working worker).Mirrors st :=
  ⟨hmirrors.listed, hmirrors.current⟩

section Polling

variable {read : Output.Status} {previous wait total deadline : Nat}

theorem obeys_of_interrupts (hinterrupts : m.site.Interrupts) (hmirrors : s.Mirrors st)
    {query : Command} (hended : (m.answer deadline query st).ending ≠ none) :
    (m.answer deadline query st).Obeys s.raised := by
  refine ⟨hended, fun hraised => hinterrupts _ _ _ ?_⟩
  simp [Monitor.pollWatch, Watch.on, hmirrors.current, hraised]

theorem State.Mirrors.asked (hmirrors : s.Mirrors st) (query : Command) :
    (s.hearing (m.answer deadline query st).happenings).Mirrors
      (m.ticked (m.asked deadline query st)) := by
  have hthere : s.Mirrors
      ({ st with site := (m.site.run query (m.pollWatch deadline st) st.site).2 } : Station σ) :=
    ⟨hmirrors.listed, hmirrors.current⟩
  have hafter := hthere.hearing (m.answer deadline query st).happenings
  exact ⟨hafter.listed, hafter.current⟩

theorem State.Mirrors.drawn (hmirrors : s.Mirrors st) (previous : Nat) :
    s.Mirrors (m.drawn previous st).station :=
  ⟨hmirrors.listed, hmirrors.current⟩

/-- A query that is asked, and what is heard in its course. -/
theorem plays_query (hmirrors : s.Mirrors st) (hworker : s.worker = .ready read previous total)
    (happenings : List Happening) :
    Plays m c s
      ((s.hearing happenings).working
        (.querying s.raised read (m.drawn previous st).value.val total))
      [.ran (m.base.status read.jobId)] := by
  let querying := s.working (.querying s.raised read (m.drawn previous st).value.val total)
  have hasks : Plays m c s querying [.ran (m.base.status read.jobId)] :=
    .of_move (.queries st.draws hworker)
  exact hasks.trans (plays_hearing querying hmirrors.listed happenings)

theorem ended_of_verdict {answer : Course Ending}
    (hwaited : answer.verdict read ≠ .broke .abandoned) : answer.ending ≠ none := by
  intro hunended
  exact hwaited (by simp [Course.verdict, Course.break?, hunended, Ending.outcome?])

/-- A query that is asked, and answered. -/
theorem plays_answer (hinterrupts : m.site.Interrupts) (hmirrors : s.Mirrors st)
    (hworker : s.worker = .ready read previous total)
    {verdict : Verdict Output.Status Job.Status}
    (hverdict :
      (m.answer deadline (m.base.status read.jobId) (m.drawn previous st).station).verdict read =
        verdict)
    (hwaited : verdict ≠ .broke .abandoned) :
    Plays m c s
      ((s.hearing
          (m.answer deadline (m.base.status read.jobId)
            (m.drawn previous st).station).happenings).working
        (.afterAnswer verdict (m.drawn previous st).value.val total))
      [.ran (m.base.status read.jobId)] := by
  subst hverdict
  have hobeys :=
    obeys_of_interrupts hinterrupts (hmirrors.drawn previous) (ended_of_verdict hwaited)
  exact (plays_query hmirrors hworker _).trans (.of_move (.answers rfl hobeys))

theorem plays_pause (hmirrors : s.Mirrors st) (hworker : s.worker = .answered read wait total)
    (happenings : List Happening) :
    Plays m c s ((s.hearing happenings).working (.pausing s.raised read wait total)) [] := by
  let pausing := s.working (.pausing s.raised read wait total)
  have hpauses : Plays m c s pausing [] := .of_move (.pauses hworker)
  exact hpauses.trans (plays_hearing pausing hmirrors.listed happenings)

/-- A pause is not completed while the signal is raised. -/
theorem rest_value_of_raised (hafter : s.Mirrors (m.rest deadline wait st).station)
    (hraised : s.raised = true) :
    (m.rest deadline wait st).value = .error (.failed .interrupted) := by
  refine (Act.pause_value m.site wait _ st).trans (if_pos ?_)
  change (m.rest deadline wait st).station.current.any _ = true
  simp [hafter.current, hraised]

/-- A pause, and what is heard in its course. -/
theorem plays_rest (deadline : Nat) (hmirrors : s.Mirrors st)
    (hworker : s.worker = .answered read wait total) :
    ∃ happenings worker,
      (s.hearing happenings).Mirrors (m.rest deadline wait st).station ∧
        Plays m c s ((s.hearing happenings).working worker) (m.rest deadline wait st).did.deeds ∧
        ((m.rest deadline wait st).value = .error .abandoned ∨
          worker =
            .afterPause m.budget (m.rest deadline wait st).value read wait total) := by
  have hdeeds := m.rest_deeds deadline wait st
  let happenings := (m.site.pause wait (m.pollWatch deadline st) st.site).1.happenings
  have hafter : (s.hearing happenings).Mirrors (m.rest deadline wait st).station := by
    have hpaused : s.Mirrors ({ st with
        site := (m.site.pause wait (m.pollWatch deadline st) st.site).2 } : Station σ) :=
      ⟨hmirrors.listed, hmirrors.current⟩
    have hstation : (m.rest deadline wait st).station = _ := Act.pause_station m.site wait _ st
    rw [hstation]
    exact hpaused.hearing happenings
  have hpauses := plays_pause (m := m) (c := c) hmirrors hworker happenings
  -- A pause that is not waited for any longer leaves the worker where it pauses.
  by_cases habandoned : (m.rest deadline wait st).value = .error .abandoned
  · refine ⟨happenings, .pausing s.raised read wait total, hafter, ?_, .inl habandoned⟩
    rw [hdeeds, habandoned]
    exact hpauses
  · have hobeys : s.raised = true →
        (m.rest deadline wait st).value = .error (.failed .interrupted) := fun hraised =>
      rest_value_of_raised hafter (by simp [State.hearing, hraised])
    have hdeed : (m.rest deadline wait st).did.deeds =
        (Event.wakes wait (m.rest deadline wait st).value).deed?.toList := by
      rw [hdeeds]
      cases (m.rest deadline wait st).value <;> rfl
    refine ⟨happenings, _, hafter, ?_, .inr rfl⟩
    rw [hdeed]
    exact hpauses.trans (.of_move (.wakes rfl habandoned hobeys))

/-- The worker comes to a result, or whoever waits for it does not wait any longer. -/
def Results (m : Monitor σ) (c : Command) (s : State) (result : Except Break Job.Status)
    (did : Transcript) : Prop :=
  ∃ happenings worker,
    Plays m c s ((s.hearing happenings).working worker) did ∧
      (result = .error .abandoned ∨ worker = .ended result)

theorem Results.of_plays {happenings : List Happening} {result : Except Break Job.Status}
    {did : Transcript}
    (hplays : Plays m c s ((s.hearing happenings).working (.ended result)) did) :
    Results m c s result did :=
  ⟨happenings, _, hplays, .inr rfl⟩

theorem Results.of_abandoned {happenings : List Happening} {worker : Worker} {did : Transcript}
    (hplays : Plays m c s ((s.hearing happenings).working worker) did) :
    Results m c s (.error .abandoned) did :=
  ⟨happenings, worker, hplays, .inl rfl⟩

theorem Results.prepend {happenings : List Happening} {worker : Worker} {did later : Transcript}
    {result : Except Break Job.Status}
    (hplays : Plays m c s ((s.hearing happenings).working worker) did)
    (hresults : Results m c ((s.hearing happenings).working worker) result later) :
    Results m c s result (did ++ later) := by
  obtain ⟨others, last, hlater, hresult⟩ := hresults
  refine ⟨happenings ++ others, last, ?_, hresult⟩
  rw [← State.hearing_hearing]
  exact hplays.trans hlater

/-- What a round of the worker comes to. -/
def PlaysRound (m : Monitor σ) (c : Command) (s : State) (total : Nat)
    (step : Step σ (Monitor.Round Output.Status Job.Status)) : Prop :=
  match step.value with
  | .ended result => Results m c s result step.did.deeds
  | .rested next wait =>
    ∃ happenings,
      (s.hearing happenings).Mirrors step.station ∧
        Plays m c s
          ((s.hearing happenings).working (.afterPause m.budget (.ok ()) next wait.val total))
          step.did.deeds

theorem break?_of_notYet {answer : Course Ending} {next : Output.Status}
    (hverdict : answer.verdict read = .notYet next) : answer.break? = none := by
  unfold Course.verdict at hverdict
  split at hverdict
  · simp at hverdict
  · assumption

/-- An attempt that settles nothing. -/
theorem plays_attempt (hinterrupts : m.site.Interrupts) (hmirrors : s.Mirrors st)
    (hworker : s.worker = .ready read previous total) {next : Output.Status}
    (hverdict :
      (m.answer deadline (m.base.status read.jobId) (m.drawn previous st).station).verdict read =
        .notYet next) :
    ∃ happenings,
      (s.hearing happenings).Mirrors
          (m.attemptStatus deadline read (m.drawn previous st).station).station ∧
        Plays m c s
          ((s.hearing happenings).working
            (.answered next (m.drawn previous st).value.val total))
          (m.attemptStatus deadline read (m.drawn previous st).station).did.deeds := by
  rw [m.attemptStatus_deeds, m.attemptStatus_station _ _ _ (break?_of_notYet hverdict)]
  exact ⟨_, (hmirrors.drawn previous).asked _,
    plays_answer hinterrupts hmirrors hworker hverdict (by simp)⟩

/-- What a round comes to whose attempt settled nothing: the end of its pause decides. -/
theorem playsRound_of_answered (deadline : Nat) {happenings : List Happening}
    {next : Output.Status} {wait : Backoff.Wait} {did : Transcript}
    (hasked : (s.hearing happenings).Mirrors st)
    (hplays :
      Plays m c s ((s.hearing happenings).working (.answered next wait.val total)) did.deeds) :
    let rested := m.rest deadline wait.val st
    PlaysRound m c s total
      (match rested.value with
      | .error b => ⟨.ended (.error b), did ++ rested.did, rested.station⟩
      | .ok () => ⟨.rested next wait, did ++ rested.did, rested.station⟩) := by
  intro rested
  obtain ⟨later, worker, hafter, hrests, hvalue⟩ :=
    plays_rest (c := c) deadline (hasked.working (.answered next wait.val total)) rfl
  cases hrested : rested.value with
  | error b =>
      have hresults : Results m c _ (.error b) _ :=
        ⟨later, worker, hrests, by simpa [rested, hrested, Worker.afterPause] using hvalue⟩
      rw [PlaysRound]
      simp only [Transcript.deeds_append]
      exact hresults.prepend hplays
  | ok done =>
      obtain rfl : worker = .afterPause m.budget (.ok ()) next wait.val total := by
        simpa [rested, hrested] using hvalue
      rw [PlaysRound]
      simp only [Transcript.deeds_append]
      refine ⟨happenings ++ later, ?_, ?_⟩
      · rw [← State.hearing_hearing]
        exact ⟨hafter.listed, hafter.current⟩
      · rw [← State.hearing_hearing]
        exact hplays.trans hrests

theorem playsRound_round (deadline : Nat) (hinterrupts : m.site.Interrupts)
    (hmirrors : s.Mirrors st) (hworker : s.worker = .ready read previous total) :
    PlaysRound m c s total (m.round deadline (m.attemptStatus deadline) read previous st) := by
  have hdeeds := m.attemptStatus_deeds deadline read (m.drawn previous st).station
  rw [Monitor.round_apply]
  simp only [Monitor.attemptStatus_value]
  cases hverdict : (m.answer deadline (m.base.status read.jobId)
      (m.drawn previous st).station).verdict read with
  | settled status =>
      have hplays := plays_answer (c := c) hinterrupts hmirrors hworker hverdict (by simp)
      rw [← hdeeds] at hplays
      exact Results.of_plays hplays
  | broke b =>
      by_cases habandoned : b = .abandoned
      · subst habandoned
        have hplays := plays_query (m := m) (c := c) hmirrors hworker []
        rw [← hdeeds] at hplays
        exact Results.of_abandoned hplays
      · have hplays := plays_answer (c := c) hinterrupts hmirrors hworker hverdict
          (by simpa using habandoned)
        rw [← hdeeds] at hplays
        exact Results.of_plays hplays
  | notYet next =>
      obtain ⟨happenings, hasked, hplays⟩ :=
        plays_attempt (c := c) hinterrupts hmirrors hworker hverdict
      exact playsRound_of_answered deadline hasked hplays

theorem results_pollFrom (hinterrupts : m.site.Interrupts) (hmirrors : s.Mirrors st)
    (hworker : s.worker = .ready read previous total) :
    Results m c s
      (m.pollFrom deadline (m.attemptStatus deadline) read previous total st).value
      (m.pollFrom deadline (m.attemptStatus deadline) read previous total st).did.deeds := by
  induction hleft : m.budget - total using Nat.strongRecOn
    generalizing s st read previous total with
  | ind left ih =>
      have hplays := playsRound_round (c := c) deadline hinterrupts hmirrors hworker
      cases hround : m.round deadline (m.attemptStatus deadline) read previous st with
      | mk value did station =>
          rw [hround] at hplays
          cases value with
          | ended result =>
              rw [Monitor.pollFrom_of_ended hround]
              exact hplays
          | rested next wait =>
              obtain ⟨happenings, hafter, hplays⟩ := hplays
              by_cases hspent : m.budget ≤ Backoff.saturate (total + wait.val)
              · rw [Monitor.pollFrom_of_exhausted hround hspent]
                rw [Worker.afterPause, if_pos hspent] at hplays
                exact .of_plays hplays
              · rw [Monitor.pollFrom_of_rested hround hspent, Transcript.deeds_append]
                rw [Worker.afterPause, if_neg hspent] at hplays
                have hshorter := Monitor.budget_sub_lt wait.property m.budget_lt hspent
                rw [hleft] at hshorter
                exact (ih _ hshorter (hafter.working _) rfl rfl).prepend hplays

end Polling

/-! ## The caller -/

section Calling

variable {jobId : String} {course : Course Ending} {outcome : Outcome}

theorem plays_handOver (hinterrupts : m.site.Interrupts) (hmirrors : s.Mirrors st)
    (hcaller : s.caller = .submitted) (hsubmission : s.submission = some course)
    (hsubmits : course.Submits jobId) (haccepting : s.accepting = true)
    (hthere : st.accepting = true) :
    ∃ t,
      Plays m c s t
          (m.handOver m.attemptStatus ⟨jobId, .unknown, .notComplete⟩ st).did.deeds ∧
        t.caller =
          .concluding (m.handOver m.attemptStatus ⟨jobId, .unknown, .notComplete⟩ st).value ∧
        t.submission = s.submission := by
  rw [Monitor.handOver_value_of_accepting m _ _ _ hthere,
    Monitor.handOver_deeds_of_accepting m _ _ _ hthere]
  let read : Output.Status := ⟨jobId, .unknown, .notComplete⟩
  let ready : State := { s with caller := .waiting, worker := .ready read 0 0 }
  have hread := (Course.isJobName hsubmits.named).start_eq
  have hready : Plays m c s ready [] :=
    (Plays.of_move (.handsOver hcaller hsubmission hsubmits hread haccepting)).trans
      (.of_move (.takes rfl))
  have hpolls : Results m c ready (m.poll (m.deadline st) _ read st).value _ :=
    results_pollFrom hinterrupts ⟨hmirrors.listed, hmirrors.current⟩ rfl
  obtain ⟨happenings, worker, hpolled, habandoned | rfl⟩ := hpolls
  · have hexpires : Plays m c s _ _ := (hready.trans hpolled).trans (.of_move (.expires rfl))
    have hraises := hexpires.trans (.of_move (.raises rfl))
    rw [habandoned]
    simp only [Event.deed?, Option.toList_none, List.append_nil, List.nil_append] at hraises
    exact ⟨_, hraises, rfl, rfl⟩
  · have hdelivers : Plays m c s _ _ := (hready.trans hpolled).trans (.of_move (.delivers rfl))
    have hreceives := hdelivers.trans (.of_move (.receives rfl rfl))
    simp only [Event.deed?, Option.toList_none, List.append_nil, List.nil_append] at hreceives
    exact ⟨_, hreceives, rfl, rfl⟩

/-- A job that is given up is aborted, and the caller returns. -/
theorem plays_settling (hcaller : s.caller = .settling outcome) :
    ∃ t,
      Plays m c s t (if outcome.isGivenUp then Monitor.aborts m.base s.jobId? else []) ∧
        t.caller = .home outcome := by
  have hleaves (hleft : outcome.isGivenUp = false ∨ s.jobId? = none) :
      ∃ t, Plays m c s t [] ∧ t.caller = .home outcome :=
    ⟨_, (Plays.of_move (.leaves hcaller hleft)).trans (.of_move (.finishes rfl)), rfl⟩
  cases hgivenUp : outcome.isGivenUp with
  | false => exact hleaves (.inl hgivenUp)
  | true =>
      cases hnamed : s.jobId? with
      | none => exact hleaves (.inr hnamed)
      | some id =>
          have hended : (⟨[], some (.exited .finished)⟩ : Course Ending).ending ≠ none := by simp
          have haborts := Plays.of_move (.aborts (m := m) (c := c) hcaller hgivenUp hnamed)
          have haborted := haborts.trans (.of_move (.aborted rfl hended (by simp)))
          exact ⟨_, haborted.trans (.of_move (.finishes rfl)), rfl⟩

/-- The caller concludes from the result of the wait, and returns. -/
theorem plays_concluding {result : Except Failure Job.Status}
    (hcaller : s.caller = .concluding result) (hnamed : s.jobId? = some jobId) :
    ∃ t,
      Plays m c s t
          (if (Monitor.concluded jobId result).isGivenUp then [.ran (m.base.abort jobId)]
            else []) ∧
        t.caller = .home (Monitor.concluded jobId result) := by
  let settling : State := { s with caller := .settling (Monitor.concluded jobId result) }
  have hconcludes : Plays m c s settling [] := .of_move (.concludes hcaller hnamed)
  obtain ⟨t, hsettles, hhome⟩ := plays_settling (m := m) (c := c) (s := settling) rfl
  have hnamed' : settling.jobId? = some jobId := hnamed
  rw [hnamed'] at hsettles
  exact ⟨t, hconcludes.trans hsettles, hhome⟩

end Calling

/-! ## Whole submissions -/

theorem plays_submission (hended : (m.submission c st).ending ≠ none)
    (hsound : (m.submission c st).ending ≠ some .brokeDown) :
    ∃ s,
      Plays m c (.start st.accepting) s [.ran c] ∧ s.caller = .submitted ∧
        s.submission = some (m.submission c st) ∧ s.accepting = st.accepting ∧
        s.Mirrors (m.afterSubmission c st) := by
  let submitting : State :=
    { State.start st.accepting with caller := .submitting false, listed := true }
  let happenings := (m.submission c st).happenings
  have hsubmits : Plays m c (.start st.accepting) submitting [.ran c] :=
    (Plays.of_move (.begins rfl)).trans (.of_move (.submits rfl))
  have hheard := hsubmits.trans (plays_hearing submitting rfl happenings)
  have hobeys : (m.submission c st).Obeys false := ⟨hended, by simp⟩
  have hmirrors : submitting.Mirrors
      ({ st with
          site := (m.site.run c (.on (some .fresh) none) st.site).2
          current := some .fresh } : Station σ) := ⟨rfl, rfl⟩
  have hafter := hmirrors.hearing happenings
  exact ⟨_, hheard.trans (.of_move (.submitted rfl hobeys hsound)), rfl, rfl, rfl, hafter.listed,
    hafter.current⟩

section Submitted

variable {jobId : String} {course : Course Ending} (hcaller : s.caller = .submitted)
  (hsubmission : s.submission = some course)
include hcaller hsubmission

theorem plays_passing (hsubmits : ∀ jobId, ¬ course.Submits jobId) :
    ∃ t,
      Plays m c s t
          (if (Monitor.unfollowed course.ending).isGivenUp then Monitor.aborts m.base course.jobId?
            else []) ∧
        t.caller = .home (Monitor.unfollowed course.ending) := by
  let settling : State := { s with caller := .settling (Monitor.unfollowed course.ending) }
  have hpasses : Plays m c s settling [] := .of_move (.passes hcaller hsubmission hsubmits)
  have hnamed : settling.jobId? = course.jobId? := by
    simp [settling, State.jobId?, hsubmission]
  obtain ⟨t, hsettles, hhome⟩ := plays_settling (m := m) (c := c) (s := settling) rfl
  rw [hnamed] at hsettles
  exact ⟨t, hpasses.trans hsettles, hhome⟩

theorem plays_following (hinterrupts : m.site.Interrupts) (hmirrors : s.Mirrors st)
    (hsubmits : course.Submits jobId) (haccepting : s.accepting = st.accepting) :
    ∃ t,
      Plays m c s t (m.follow m.attemptStatus jobId st).did.deeds ∧
        t.caller = .home (m.follow m.attemptStatus jobId st).value := by
  have hid := Course.isJobName hsubmits.named
  rw [Monitor.follow_deeds _ _ _ _ hid, Monitor.follow_value _ _ _ _ hid]
  obtain ⟨t, hhands, hconcluding, hkept⟩ :
      ∃ t,
        Plays m c s t
            (m.handOver m.attemptStatus ⟨jobId, .unknown, .notComplete⟩ st).did.deeds ∧
          t.caller =
            .concluding (m.handOver m.attemptStatus ⟨jobId, .unknown, .notComplete⟩ st).value ∧
          t.submission = s.submission := by
    cases hthere : st.accepting with
    | true =>
        exact plays_handOver hinterrupts hmirrors hcaller hsubmission hsubmits
          (haccepting.trans hthere) hthere
    | false =>
        rw [Monitor.handOver_of_not_accepting m _ _ _ hthere]
        exact ⟨_, .of_move (.isRefused hcaller hsubmission hsubmits hid.start_eq
          (haccepting.trans hthere)), rfl, rfl⟩
  have hnamed : t.jobId? = some jobId := by
    simp [State.jobId?, hkept, hsubmission, hsubmits.named]
  obtain ⟨u, hconcludes, hhome⟩ := plays_concluding (m := m) (c := c) hconcluding hnamed
  exact ⟨u, hhands.trans hconcludes, hhome⟩

end Submitted

/-- Every submission is played: some run of caller and worker has its deeds and its outcome. -/
theorem plays_submit (hinterrupts : m.site.Interrupts) (hended : (m.submission c st).ending ≠ none)
    (hsound : (m.submission c st).ending ≠ some .brokeDown) :
    ∃ t,
      Plays m c (.start st.accepting) t (m.submit c st).did.deeds ∧
        t.caller = .home (m.submit c st).value := by
  obtain ⟨s, hplays, hcaller, hsubmission, haccepting, hmirrors⟩ :=
    plays_submission hended hsound
  by_cases hfollows : ∃ jobId, m.Follows jobId c st
  · obtain ⟨jobId, hfollows⟩ := hfollows
    obtain ⟨hvalue, hdeeds⟩ := hfollows.submit_eq
    obtain ⟨t, hlater, hhome⟩ :=
      plays_following (c := c) hcaller hsubmission hinterrupts hmirrors
        ⟨hfollows.exited, hfollows.named⟩ (by simpa using haccepting)
    rw [hvalue, hdeeds]
    exact ⟨t, hplays.trans hlater, hhome⟩
  · rw [not_exists] at hfollows
    obtain ⟨hvalue, hdeeds⟩ := Monitor.submit_of_not_follows hfollows
    obtain ⟨t, hlater, hhome⟩ :=
      plays_passing (m := m) (c := c) hcaller hsubmission fun jobId hsubmits =>
        hfollows jobId ⟨hsubmits.exited, hsubmits.named⟩
    rw [hdeeds, hvalue]
    exact ⟨t, hplays.trans hlater, hhome⟩

end Interleaving

end SprayWatch
