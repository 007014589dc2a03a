import SprayWatch.Proofs.ConfigTimes
import SprayWatch.Proofs.StatusReaders

/-!
# The outcome of a job

A run that is left alone ends with the first answer that tells of an end of the job, if that answer
comes in time, and succeeds if the answer tells of success.  Each answer counts by itself: the last
line in it that tells a state of the job decides, and what earlier answers told does not matter.  The
longest wait is kept in 64 bits; of one that they do not hold, less is left than was asked for.
-/

namespace SprayWatch

theorem Job.State.status_eq_success {state : Job.State} :
    state.status = .success ↔ state ∈ [finished, monitoring] := by
  cases state <;> decide

theorem Job.State.status_eq_failure {state : Job.State} :
    state.status = .failure ↔ state ∈ [unknown, aborted, failed, aborting, deleted] := by
  cases state <;> decide

def Course.state? (answer : Course Ending) (jobId : String) : Option Job.State :=
  Output.Status.lastState? jobId answer.lines

/-- An answer is successful and tells of no end of the job. -/
structure Course.GoesOn (answer : Course Ending) (jobId : String) : Prop where
  exited : answer.ending = some (.exited .finished)
  told :
    answer.state? jobId ∈ [none, some Job.State.scheduled, some .queued, some .started]

theorem Course.status_eq_success {answer : Course Ending} {jobId : String} :
    answer.status jobId = .success ↔
      ∃ state ∈ [Job.State.finished, .monitoring], answer.state? jobId = some state := by
  unfold Course.status Course.state?
  cases Output.Status.lastState? jobId answer.lines with
  | none => simp
  | some state => cases state <;> simp [Job.State.status]

theorem Course.status_eq_failure {answer : Course Ending} {jobId : String} :
    answer.status jobId = .failure ↔
      ∃ state ∈ [Job.State.unknown, .aborted, .failed, .aborting, .deleted],
        answer.state? jobId = some state := by
  unfold Course.status Course.state?
  cases Output.Status.lastState? jobId answer.lines with
  | none => simp
  | some state => cases state <;> simp [Job.State.status]

theorem Course.status_eq_notComplete {answer : Course Ending} {jobId : String} :
    answer.status jobId = .notComplete ↔
      answer.state? jobId ∈
        [none, some Job.State.scheduled, some .queued, some .started] := by
  unfold Course.status Course.state?
  cases Output.Status.lastState? jobId answer.lines with
  | none => simp
  | some state => cases state <;> simp [Job.State.status]

/-- A query that failed for another reason than how its command exited did so by its ending. -/
theorem Course.ending_of_break {answer : Course Ending} {f : Failure}
    (hprocess : ∀ o, f ≠ .processAbort o) (hbreak : answer.break? = some (.failed f)) :
    answer.ending = some (.failed f) := by
  cases hending : answer.ending with
  | none => simp [Course.break?, hending, Ending.outcome?] at hbreak
  | some ending =>
      cases ending with
      | exited o =>
          by_cases hfinished : o = .finished
          · simp [Course.break?_eq_none.mpr (hfinished ▸ hending)] at hbreak
          · rw [Course.break?_of_exited hending hfinished] at hbreak
            exact absurd (Break.failed.inj (Option.some.inj hbreak)).symm (hprocess o)
      | failed g => simpa [Course.break?, hending, Ending.outcome?] using hbreak
      | brokeDown => simp [Course.break?, hending, Ending.outcome?] at hbreak

namespace Monitor

variable {σ : Type}

/-! ## What an exchange brings -/

section Bringing

variable {e : Exchange} {jobId : String}

theorem Exchange.result?_eq_none :
    e.result? jobId = none ↔ e.answer.GoesOn jobId ∧ e.rested = .ok () := by
  constructor
  · intro hnone
    unfold Exchange.result? at hnone
    split at hnone
    next => simp at hnone
    next hbreak =>
      split at hnone
      next => simp at hnone
      next hpending =>
        split at hnone
        next => simp at hnone
        next hrested =>
          have hstatus : e.answer.status jobId = .notComplete :=
            isTerminal_eq_false.mp (by simpa using hpending)
          exact ⟨⟨Course.break?_eq_none.mp hbreak,
            Course.status_eq_notComplete.mp hstatus⟩, hrested⟩
  · rintro ⟨⟨hexited, htold⟩, hrested⟩
    simp [Exchange.result?, Course.break?_eq_none.mpr hexited,
      Course.status_eq_notComplete.mpr htold, Job.Status.isTerminal, hrested]

theorem Exchange.result?_eq_ok {status : Job.Status} :
    e.result? jobId = some (.ok status) ↔
      e.answer.ending = some (.exited .finished) ∧ e.answer.status jobId = status ∧
        status.isTerminal = true := by
  rw [← Course.break?_eq_none]
  unfold Exchange.result?
  cases e.answer.break? with
  | some b => simp
  | none =>
      cases hterminal : (e.answer.status jobId).isTerminal with
      | true =>
          simp only [if_true, Option.some.injEq, Except.ok.injEq, true_and]
          constructor
          · rintro rfl
            exact ⟨rfl, hterminal⟩
          · exact fun h => h.1
      | false =>
          simp only [Bool.false_eq_true, if_false, true_and]
          constructor
          · intro hrested
            split at hrested <;> simp at hrested
          · rintro ⟨rfl, htrue⟩
            simp [hterminal] at htrue

theorem Exchange.result?_eq_error {b : Break} :
    e.result? jobId = some (.error b) ↔
      e.answer.break? = some b ∨ e.answer.GoesOn jobId ∧ e.rested = .error b := by
  unfold Exchange.result?
  cases hbreak : e.answer.break? with
  | some other =>
      have hends : ¬ e.answer.GoesOn jobId := by
        intro hgoesOn
        rw [Course.break?_eq_none.mpr hgoesOn.exited] at hbreak
        simp at hbreak
      simp [hends]
  | none =>
      have hexited := Course.break?_eq_none.mp hbreak
      cases hterminal : (e.answer.status jobId).isTerminal with
      | true =>
          have hends : ¬ e.answer.GoesOn jobId := by
            intro hgoesOn
            rw [Course.status_eq_notComplete.mpr hgoesOn.told] at hterminal
            simp [Job.Status.isTerminal] at hterminal
          simp [hends]
      | false =>
          have hgoesOn : e.answer.GoesOn jobId :=
            ⟨hexited, Course.status_eq_notComplete.mp (isTerminal_eq_false.mp hterminal)⟩
          cases e.rested with
          | error other => simp [hgoesOn]
          | ok done => simp

end Bringing

/-! ## Pauses -/

section Pauses

variable (m : Monitor σ) (deadline : Nat) (query : Command)

theorem exchanges_rested_error {previous k : Nat} {s : Station σ} {b : Break}
    (hbroke : (m.exchanges deadline query previous s k).rested = .error b) :
    b = .failed .interrupted ∨ b = .abandoned := by
  induction k generalizing previous s with
  | zero => exact Act.pause_error _ _ _ _ hbroke
  | succ k ih => exact ih hbroke

/-- The signal stays down while nobody asks to stop, and then pauses are completed. -/
theorem exchanges_rested_ok {previous k : Nat} {s : Station σ}
    (hfresh : s.current.any Signal.raised = false)
    (hanswer : ∀ j ≤ k, (m.exchanges deadline query previous s j).answer.Calm)
    (hpause : ∀ j ≤ k, (m.exchanges deadline query previous s j).pause.Calm) :
    (m.exchanges deadline query previous s k).rested = .ok () := by
  induction k generalizing previous s with
  | zero =>
      have hasked : m.asked deadline query (m.drawn previous s).station = _ :=
        Station.after_of_not_mem _ (hanswer 0 le_rfl).1
      refine Act.pause_ok_of_calm _ _ _ _ ?_ (hpause 0 le_rfl)
      rw [hasked]
      exact hfresh
  | succ k ih =>
      refine ih ?_ (fun j hj => hanswer (j + 1) (by omega))
        fun j hj => hpause (j + 1) (by omega)
      have hasked : m.asked deadline query (m.drawn previous s).station = _ :=
        Station.after_of_not_mem _ (hanswer 0 (Nat.zero_le _)).1
      have hrested : (m.exchange deadline query previous s).2 = _ :=
        (Act.pause_station _ _ _ _).trans
          (Station.after_of_not_mem _ (hpause 0 (Nat.zero_le _)).1)
      rw [hrested]
      change (m.asked deadline query (m.drawn previous s).station).current.any _ = _
      rw [hasked]
      exact hfresh

end Pauses

/-! ## Answers in time -/

/-- Exchange number `n` is waited for: the answers before it tell of no end, and the pauses before
it leave something of the budget. -/
structure Awaited (exchanges : Nat → Exchange) (jobId : String) (budget n : Nat) : Prop where
  goesOn : ∀ k < n, (exchanges k).answer.GoesOn jobId
  inTime : spent exchanges n < budget

theorem Awaited.of_lt {exchanges : Nat → Exchange} {jobId : String} {budget k n : Nat}
    (hawaited : Awaited exchanges jobId budget n) (hlt : k < n) :
    Awaited exchanges jobId budget k :=
  ⟨fun j hj => hawaited.goesOn j (by omega),
    Nat.lt_of_le_of_lt (spent_mono exchanges (Nat.le_of_lt hlt)) hawaited.inTime⟩

theorem ReachedBy.awaited {exchanges : Nat → Exchange} {jobId : String} {budget longest n : Nat}
    (hreached : ReachedBy (fun e => e.result? jobId) exchanges budget n) (hpos : 0 < longest)
    (hle : budget ≤ longest) : Awaited exchanges jobId longest n :=
  ⟨fun k hk => (Exchange.result?_eq_none.mp (hreached k hk).1).1, hreached.spent_lt hpos hle⟩

/-- Exchange number `n` of a run is waited for, and its answer is successful and tells a state
last. -/
structure Answered (m : Monitor σ) (jobId : String) (c : Command) (s : Station σ) (n : Nat)
    (state : Job.State) : Prop extends m.Follows jobId c s where
  awaited : Awaited (m.statusExchanges jobId c s) jobId m.maxWait n
  answered : (m.statusExchanges jobId c s n).answer.ending = some (.exited .finished)
  told : (m.statusExchanges jobId c s n).answer.state? jobId = some state

/-- Exchange number `n` of a run is waited for, and the query in it fails. -/
structure QueryFails (m : Monitor σ) (jobId : String) (c : Command) (s : Station σ) (n : Nat)
    (f : Failure) : Prop extends m.Follows jobId c s where
  awaited : Awaited (m.statusExchanges jobId c s) jobId m.maxWait n
  fails : (m.statusExchanges jobId c s n).answer.ending = some (.failed f)

/-- A run is left alone: nobody asks to stop, and the wait for its poll does not expire. -/
structure LeftAlone (m : Monitor σ) (c : Command) (s : Station σ) : Prop where
  submission : (m.submission c s).Calm
  answer :
    ∀ jobId n, m.Follows jobId c s →
      Awaited (m.statusExchanges jobId c s) jobId m.maxWait n →
      (m.statusExchanges jobId c s n).answer.Calm
  pause :
    ∀ jobId n, m.Follows jobId c s →
      Awaited (m.statusExchanges jobId c s) jobId m.maxWait n →
      (m.statusExchanges jobId c s n).answer.GoesOn jobId →
      (m.statusExchanges jobId c s n).pause.Calm

section Outcomes

variable {m : Monitor σ} {c : Command} {s : Station σ} {jobId : String} {n : Nat}

theorem LeftAlone.reached (halone : m.LeftAlone c s) (hfollows : m.Follows jobId c s)
    (hmax : m.maxWait < Backoff.wordCount)
    (hawaited : Awaited (m.statusExchanges jobId c s) jobId m.maxWait n) :
    ReachedBy (fun e => e.result? jobId) (m.statusExchanges jobId c s) m.budget n := by
  rw [budget_eq hmax]
  refine reachedBy_of_spent_lt (fun k hk => ?_) hawaited.inTime
  refine Exchange.result?_eq_none.mpr ⟨hawaited.goesOn k hk, ?_⟩
  have hfresh : (m.afterSubmission c s).current.any Signal.raised = false := by
    unfold afterSubmission
    rw [Station.after_of_not_mem _ halone.submission.1]
    rfl
  refine m.exchanges_rested_ok _ _ hfresh (fun j hj => ?_) fun j hj => ?_
  · exact halone.answer jobId j hfollows (hawaited.of_lt (by omega))
  · exact halone.pause jobId j hfollows (hawaited.of_lt (by omega))
      (hawaited.goesOn j (by omega))

theorem Answered.submit {state : Job.State} (hanswered : m.Answered jobId c s n state)
    (haccepting : s.accepting = true) (hmax : m.maxWait < Backoff.wordCount)
    (halone : m.LeftAlone c s) (hterminal : state.status.isTerminal = true) :
    (m.submit c s).value = concluded jobId (.ok state.status) ∧
      (m.submit c s).did.deeds =
        .ran c ::
          Transcript.queries (m.base.status jobId)
            (waitsOf (m.statusExchanges jobId c s) n) true := by
  have hfollows := hanswered.toFollows
  have hstatus : (m.statusExchanges jobId c s n).answer.status jobId = state.status := by
    have htold := hanswered.told
    unfold Course.state? at htold
    simp [Course.status, htold]
  have hbrought : (m.statusExchanges jobId c s n).result? jobId = some (.ok state.status) :=
    Exchange.result?_eq_ok.mpr ⟨hanswered.answered, hstatus, hterminal⟩
  have hreached := halone.reached hfollows hmax hanswered.awaited
  obtain ⟨hvalue, hdeeds⟩ :=
    hfollows.submit_of_closesBy haccepting (.brought hreached hbrought)
  constructor
  · exact hvalue
  · have hdone : (concluded jobId (.ok state.status)).isGivenUp = false := by
      cases state.status <;> rfl
    rw [hdeeds, hvalue, handed, hdone, deedsBy_of_result hbrought]
    simp

theorem ClosesBy.of_ok {exchanges : Nat → Exchange} {budget longest : Nat} {status : Job.Status}
    (hcloses : ClosesBy (fun e => e.result? jobId) exchanges budget n (.ok status))
    (hpos : 0 < longest) (hle : budget ≤ longest) :
    Awaited exchanges jobId longest n ∧
      (exchanges n).answer.ending = some (.exited .finished) ∧
      (exchanges n).answer.status jobId = status ∧ status.isTerminal = true := by
  cases hcloses with
  | brought hreached hresult =>
      exact ⟨hreached.awaited hpos hle, Exchange.result?_eq_ok.mp hresult⟩

theorem concluded_handed_eq_completed {result : Except Break Job.Status}
    {status : Job.Status} :
    concluded jobId (handed result) = .completed status ↔
      result = .ok .success ∧ status = .success := by
  cases result with
  | ok known =>
      cases known with
      | success => simp [handed, concluded, eq_comm]
      | failure => simp [handed, concluded]
      | notComplete => simp [handed, concluded]
  | error b =>
      cases b with
      | failed f => cases f <;> simp [handed, concluded, Failure.isAbort]
      | lost => simp [handed, concluded, Failure.isAbort]
      | abandoned => simp [handed, concluded]

theorem concluded_handed_eq_remoteJobFailure {result : Except Break Job.Status}
    {other : String} :
    concluded jobId (handed result) = .failed (.remoteJobFailure other) ↔
      (result = .ok .failure ∨ result = .ok .notComplete) ∧ jobId = other ∨
        result = .error (.failed (.remoteJobFailure other)) := by
  cases result with
  | ok known =>
      cases known with
      | success => simp [handed, concluded]
      | failure => simp [handed, concluded]
      | notComplete => simp [handed, concluded]
  | error b =>
      cases b with
      | failed f => cases f <;> simp [handed, concluded, Failure.isAbort]
      | lost => simp [handed, concluded, Failure.isAbort]
      | abandoned => simp [handed, concluded]

theorem unfollowed_ne_completed (ending : Option Ending) (status : Job.Status) :
    unfollowed ending ≠ .completed status := by
  unfold unfollowed
  split <;> simp

theorem unfollowed_eq_remoteJobFailure {ending : Option Ending} {other : String} :
    unfollowed ending = .failed (.remoteJobFailure other) ↔
      ending = some (.failed (.remoteJobFailure other)) := by
  unfold unfollowed
  split <;> simp_all

theorem exists_answered_of_completed {status : Job.Status} (haccepting : s.accepting = true)
    (hpos : 0 < m.maxWait)
    (hcompleted : (m.submit c s).value = .completed status) :
    ∃ jobId n, ∃ state ∈ [Job.State.finished, .monitoring],
      m.Answered jobId c s n state := by
  by_cases hfollows : ∃ jobId, m.Follows jobId c s
  · obtain ⟨jobId, hfollows⟩ := hfollows
    obtain ⟨n, result, hcloses, hvalue, -⟩ := hfollows.submit_of_accepting haccepting
    rw [hcompleted] at hvalue
    obtain ⟨rfl, -⟩ := concluded_handed_eq_completed.mp hvalue.symm
    obtain ⟨hawaited, hanswered, hstatus, -⟩ := hcloses.of_ok hpos m.budget_le
    obtain ⟨state, hmem, htold⟩ := Course.status_eq_success.mp hstatus
    exact ⟨jobId, n, state, hmem, hfollows, hawaited, hanswered, htold⟩
  · obtain ⟨hvalue, -⟩ := submit_of_not_follows (not_exists.mp hfollows)
    exact absurd (hvalue.symm.trans hcompleted) (unfollowed_ne_completed _ _)

theorem eq_success_of_completed {status : Job.Status}
    (hcompleted : (m.submit c s).value = .completed status) : status = .success := by
  by_cases hfollows : ∃ jobId, m.Follows jobId c s
  · obtain ⟨jobId, hfollows⟩ := hfollows
    cases haccepting : s.accepting with
    | true =>
        obtain ⟨n, result, -, hvalue, -⟩ := hfollows.submit_of_accepting haccepting
        exact (concluded_handed_eq_completed.mp (hvalue.symm.trans hcompleted)).2
    | false =>
        obtain ⟨hvalue, -⟩ := hfollows.submit_of_not_accepting haccepting
        simp [hvalue] at hcompleted
  · obtain ⟨hvalue, -⟩ := submit_of_not_follows (not_exists.mp hfollows)
    exact absurd (hvalue.symm.trans hcompleted) (unfollowed_ne_completed _ _)

theorem of_remoteJobFailure {other : String} (haccepting : s.accepting = true)
    (hpos : 0 < m.maxWait)
    (hfailed : (m.submit c s).value = .failed (.remoteJobFailure other)) :
    (∃ n, ∃ state ∈ [Job.State.unknown, .aborted, .failed, .aborting, .deleted],
      m.Answered other c s n state) ∨
    (m.submission c s).ending = some (.failed (.remoteJobFailure other)) ∨
    ∃ jobId n, m.QueryFails jobId c s n (.remoteJobFailure other) := by
  by_cases hfollows : ∃ jobId, m.Follows jobId c s
  · obtain ⟨jobId, hfollows⟩ := hfollows
    obtain ⟨n, result, hcloses, hvalue, -⟩ := hfollows.submit_of_accepting haccepting
    rw [hfailed] at hvalue
    rcases concluded_handed_eq_remoteJobFailure.mp hvalue.symm with ⟨hresult, rfl⟩ | rfl
    · left
      rcases hresult with rfl | rfl
      · obtain ⟨hawaited, hanswered, hstatus, -⟩ := hcloses.of_ok hpos m.budget_le
        obtain ⟨state, hmem, htold⟩ := Course.status_eq_failure.mp hstatus
        exact ⟨n, state, hmem, hfollows, hawaited, hanswered, htold⟩
      · obtain ⟨-, -, -, hterminal⟩ := hcloses.of_ok hpos m.budget_le
        simp [Job.Status.isTerminal] at hterminal
    · right; right
      cases hcloses with
      | brought hreached hresult =>
          rcases Exchange.result?_eq_error.mp hresult with hbreak | ⟨-, hbroke⟩
          · exact ⟨jobId, n, hfollows, hreached.awaited hpos m.budget_le,
              Course.ending_of_break (by simp) hbreak⟩
          · rcases m.exchanges_rested_error _ _ hbroke with h | h <;> simp at h
  · obtain ⟨hvalue, -⟩ := submit_of_not_follows (not_exists.mp hfollows)
    exact .inr (.inl (unfollowed_eq_remoteJobFailure.mp (hvalue.symm.trans hfailed)))

theorem QueryFails.submit {other : String}
    (hfails : m.QueryFails jobId c s n (.remoteJobFailure other))
    (haccepting : s.accepting = true) (hmax : m.maxWait < Backoff.wordCount)
    (halone : m.LeftAlone c s) :
    (m.submit c s).value = .failed (.remoteJobFailure other) := by
  have hfollows := hfails.toFollows
  have hbreak : (m.statusExchanges jobId c s n).answer.break? =
      some (.failed (.remoteJobFailure other)) := by
    simp [Course.break?, hfails.fails, Ending.outcome?]
  have hreached := halone.reached hfollows hmax hfails.awaited
  have hbrought : (m.statusExchanges jobId c s n).result? jobId = _ :=
    Exchange.result?_eq_error.mpr (.inl hbreak)
  exact (hfollows.submit_of_closesBy haccepting (.brought hreached hbrought)).1

section Deciding

variable (haccepting : s.accepting = true) (hmax : m.maxWait < Backoff.wordCount)
  (halone : m.LeftAlone c s)
include haccepting hmax halone

theorem completed_of_answered {state : Job.State}
    (hmem : state ∈ [Job.State.finished, .monitoring])
    (hanswered : m.Answered jobId c s n state) : (m.submit c s).value = .completed .success := by
  have hsuccess : state.status = .success := Job.State.status_eq_success.mpr hmem
  rw [(hanswered.submit haccepting hmax halone (by rw [hsuccess]; rfl)).1, hsuccess]
  rfl

theorem remoteJobFailure_of_answered {state : Job.State}
    (hmem : state ∈ [Job.State.unknown, .aborted, .failed, .aborting, .deleted])
    (hanswered : m.Answered jobId c s n state) :
    (m.submit c s).value = .failed (.remoteJobFailure jobId) := by
  have hfailure : state.status = .failure := Job.State.status_eq_failure.mpr hmem
  rw [(hanswered.submit haccepting hmax halone (by rw [hfailure]; rfl)).1, hfailure]
  rfl

end Deciding

theorem remoteJobFailure_of_submission {other : String}
    (hsubmission : (m.submission c s).ending = some (.failed (.remoteJobFailure other))) :
    (m.submit c s).value = .failed (.remoteJobFailure other) := by
  have hfollows : ∀ jobId, ¬ m.Follows jobId c s := by
    intro jobId hfollows
    have hexited := hfollows.exited
    simp [hsubmission] at hexited
  rw [(submit_of_not_follows hfollows).1]
  exact unfollowed_eq_remoteJobFailure.mpr hsubmission

end Outcomes

/-! ## Recitals -/

section Calm

variable {m : Monitor σ}
  (hrun : ∀ c watch state, (m.site.run c watch state).1.Calm)
  (hpause : ∀ ms watch state, (m.site.pause ms watch state).1.Calm)
include hrun hpause

theorem exchanges_calm (deadline : Nat) (query : Command) (previous : Nat) (s : Station σ)
    (n : Nat) :
    (m.exchanges deadline query previous s n).answer.Calm ∧
      (m.exchanges deadline query previous s n).pause.Calm := by
  induction n generalizing previous s with
  | zero => exact ⟨hrun _ _ _, hpause _ _ _⟩
  | succ n ih => exact ih _ _

theorem leftAlone_of_calm (c : Command) (s : Station σ) : m.LeftAlone c s :=
  ⟨hrun _ _ _, fun _ n _ _ => (exchanges_calm hrun hpause _ _ _ _ n).1,
    fun _ n _ _ _ => (exchanges_calm hrun hpause _ _ _ _ n).2⟩

end Calm

/-- A site where every command succeeds and says a line that depends on how many commands there
were before it. -/
def recital (line : Nat → String) : Site Nat where
  run := fun _ _ n => (⟨[.line (line n)], some (.exited .finished)⟩, n + 1)
  pause := fun _ _ n => (⟨[], some ()⟩, n)
  clock := fun _ => 0
  remove := fun _ n => (.ok (), n)
  localAddress := fun _ => .ok "127.0.0.1"

/-- A monitor for a job that is started at its first status query and finished at its second. -/
def reciting : Monitor Nat where
  site := recital fun n =>
    if n = 0 then "Submitted WUID D1"
    else if n = 1 then "D1 status: started"
    else "D1 Finished"
  base := .bare ⟨"dfuplus"⟩
  pollCeiling := 1001
  maxWait := 5000

def recited : Command := (Command.bare ⟨"dfuplus"⟩).arg "action=spray"

def silence : Station Nat := .start 0 ⟨[]⟩

theorem leftAlone_of_recital {m : Monitor Nat} {line : Nat → String}
    (hsite : m.site = recital line) (c : Command) (s : Station Nat) : m.LeftAlone c s := by
  refine leftAlone_of_calm (fun _ _ n => ?_) (fun _ _ n => ?_) c s
  · exact ⟨by simp [hsite, recital], by simp [hsite, recital]⟩
  · exact ⟨by simp [hsite, recital], by simp [hsite, recital]⟩

/-- The answer with the end of the job comes in time for whoever waits longer than one pause. -/
theorem reciting_answered {longest : Nat} (hlong : 1000 < longest) :
    ({ reciting with maxWait := longest } : Monitor Nat).Answered "D1" recited silence 1
      .finished := by
  have hnamed : (reciting.submission recited silence).jobId? = some "D1" := by decide +kernel
  refine ⟨⟨rfl, hnamed⟩, ⟨?_, hlong⟩, rfl, ?_⟩
  · intro k hk
    obtain rfl : k = 0 := by omega
    exact ⟨rfl, show Course.state? ⟨[.line "D1 status: started"], _⟩ "D1" ∈ _ by decide +kernel⟩
  · show Course.state? ⟨[.line "D1 Finished"], _⟩ "D1" = _
    decide +kernel

/-! ## Waits that 64 bits do not hold -/

/-- A monitor that is to wait for a millisecond longer than 64 bits can say. -/
def overlong (m : Monitor σ) : Monitor σ := { m with maxWait := Backoff.wordCount }

theorem budget_overlong (m : Monitor σ) : m.overlong.budget = 0 := Nat.mod_self _

/-- Nothing of such a wait is left after the first pause. -/
theorem overlong_closesBy {α : Type} (m : Monitor σ)
    {brings : Exchange → Option (Except Break α)} {exchanges : Nat → Exchange}
    (hpending : brings (exchanges 0) = none) :
    ClosesBy brings exchanges m.overlong.budget 0 (.error (.failed .timeoutExceeded)) := by
  refine .exhausted (fun k hk => absurd hk (Nat.not_lt_zero k)) hpending ?_
  rw [budget_overlong]
  exact Nat.zero_le _

/-! ## The outcome of a run -/

/-- The outcome of a run, by what its answers tell.  Whatever happens to the run, it does not
succeed, nor fail with its job, unless an answer in time tells so, or a command is said to have
failed in that way.  If the run is left alone and 64 bits hold its longest wait, as they do in every
configuration, then such an answer decides the outcome, and the queries are the ones up to this
answer. -/
theorem submit_outcome (m : Monitor σ) (c : Command) (s : Station σ)
    (haccepting : s.accepting = true) (hpos : 0 < m.maxWait) :
    let succeeds :=
      ∃ jobId n, ∃ state ∈ [Job.State.finished, .monitoring], m.Answered jobId c s n state
    let fails := fun jobId =>
      (∃ n, ∃ state ∈ [Job.State.unknown, .aborted, .failed, .aborting, .deleted],
        m.Answered jobId c s n state) ∨
      (m.submission c s).ending = some (.failed (.remoteJobFailure jobId)) ∨
      ∃ other n, m.QueryFails other c s n (.remoteJobFailure jobId)
    ((m.submit c s).value = .completed .success → succeeds) ∧
    (∀ jobId, (m.submit c s).value = .failed (.remoteJobFailure jobId) → fails jobId) ∧
    (∀ status, (m.submit c s).value = .completed status → status = .success) ∧
    m.submitBy m.attemptStatusAfresh c s = m.submit c s ∧
    (m.LeftAlone c s → m.maxWait < Backoff.wordCount →
      ((m.submit c s).value = .completed .success ↔ succeeds) ∧
      (∀ jobId, (m.submit c s).value = .failed (.remoteJobFailure jobId) ↔ fails jobId) ∧
      ∀ jobId n state, m.Answered jobId c s n state → state.status.isTerminal = true →
        (m.submit c s).did.deeds =
          .ran c ::
            Transcript.queries (m.base.withArgs ["wuid=" ++ jobId, "action=status"])
              (waitsOf (m.statusExchanges jobId c s) n) true) ∧
    ∀ isFile text config, Config.parse isFile text = .ok config → ∀ base,
      let made := (Executor.of m.site base config.monitor).monitor
      0 < made.maxWait ∧ made.maxWait < Backoff.wordCount ∧
        made.budget = config.monitor.maxWait := by
  intro succeeds fails
  have hsucceeds : (m.submit c s).value = .completed .success → succeeds :=
    exists_answered_of_completed haccepting hpos
  have hfails : ∀ jobId,
      (m.submit c s).value = .failed (.remoteJobFailure jobId) → fails jobId :=
    fun jobId => of_remoteJobFailure haccepting hpos
  refine ⟨hsucceeds, hfails, fun status => eq_success_of_completed, ?_, ?_, ?_⟩
  · rw [m.submitBy_attemptStatusAfresh]
  · intro halone hmax
    refine ⟨⟨hsucceeds, ?_⟩, fun jobId => ⟨hfails jobId, ?_⟩, ?_⟩
    · rintro ⟨jobId, n, state, hmem, hanswered⟩
      exact completed_of_answered haccepting hmax halone hmem hanswered
    · rintro (⟨n, state, hmem, hanswered⟩ | hsubmission | ⟨other, n, hqueryFails⟩)
      · exact remoteJobFailure_of_answered haccepting hmax halone hmem hanswered
      · exact remoteJobFailure_of_submission hsubmission
      · exact hqueryFails.submit haccepting hmax halone
    · intro jobId n state hanswered hterminal
      rw [(hanswered.submit haccepting hmax halone hterminal).2,
        hanswered.toFollows.isJobName.status_eq]
  · intro isFile text config hparse base
    exact Executor.budget_of_parse m.site base hparse

theorem submit_outcome_reciting :
    (silence.accepting = true ∧ 0 < reciting.maxWait ∧ reciting.LeftAlone recited silence ∧
      reciting.maxWait < Backoff.wordCount) ∧
    (reciting.submit recited silence).value = .completed .success := by
  have hpos : 0 < reciting.maxWait := by decide
  have hmax : reciting.maxWait < Backoff.wordCount := by decide
  have halone : reciting.LeftAlone recited silence := leftAlone_of_recital rfl recited silence
  refine ⟨⟨rfl, hpos, halone, hmax⟩, ?_⟩
  obtain ⟨-, -, -, -, houtcome, -⟩ := submit_outcome reciting recited silence rfl hpos
  obtain ⟨hcompleted, -⟩ := houtcome halone hmax
  exact hcompleted.mpr ⟨"D1", 1, .finished, by decide, reciting_answered (by decide)⟩

/-- The answer that tells of success comes too late for a wait that 64 bits do not hold. -/
theorem submit_overlong :
    (silence.accepting = true ∧ 0 < reciting.overlong.maxWait ∧
      reciting.overlong.LeftAlone recited silence ∧
      reciting.overlong.Answered "D1" recited silence 1 .finished) ∧
    (reciting.overlong.submit recited silence).value = .timedOut := by
  have hanswered : reciting.overlong.Answered "D1" recited silence 1 .finished :=
    reciting_answered (by decide)
  have hpending :
      (reciting.overlong.statusExchanges "D1" recited silence 0).result? "D1" = none :=
    Exchange.result?_eq_none.mpr ⟨hanswered.awaited.goesOn 0 Nat.zero_lt_one, rfl⟩
  exact ⟨⟨rfl, by decide, leftAlone_of_recital rfl recited silence, hanswered⟩,
    (hanswered.toFollows.submit_of_closesBy rfl (reciting.overlong_closesBy hpending)).1⟩

end Monitor

end SprayWatch
