import SprayWatch.Proofs.Interleavings
import SprayWatch.Proofs.JobOutcomes

/-!
# What every interleaving keeps

Each property of runs comes from what a single move does to it.  What has been seen of a run can be
told from where it stands: whether it has an outcome, which aborts there were and how the submission
ended.  Two kinds of states are never left again: those of a caller who has given up waiting, and
those of a run whose signal was raised before its submission came back.
-/

namespace SprayWatch.Interleaving

variable {σ : Type} {m : Monitor σ} {c : Command} {s t u : State} {e : Event} {es fs : List Event}

/-! ## Runs -/

theorem Run.append (hfirst : Run m c s es t) (hlater : Run m c t fs u) :
    Run m c s (es ++ fs) u := by
  induction hfirst with
  | nil => exact hlater
  | cons hmove _ ih => exact .cons hmove (ih hlater)

theorem Run.single (hmove : Move m c s e t) : Run m c s [e] t := .cons hmove (.nil t)

theorem Run.exists_of_append (hrun : Run m c s (es ++ fs) u) :
    ∃ t, Run m c s es t ∧ Run m c t fs u := by
  induction es generalizing s with
  | nil => exact ⟨s, .nil s, hrun⟩
  | cons e es ih =>
      cases hrun with
      | cons hmove hrest =>
          obtain ⟨t, hfirst, hlater⟩ := ih hrest
          exact ⟨t, .cons hmove hfirst, hlater⟩

/-- What a move keeps, a run keeps. -/
theorem Run.keeps {holds : State → Prop}
    (hkeeps : ∀ s e t, holds s → Move m c s e t → holds t) (hrun : Run m c s es t)
    (hs : holds s) : holds t := by
  induction hrun with
  | nil => exact hs
  | cons hmove _ ih => exact ih (hkeeps _ _ _ hs hmove)

/-- What is known at the end of a run is what was known before and what its events tell, if a single
move always adds what its event tells. -/
theorem Run.told {α : Type} {holds : State → Prop} {known : State → List α}
    {tells : Event → Option α} (hkeeps : ∀ s e t, holds s → Move m c s e t → holds t)
    (htold : ∀ s e t, holds s → Move m c s e t → known t = known s ++ (tells e).toList)
    (hrun : Run m c s es t) (hs : holds s) : known t = known s ++ es.filterMap tells := by
  induction hrun with
  | nil => simp
  | @cons _ _ _ e es hmove _ ih =>
      rw [ih (hkeeps _ _ _ hs hmove), htold _ _ _ hs hmove, List.append_assoc]
      cases h : tells e with
      | none => simp [h]
      | some a => simp [h]

/-! ## Where the parties can stand -/

namespace Caller

def isUnderWay : Caller → Bool
  | .idle | .home _ => false
  | _ => true

/-- The submission has not come back. -/
def isEarly : Caller → Bool
  | .idle | .begun | .submitting _ => true
  | _ => false

/-- The poll has not become a task. -/
def isUnhanded : Caller → Bool
  | .idle | .begun | .submitting _ | .submitted => true
  | _ => false

/-- The caller waits for a worker or has the result of the wait. -/
def isFollowing : Caller → Bool
  | .waiting | .expired | .concluding _ => true
  | _ => false

end Caller

/-- The run is listed while it is under way; it is known how the submission ended once that has come
back; no worker takes part before the hand-over; and a caller who follows a job knows its name. -/
structure State.Sound (s : State) : Prop where
  listed_eq : s.listed = s.caller.isUnderWay
  early : s.caller.isEarly = true → s.submission = none
  unhanded : s.caller.isUnhanded = true → s.worker = .absent ∧ s.mailbox = none
  late : s.caller.isEarly = false → s.submission.isSome = true
  following : s.caller.isFollowing = true → s.jobId?.isSome = true

theorem State.Sound.start (accepting : Bool) : (State.start accepting).Sound := by
  constructor <;> simp [State.start, Caller.isUnderWay, Caller.isEarly, Caller.isFollowing]

theorem Move.sound (hs : s.Sound) (hmove : Move m c s e t) : t.Sound := by
  obtain ⟨hlisted, hearly, hunhanded, hlate, hfollowing⟩ := hs
  cases hmove with
  | handsOver hcaller hsubmission hsubmits =>
      have hnamed := hsubmits.named
      constructor <;> simp_all [Caller.isUnderWay, Caller.isEarly, Caller.isUnhanded,
        Caller.isFollowing, State.jobId?]
  | isRefused hcaller hsubmission hsubmits =>
      have hnamed := hsubmits.named
      constructor <;> simp_all [Caller.isUnderWay, Caller.isEarly, Caller.isUnhanded,
        Caller.isFollowing, State.jobId?]
  | _ =>
      constructor <;> simp_all [Caller.isUnderWay, Caller.isEarly, Caller.isUnhanded,
        Caller.isFollowing, State.jobId?]

theorem Run.sound (hrun : Run m c s es t) (hs : s.Sound) : t.Sound :=
  hrun.keeps (fun _ _ _ => Move.sound) hs

/-! ## What is known of a run -/

def State.outcome? (s : State) : Option Outcome :=
  match s.caller with
  | .home outcome => some outcome
  | _ => none

/-- The aborts to which an outcome leads. -/
def State.abortsFor (base : Command) (s : State) (outcome : Outcome) : List (Party × Command) :=
  if outcome.isGivenUp then (s.jobId?.map fun id => (.caller, base.abort id)).toList else []

/-- The aborts there have been in a run that stands there. -/
def State.aborts (base : Command) (s : State) : List (Party × Command) :=
  match s.caller with
  | .aborting outcome | .closing outcome | .home outcome => s.abortsFor base outcome
  | _ => []

theorem Move.outcome?_eq (hmove : Move m c s e t) :
    t.outcome?.toList = s.outcome?.toList ++ e.outcome?.toList := by
  cases hmove <;> simp_all [State.outcome?, Event.outcome?]

theorem Move.aborts_eq (hmove : Move m c s e t) :
    t.aborts m.base = s.aborts m.base ++ e.abort?.toList := by
  cases hmove with
  | leaves hcaller hleft =>
      rcases hleft with hkept | hunnamed
      · simp [State.aborts, State.abortsFor, Event.abort?, hcaller, hkept]
      · simp_all [State.aborts, State.abortsFor, Event.abort?, State.jobId?]
  | _ => simp_all [State.aborts, State.abortsFor, Event.abort?, State.jobId?]

theorem Move.submission_eq (hs : s.Sound) (hmove : Move m c s e t) :
    t.submission.toList = s.submission.toList ++ e.submission?.toList := by
  have hearly := hs.early
  cases hmove <;> simp_all [Event.submission?, Caller.isEarly]

theorem Run.outcomes_eq (hrun : Run m c s es t) :
    t.outcome?.toList = s.outcome?.toList ++ outcomes es :=
  hrun.told (fun _ _ _ (h : True) _ => h) (fun _ _ _ _ => Move.outcome?_eq) trivial

theorem Run.aborts_eq (hrun : Run m c s es t) :
    t.aborts m.base = s.aborts m.base ++ aborts es :=
  hrun.told (fun _ _ _ (h : True) _ => h) (fun _ _ _ _ => Move.aborts_eq) trivial

theorem Run.submissions_eq (hrun : Run m c s es t) (hs : s.Sound) :
    t.submission.toList = s.submission.toList ++ submissions es :=
  hrun.told (fun _ _ _ => Move.sound) (fun _ _ _ => Move.submission_eq) hs

/-! ## Giving up -/

/-- The caller's wait has expired, and nothing that comes later changes what follows from that. -/
def Caller.HasGivenUp : Caller → Prop
  | .expired => True
  | .concluding result => result = .error .timeoutExceeded
  | .settling outcome | .aborting outcome | .closing outcome | .home outcome =>
    outcome = .timedOut
  | _ => False

structure State.GivenUp (s : State) : Prop where
  caller : s.caller.HasGivenUp
  named : s.jobId?.isSome = true

theorem Move.givenUp (hs : s.GivenUp) (hmove : Move m c s e t) : t.GivenUp := by
  obtain ⟨hgivenUp, hnamed⟩ := hs
  cases hmove with
  | concludes hcaller =>
      refine ⟨?_, hnamed⟩
      simp only [hcaller, Caller.HasGivenUp] at hgivenUp
      subst hgivenUp
      rfl
  | _ => exact ⟨by simp_all [Caller.HasGivenUp], by simp_all [State.jobId?, Caller.HasGivenUp]⟩

theorem Move.givenUp_of_expires (hs : s.Sound) (hmove : Move m c s .expires t) : t.GivenUp := by
  cases hmove with
  | expires hcaller =>
      refine ⟨trivial, hs.following ?_⟩
      rw [hcaller]
      rfl

/-! ## After the signal -/

theorem Move.raised (hs : s.raised = true) (hmove : Move m c s e t) : t.raised = true := by
  cases hmove <;> simp_all

/-- How many queries the worker may still start once the signal is raised.  A pause that started
before may be completed, and then another query starts; one that starts later is not completed. -/
def Worker.queriesLeft : Worker → Nat
  | .absent | .queued _ | .ready _ _ _ | .pausing false _ _ _ => 1
  | _ => 0

theorem Worker.queriesLeft_afterAnswer (verdict : Verdict Output.Status Job.Status)
    (wait total : Nat) : (afterAnswer verdict wait total).queriesLeft = 0 := by
  cases verdict <;> rfl

theorem Worker.queriesLeft_afterPause_le (budget : Nat) (result : Except Break Unit)
    (read : Output.Status) (wait total : Nat) :
    (afterPause budget result read wait total).queriesLeft ≤ 1 := by
  unfold afterPause
  split
  · exact Nat.zero_le 1
  · split
    · exact Nat.zero_le 1
    · exact Nat.le_refl 1

theorem Move.queriesLeft (hs : s.Sound) (hraised : s.raised = true)
    (hmove : Move m c s e t) :
    e.query?.toList.length + t.worker.queriesLeft ≤ s.worker.queriesLeft := by
  cases hmove with
  | handsOver hcaller =>
      have hunhanded := hs.unhanded (by rw [hcaller]; rfl)
      simp [Event.query?, hunhanded.1, Worker.queriesLeft]
  | answers hworker hobeys => simp [Event.query?, hworker, Worker.queriesLeft_afterAnswer]
  | @wakes raised _ _ _ result hworker hended hobeys =>
      -- Only a pause that started before the signal can be completed.
      cases raised with
      | false =>
          simpa [Event.query?, hworker, Worker.queriesLeft] using
            Worker.queriesLeft_afterPause_le ..
      | true =>
          obtain rfl := hobeys rfl
          simp [Event.query?, Worker.queriesLeft, Worker.afterPause]
  | _ => simp_all [Event.query?, Worker.queriesLeft]

theorem Run.queries_length_le (hrun : Run m c s es t) (hs : s.Sound) (hraised : s.raised = true) :
    (queries es).length ≤ s.worker.queriesLeft := by
  induction hrun with
  | nil => exact Nat.zero_le _
  | @cons _ _ _ e es hmove _ ih =>
      have hfirst := hmove.queriesLeft hs hraised
      have hlater := ih (hmove.sound hs) (hmove.raised hraised)
      unfold queries at hlater ⊢
      rw [List.filterMap_cons]
      cases h : e.query? with
      | none =>
          simp only [h, Option.toList_none, List.length_nil] at hfirst ⊢
          omega
      | some query =>
          simp only [h, Option.toList_some, List.length_cons] at hfirst ⊢
          omega

theorem Worker.queriesLeft_le_one (worker : Worker) : worker.queriesLeft ≤ 1 := by
  unfold queriesLeft
  split
  · exact Nat.le_refl 1
  · exact Nat.le_refl 1
  · exact Nat.le_refl 1
  · exact Nat.le_refl 1
  · exact Nat.zero_le 1

/-- The worker pauses since the signal was raised, or has polled to the end. -/
def Worker.IsStopping : Worker → Prop
  | .pausing true _ _ _ | .ended _ | .gone => True
  | _ => False

theorem Move.isStopping (hs : s.caller.isUnhanded = false) (hstopping : s.worker.IsStopping)
    (hmove : Move m c s e t) :
    t.caller.isUnhanded = false ∧ t.worker.IsStopping ∧ ∀ ms, e ≠ .wakes ms (.ok ()) := by
  cases hmove with
  | @wakes raised _ _ _ result hworker hended hobeys =>
      cases raised with
      | false => simp [hworker, Worker.IsStopping] at hstopping
      | true =>
          obtain rfl := hobeys rfl
          exact ⟨hs, trivial, by simp⟩
  | _ => simp_all [Worker.IsStopping, Caller.isUnhanded]

theorem Run.not_completed_of_isStopping (hrun : Run m c s es t)
    (hs : s.caller.isUnhanded = false) (hstopping : s.worker.IsStopping) (ms : Nat) :
    .wakes ms (.ok ()) ∉ es := by
  induction hrun with
  | nil => simp
  | cons hmove _ ih =>
      obtain ⟨hhanded, hstill, hother⟩ := hmove.isStopping hs hstopping
      rw [List.mem_cons, not_or]
      exact ⟨(hother ms).symm, ih hhanded hstill⟩

/-- No pause is completed that starts while the signal is raised. -/
theorem Run.not_completed_of_pauses {ms : Nat} (hrun : Run m c s (es ++ .pauses ms :: fs) u)
    (hs : s.Sound) (hraised : s.raised = true) (k : Nat) : .wakes k (.ok ()) ∉ fs := by
  obtain ⟨t, hfirst, hlater⟩ := hrun.exists_of_append
  have ht := hfirst.sound hs
  have hstill : t.raised = true := hfirst.keeps (fun _ _ _ => Move.raised) hraised
  cases hlater with
  | cons hmove hrest =>
      cases hmove with
      | pauses hworker =>
          refine hrest.not_completed_of_isStopping ?_ ?_ k
          · by_contra hunhanded
            have habsent := (ht.unhanded (by simpa using hunhanded)).1
            simp [hworker] at habsent
          · simp only [hstill]
            trivial

/-! ## A signal before the submission comes back -/

/-- The outcomes that are left to a run that was stopped before its submission came back, by how it
came back and whether the pool accepts work. -/
structure Permits (submission : Option (Course Ending)) (accepting : Bool) (outcome : Outcome) :
    Prop where
  ne_completed : ∀ status, outcome ≠ .completed status
  of_remoteJobFailure :
    ∀ jobId, outcome = .failed (.remoteJobFailure jobId) →
      ∃ course, submission = some course ∧
        course.ending = some (.failed (.remoteJobFailure jobId))
  of_submits :
    ∀ course jobId, submission = some course → course.Submits jobId → accepting = true →
      outcome.isGivenUp = true

theorem permits_of_isGivenUp {submission : Option (Course Ending)} {accepting : Bool}
    {outcome : Outcome} (hgivenUp : outcome.isGivenUp = true) :
    Permits submission accepting outcome := by
  refine ⟨?_, ?_, fun _ _ _ _ _ => hgivenUp⟩
  · rintro status rfl
    simp [Outcome.isGivenUp] at hgivenUp
  · rintro jobId rfl
    simp [Outcome.isGivenUp] at hgivenUp

theorem permits_poolShutDown {submission : Option (Course Ending)} :
    Permits submission false (.failed .poolShutDown) := by
  constructor <;> simp

theorem permits_unfollowed {course : Course Ending} {accepting : Bool}
    (hsubmits : ∀ jobId, ¬ course.Submits jobId) :
    Permits (some course) accepting (Monitor.unfollowed course.ending) := by
  refine ⟨Monitor.unfollowed_ne_completed _, fun jobId hfailed => ?_, ?_⟩
  · exact ⟨course, rfl, Monitor.unfollowed_eq_remoteJobFailure.mp hfailed⟩
  · rintro _ jobId ⟨⟩ hnamed
    exact absurd hnamed (hsubmits jobId)

/-- What the caller has come to is left to the run. -/
def Caller.IsPermitted (submission : Option (Course Ending)) (accepting : Bool) : Caller → Prop
  | .concluding result =>
    ∀ jobId, Permits submission accepting (Monitor.concluded jobId result)
  | .settling outcome | .aborting outcome | .closing outcome | .home outcome =>
    Permits submission accepting outcome
  | _ => True

/-- A worker who has met nothing but the raised signal. -/
def Worker.MeetsSignal : Worker → Prop
  | .absent | .queued _ | .ready _ _ _ | .querying true _ _ _ | .gone => True
  | .ended result => result = .error (.failed .interrupted)
  | _ => False

/-- The signal was raised before the submission came back. -/
structure State.StoppedEarly (s : State) : Prop where
  raised : s.raised = true
  worker : s.worker.MeetsSignal
  mailbox : ∀ result, s.mailbox = some result → result = .error (.failed .interrupted)
  caller : s.caller.IsPermitted s.submission s.accepting

theorem Worker.meetsSignal_afterAnswer {course : Course Ending} (hobeys : course.Obeys true)
    (read : Output.Status) (wait total : Nat) :
    (afterAnswer (course.verdict read) wait total).MeetsSignal := by
  have hbreak : course.break? = some (.failed .interrupted) := by
    simp [Course.break?, hobeys.interrupted rfl, Ending.outcome?]
  simp [Course.verdict, hbreak, afterAnswer, MeetsSignal]

theorem Move.stoppedEarly (hs : s.StoppedEarly) (hmove : Move m c s e t) : t.StoppedEarly := by
  obtain ⟨hraised, hworker, hmailbox, hcaller⟩ := hs
  cases hmove with
  | isRefused _ _ _ _ haccepting =>
      refine ⟨hraised, hworker, hmailbox, fun jobId => ?_⟩
      simp only [haccepting]
      exact permits_poolShutDown
  | declines _ hsubmission hsubmits hread =>
      -- A name that was read from the output is not blank.
      have hname := (Course.isJobName hsubmits.named).start_eq
      simp [hread] at hname
  | passes _ hsubmission hsubmits =>
      refine ⟨hraised, hworker, hmailbox, ?_⟩
      simp only [hsubmission]
      exact permits_unfollowed hsubmits
  | receives _ hresult =>
      obtain rfl := hmailbox _ hresult
      exact ⟨hraised, hworker, by simp, fun _ => permits_of_isGivenUp rfl⟩
  | raises => exact ⟨rfl, hworker, hmailbox, fun _ => permits_of_isGivenUp rfl⟩
  | concludes hconcluding =>
      simp only [Caller.IsPermitted, hconcluding] at hcaller
      exact ⟨hraised, hworker, hmailbox, hcaller _⟩
  | queries draws hready =>
      exact ⟨hraised, by simp [hraised, Worker.MeetsSignal], hmailbox, hcaller⟩
  | @answers raised _ _ _ _ hquerying hobeys =>
      cases raised with
      | false => simp [hquerying, Worker.MeetsSignal] at hworker
      | true => exact ⟨hraised, Worker.meetsSignal_afterAnswer hobeys _ _ _, hmailbox, hcaller⟩
  | delivers hended =>
      simp only [hended, Worker.MeetsSignal] at hworker
      exact ⟨hraised, trivial, by simp [hworker], hcaller⟩
  | _ => constructor <;> simp_all [Worker.MeetsSignal, Caller.IsPermitted]

/-! ## The caller comes home -/

/-- How many moves the caller has before him at most. -/
def Caller.movesLeft : Caller → Nat
  | .idle => 10
  | .begun => 9
  | .submitting _ => 8
  | .submitted => 7
  | .waiting => 6
  | .expired => 5
  | .concluding _ => 4
  | .settling _ => 3
  | .aborting _ => 2
  | .closing _ => 1
  | .home _ => 0

theorem Move.movesLeft (hmove : Move m c s e t) :
    (if e.party = .caller then 1 else 0) + t.caller.movesLeft ≤ s.caller.movesLeft := by
  cases hmove <;> simp_all [Event.party, Caller.movesLeft]

theorem Run.movesLeft (hrun : Run m c s es t) :
    es.countP (fun e => e.party = .caller) + t.caller.movesLeft ≤ s.caller.movesLeft := by
  induction hrun with
  | nil => simp
  | cons hmove _ ih =>
      have hfirst := hmove.movesLeft
      rw [List.countP_cons]
      simp only [decide_eq_true_eq]
      omega

/-- A caller who is not home has a move, provided that the command that he may be waiting for comes
to its end. -/
theorem State.Sound.exists_move (hs : s.Sound) (haway : s.outcome? = none) :
    ∃ e t, Move m c s e t ∧ e.party = .caller := by
  cases hcaller : s.caller with
  | idle => exact ⟨_, _, .begins hcaller, rfl⟩
  | begun => exact ⟨_, _, .submits hcaller, rfl⟩
  | submitting raised =>
      have hobeys : (⟨[], some (.failed .interrupted)⟩ : Course Ending).Obeys raised :=
        ⟨by simp, fun _ => rfl⟩
      exact ⟨_, _, .submitted hcaller hobeys (by simp), rfl⟩
  | submitted =>
      obtain ⟨course, hsubmission⟩ :=
        Option.isSome_iff_exists.mp (hs.late (by rw [hcaller]; rfl))
      by_cases hsubmits : ∃ jobId, course.Submits jobId
      · obtain ⟨jobId, hsubmits⟩ := hsubmits
        have hread := (Course.isJobName hsubmits.named).start_eq
        cases haccepting : s.accepting with
        | true => exact ⟨_, _, .handsOver hcaller hsubmission hsubmits hread haccepting, rfl⟩
        | false => exact ⟨_, _, .isRefused hcaller hsubmission hsubmits hread haccepting, rfl⟩
      · exact ⟨_, _, .passes hcaller hsubmission (not_exists.mp hsubmits), rfl⟩
  | waiting => exact ⟨_, _, .expires hcaller, rfl⟩
  | expired => exact ⟨_, _, .raises hcaller, rfl⟩
  | concluding result =>
      obtain ⟨jobId, hnamed⟩ :=
        Option.isSome_iff_exists.mp (hs.following (by rw [hcaller]; rfl))
      exact ⟨_, _, .concludes hcaller hnamed, rfl⟩
  | settling outcome =>
      cases hnamed : s.jobId? with
      | none => exact ⟨_, _, .leaves hcaller (.inr hnamed), rfl⟩
      | some jobId =>
          cases hgivenUp : outcome.isGivenUp with
          | true => exact ⟨_, _, .aborts hcaller hgivenUp hnamed, rfl⟩
          | false => exact ⟨_, _, .leaves hcaller (.inl hgivenUp), rfl⟩
  | aborting outcome =>
      have hended : (⟨[], some (.exited .finished)⟩ : Course Ending).ending ≠ none := by simp
      exact ⟨_, _, .aborted hcaller hended (by simp), rfl⟩
  | closing outcome => exact ⟨_, _, .finishes hcaller, rfl⟩
  | home outcome => simp [outcome?, hcaller] at haway

end SprayWatch.Interleaving
