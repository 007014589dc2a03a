import SprayWatch.Proofs.JobRuns

/-!
# Reading anew

The one who polls for a status keeps what the answers have told from query to query.  If he read
each answer anew instead, all would go the same way.  Whatever he keeps, it tells of no end of the
job: if it did, there would be no further query.
-/

namespace SprayWatch.Monitor

open Output (Status)

variable {σ : Type}

/-- One status query by one who knows of the job nothing but its name. -/
def attemptStatusAfresh (m : Monitor σ) (deadline : Nat) (read : Status) :
    Act σ (Verdict Status Job.Status) :=
  m.attemptStatus deadline ⟨read.jobId, .unknown, .notComplete⟩

section Attempts

variable (m : Monitor σ) (deadline : Nat) {read other : Status} (s : Station σ)

theorem ask_alike (halike : read.Alike other) (c : Command) :
    (m.ask deadline Status.listener read c s).Alike (fun x y => x.1.Alike y.1 ∧ x.2 = y.2)
      (m.ask deadline Status.listener other c s) := by
  apply Act.bind_alike (.refl _)
  rintro patience _ t rfl
  apply Act.bind_alike (.refl _)
  rintro watch _ t rfl
  refine Act.bind_alike
    (Act.runCommand_alike m.site c watch t (fun _ _ text h => h.feed text)
      (fun _ _ text h => h.records_eq text) halike) ?_
  rintro ⟨read, ending⟩ ⟨other, _⟩ t ⟨halike, rfl⟩
  cases ending with
  | ok o => exact ⟨⟨halike, rfl⟩, rfl, rfl⟩
  | error b => exact ⟨⟨halike, rfl⟩, rfl, rfl⟩

/-- Two readers who know the same of the job, and no end of it. -/
structure BothWait (read other : Status) : Prop extends read.Alike other where
  waits : read.status = .notComplete

theorem attemptStatus_alike (halike : read.Alike other) :
    (m.attemptStatus deadline read s).Alike (Verdict.Alike BothWait)
      (m.attemptStatus deadline other s) := by
  unfold attemptStatus
  rw [halike.jobId_eq]
  apply Act.bind_alike (m.ask_alike deadline s halike _)
  rintro ⟨⟨jobId, state, status⟩, ending⟩ ⟨⟨_, known, _⟩, _⟩ t ⟨⟨hjobId, hstatus⟩, rfl⟩
  simp only at hjobId hstatus
  subst hjobId hstatus
  cases ending with
  | error b => exact ⟨.broke b, rfl, rfl⟩
  | ok done =>
      apply Act.bind_alike (.refl _)
      rintro _ _ t rfl
      cases status with
      | success => exact ⟨.settled _, rfl, rfl⟩
      | failure => exact ⟨.settled _, rfl, rfl⟩
      | notComplete => exact ⟨.notYet ⟨⟨rfl, rfl⟩, rfl⟩, rfl, rfl⟩

end Attempts

theorem poll_attemptStatusAfresh (m : Monitor σ) (deadline : Nat) {read : Status}
    (hread : read.status = .notComplete) :
    m.poll deadline (m.attemptStatusAfresh deadline) read =
      m.poll deadline (m.attemptStatus deadline) read := by
  funext s
  refine pollFrom_eq_of_alike BothWait rfl ?_ ⟨⟨rfl, rfl⟩, hread⟩ 0 0 s
  intro read other previous t hboth
  refine round_alike (fun u => ?_) previous t
  refine m.attemptStatus_alike deadline u ⟨hboth.jobId_eq, ?_⟩
  exact hboth.status_eq.symm.trans hboth.waits |>.symm

theorem handOver_attemptStatusAfresh (m : Monitor σ) {read : Status}
    (hread : read.status = .notComplete) :
    m.handOver m.attemptStatusAfresh read = m.handOver m.attemptStatus read := by
  unfold handOver
  simp only [m.poll_attemptStatusAfresh _ hread]

theorem follow_attemptStatusAfresh (m : Monitor σ) :
    m.follow m.attemptStatusAfresh = m.follow m.attemptStatus := by
  funext jobId
  unfold follow
  cases hstart : Status.start? jobId with
  | none => rfl
  | some read =>
      have hread : read.status = .notComplete := by
        unfold Status.start? at hstart
        simp only at hstart
        split at hstart
        next => simp at hstart
        next =>
          rw [← Option.some.inj hstart]
      simp only [m.handOver_attemptStatusAfresh hread]

/-- Reading every answer anew, a run does the same and comes to the same. -/
theorem submitBy_attemptStatusAfresh (m : Monitor σ) (c : Command) :
    m.submitBy m.attemptStatusAfresh c = m.submit c := by
  unfold submit submitBy runJob
  have hproceed : m.proceed m.attemptStatusAfresh = m.proceed m.attemptStatus := by
    funext jobId submitted
    unfold proceed
    rw [m.follow_attemptStatusAfresh]
  rw [hproceed]

end SprayWatch.Monitor
