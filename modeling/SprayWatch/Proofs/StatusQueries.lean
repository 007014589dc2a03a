import SprayWatch.Monitor.Job
import SprayWatch.Proofs.Polling
import SprayWatch.Proofs.StatusLines

/-!
# Status queries, one after another

What the site answers to a status query, and whether it lets the pause after it come to its end,
does not depend on what is made of the answers.  So the answers and pauses of a job form a sequence
that can be told without its monitor: `exchanges` goes on for ever.  What the monitor makes of an
answer depends on that answer alone, as long as the answers before it have told of no end.
-/

namespace SprayWatch

/-- Why an answer ends the polling whatever its lines say, if it does. -/
def Course.break? (answer : Course Ending) : Option Break :=
  match Ending.outcome? answer.ending with
  | .ok o => if o.isAbort then some (.failed (.processAbort o)) else none
  | .error b => some b

def Course.status (answer : Course Ending) (jobId : String) : Job.Status :=
  ((Output.Status.lastState? jobId answer.lines).map Job.State.status).getD .notComplete

/-- What an answer means to one who has read so much before. -/
def Course.verdict (answer : Course Ending) (read : Output.Status) :
    Verdict Output.Status Job.Status :=
  match answer.break? with
  | some b => .broke b
  | none =>
    let read := answer.lines.foldl Output.Status.feed read
    if read.status.isTerminal then .settled read.status else .notYet read

theorem Course.break?_eq_none {answer : Course Ending} :
    answer.break? = none ↔ answer.ending = some (.exited .finished) := by
  unfold Course.break?
  cases answer.ending with
  | none => simp [Ending.outcome?]
  | some ending =>
      cases ending with
      | exited o => cases o <;> simp [Ending.outcome?, RunOutcome.isAbort]
      | failed f => simp [Ending.outcome?]
      | brokeDown => simp [Ending.outcome?]

theorem Course.break?_of_exited {answer : Course Ending} {o : RunOutcome}
    (hexited : answer.ending = some (.exited o)) (hfailed : o ≠ .finished) :
    answer.break? = some (.failed (.processAbort o)) := by
  cases o with
  | finished => exact absurd rfl hfailed
  | watchdogKilled => simp [Course.break?, hexited, Ending.outcome?, RunOutcome.isAbort]
  | nonZeroExit code => simp [Course.break?, hexited, Ending.outcome?, RunOutcome.isAbort]

namespace Monitor

variable {σ τ : Type}

/-! ## One command of a poll -/

def pollWatch (m : Monitor σ) (deadline : Nat) (s : Station σ) : Watch :=
  .on s.current (some (deadline - m.site.clock s.site))

def answer (m : Monitor σ) (deadline : Nat) (c : Command) (s : Station σ) : Course Ending :=
  (m.site.run c (m.pollWatch deadline s) s.site).1

def asked (m : Monitor σ) (deadline : Nat) (c : Command) (s : Station σ) : Station σ :=
  ({ s with site := (m.site.run c (m.pollWatch deadline s) s.site).2 } : Station σ).after
    (m.answer deadline c s).happenings

def ticked (m : Monitor σ) (s : Station σ) : Station σ :=
  { s with ticks := s.ticks.ask tickInterval (m.site.clock s.site) }

section Asking

variable (m : Monitor σ) (deadline : Nat) (listener : Listener τ) (read : τ) (c : Command)
  (s : Station σ)

theorem ask_value :
    (m.ask deadline listener read c s).value =
      ((m.answer deadline c s).lines.foldl listener.feed read,
        match (m.answer deadline c s).break? with
        | some b => .error b
        | none => .ok ()) := by
  simp only [ask, patience, Act.bind_apply, Act.look_apply, Act.runCommand_value]
  unfold Course.break? answer pollWatch
  cases Ending.outcome?
      (m.site.run c (.on s.current (some (deadline - m.site.clock s.site))) s.site).1.ending with
  | error b => rfl
  | ok o =>
      simp only [Act.pure_apply]
      split <;> rfl

theorem ask_deeds : (m.ask deadline listener read c s).did.deeds = [.ran c] := by
  simp only [ask, patience, Act.bind_apply, Act.look_apply, Transcript.deeds_append,
    Act.runCommand_deeds]
  cases (Act.runCommand m.site listener read c
      (.on s.current (some (deadline - m.site.clock s.site))) s).value.2 with
  | ok o => rfl
  | error b => rfl

theorem ask_station :
    (m.ask deadline listener read c s).station = m.asked deadline c s := by
  simp only [ask, patience, Act.bind_apply, Act.look_apply]
  cases (Act.runCommand m.site listener read c
      (.on s.current (some (deadline - m.site.clock s.site))) s).value.2 with
  | ok o => exact Act.runCommand_station m.site listener read c _ s
  | error b => exact Act.runCommand_station m.site listener read c _ s

end Asking

theorem tick_apply (m : Monitor σ) (message : String) (s : Station σ) :
    m.tick message s =
      ⟨(), if s.ticks.isDue tickInterval (m.site.clock s.site) then
          s.logged [.of .trace "monitor" [message]] else [], m.ticked s⟩ := by
  cases hdue : s.ticks.isDue tickInterval (m.site.clock s.site) with
  | true => simp [tick, hdue, ticked]
  | false => simp [tick, hdue, ticked]

theorem tick_deeds (m : Monitor σ) (message : String) (s : Station σ) :
    (m.tick message s).did.deeds = [] := by
  rw [tick_apply]
  cases s.ticks.isDue tickInterval (m.site.clock s.site) with
  | true => exact s.logged_deeds _
  | false => rfl

theorem tick_station (m : Monitor σ) (message : String) (s : Station σ) :
    (m.tick message s).station = m.ticked s := by
  rw [tick_apply]

/-! ## One status query -/

section Attempt

variable (m : Monitor σ) (deadline : Nat) (read : Output.Status) (s : Station σ)

theorem attemptStatus_value :
    (m.attemptStatus deadline read s).value =
      (m.answer deadline (m.base.status read.jobId) s).verdict read := by
  simp only [attemptStatus, Act.bind_apply, ask_value, Course.verdict]
  cases (m.answer deadline (m.base.status read.jobId) s).break? with
  | some b => rfl
  | none => rfl

theorem attemptStatus_deeds :
    (m.attemptStatus deadline read s).did.deeds = [.ran (m.base.status read.jobId)] := by
  simp only [attemptStatus, Act.bind_apply, Transcript.deeds_append, ask_deeds, ask_value]
  cases (m.answer deadline (m.base.status read.jobId) s).break? with
  | some b => rfl
  | none => simp [tick_deeds]

theorem attemptStatus_station
    (hexit : (m.answer deadline (m.base.status read.jobId) s).break? = none) :
    (m.attemptStatus deadline read s).station =
      m.ticked (m.asked deadline (m.base.status read.jobId) s) := by
  simp only [attemptStatus, Act.bind_apply, ask_value, hexit, tick_station, ask_station]
  rfl

end Attempt

theorem rest_deeds (m : Monitor σ) (deadline wait : Nat) (s : Station σ) :
    (m.rest deadline wait s).did.deeds =
      match (m.rest deadline wait s).value with
      | .ok () => [.waited wait]
      | .error _ => [] := by
  exact Act.pause_deeds m.site wait _ s

/-! ## Exchanges -/

/-- What the site makes of a status query and of the pause after it: the course of the query, for
how long the pause is to last, its course, and how it ends. -/
structure Exchange where
  answer : Course Ending
  wait : Nat
  pause : Course Unit
  rested : Except Break Unit

def exchange (m : Monitor σ) (deadline : Nat) (query : Command) (previous : Nat)
    (s : Station σ) : Exchange × Station σ :=
  let drawn := m.drawn previous s
  let there := m.ticked (m.asked deadline query drawn.station)
  let rested := m.rest deadline drawn.value.val there
  (⟨m.answer deadline query drawn.station, drawn.value.val,
    (m.site.pause drawn.value.val (m.pollWatch deadline there) there.site).1, rested.value⟩,
    rested.station)

/-- The exchanges one after another, counted from zero. -/
def exchanges (m : Monitor σ) (deadline : Nat) (query : Command) :
    Nat → Station σ → Nat → Exchange
  | previous, s, 0 => (m.exchange deadline query previous s).1
  | previous, s, k + 1 =>
    let first := m.exchange deadline query previous s
    m.exchanges deadline query first.1.wait first.2 k

/-- What an exchange brings the polling to, unless it goes on as far as the budget allows. -/
def Exchange.result? (e : Exchange) (jobId : String) : Option (Except Break Job.Status) :=
  match e.answer.break? with
  | some b => some (.error b)
  | none =>
    if (e.answer.status jobId).isTerminal then some (.ok (e.answer.status jobId))
    else
      match e.rested with
      | .error b => some (.error b)
      | .ok () => none

theorem status_foldl_feed {read : Output.Status} (hread : read.status = .notComplete)
    (answer : Course Ending) :
    (answer.lines.foldl Output.Status.feed read).status = answer.status read.jobId := by
  rw [Output.Status.foldl_feed, Course.status]
  cases Output.Status.lastState? read.jobId answer.lines with
  | none => exact hread
  | some state => rfl

theorem jobId_foldl_feed (read : Output.Status) (lines : List String) :
    (lines.foldl Output.Status.feed read).jobId = read.jobId := by
  rw [Output.Status.foldl_feed]
  cases Output.Status.lastState? read.jobId lines with
  | none => rfl
  | some state => rfl

theorem isTerminal_eq_false {status : Job.Status} :
    status.isTerminal = false ↔ status = .notComplete := by
  cases status <;> simp [Job.Status.isTerminal]

/-- A round of status queries, by what its exchange brings: it ends after the query with the result
of the exchange, or there is a pause as well, and it goes on about the same job with no end
known. -/
theorem round_attemptStatus (m : Monitor σ) (deadline previous : Nat) {read : Output.Status}
    (s : Station σ) (hread : read.status = .notComplete) :
    match (m.exchange deadline (m.base.status read.jobId) previous s).1.result? read.jobId with
    | some result =>
      ∃ did station,
        m.round deadline (m.attemptStatus deadline) read previous s =
          ⟨.ended result, did, station⟩ ∧
        did.deeds = [.ran (m.base.status read.jobId)]
    | none =>
      ∃ next wait did,
        m.round deadline (m.attemptStatus deadline) read previous s =
          ⟨.rested next wait, did,
            (m.exchange deadline (m.base.status read.jobId) previous s).2⟩ ∧
        did.deeds = [.ran (m.base.status read.jobId), .waited wait.val] ∧
        wait.val = (m.exchange deadline (m.base.status read.jobId) previous s).1.wait ∧
        next.jobId = read.jobId ∧ next.status = .notComplete := by
  rw [round_apply]
  simp only [attemptStatus_value, Course.verdict]
  unfold Exchange.result? exchange
  simp only
  have hdeeds := m.attemptStatus_deeds deadline read
    (m.drawn previous s).station
  cases hbreak : (m.answer deadline (m.base.status read.jobId)
      (m.drawn previous s).station).break? with
  | some b => exact ⟨_, _, rfl, hdeeds⟩
  | none =>
      simp only [status_foldl_feed hread, attemptStatus_station _ _ _ _ hbreak]
      cases hterminal : ((m.answer deadline (m.base.status read.jobId)
          (m.drawn previous s).station).status
          read.jobId).isTerminal with
      | true => exact ⟨_, _, rfl, hdeeds⟩
      | false =>
          simp only [Bool.false_eq_true, if_false]
          have hrest := m.rest_deeds deadline
            (m.drawn previous s).value.val
            (m.ticked (m.asked deadline (m.base.status read.jobId)
              (m.drawn previous s).station))
          cases hrested : (m.rest deadline
              (m.drawn previous s).value.val
              (m.ticked (m.asked deadline (m.base.status read.jobId)
                (m.drawn previous s).station))).value with
          | error b =>
              rw [hrested] at hrest
              refine ⟨_, _, rfl, ?_⟩
              rw [Transcript.deeds_append, hdeeds, hrest]
              rfl
          | ok done =>
              rw [hrested] at hrest
              refine ⟨_, _, _, rfl, ?_, rfl, jobId_foldl_feed _ _, ?_⟩
              · rw [Transcript.deeds_append, hdeeds, hrest]
                rfl
              · rw [status_foldl_feed hread]
                exact isTerminal_eq_false.mp hterminal

end Monitor

end SprayWatch
