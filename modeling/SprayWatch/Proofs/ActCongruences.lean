import SprayWatch.Monitor.FileWait
import SprayWatch.Monitor.Job
import SprayWatch.Proofs.Polling

/-!
# Congruences of acts

A relation between acts is a congruence when acts that it relates can be done one after another and
it still relates what they make up.  When it relates besides what two monitors do at their sites, it
relates whatever the monitors do, all the way up to their runs.

What a run consists of is gone through here, once for all relations.  Which acts a relation has to
relate is listed by `Monitor.Congruence`; nothing else that a monitor does is left to it.
-/

namespace SprayWatch

variable {σ τ : Type}

/-- Does a relation hold between acts that consist of related acts in the same order? -/
structure Act.Congruence (R : ∀ α : Type, Act σ α → Act τ α → Prop) : Prop where
  pure {α : Type} (a : α) : R α (pure a) (pure a)
  bind {α β : Type} {x : Act σ α} {y : Act τ α} {f : α → Act σ β} {g : α → Act τ β} :
    R α x y → (∀ a, R β (f a) (g a)) → R β (x >>= f) (y >>= g)
  logAll (rs : List Log.Record) : R Unit (Act.logAll rs) (Act.logAll rs)

namespace Act.Congruence

variable {R : ∀ α : Type, Act σ α → Act τ α → Prop} (h : Act.Congruence R)
include h

theorem log (r : Log.Record) : R Unit (Act.log r) (Act.log r) := h.logAll [r]

omit h in
theorem ite {α : Type} {x x' : Act σ α} {y y' : Act τ α} {b : Bool} (hthen : R α x y)
    (helse : R α x' y') : R α (if b then x else x') (if b then y else y') := by
  cases b with
  | true => exact hthen
  | false => exact helse

theorem cancel
    (hrunning : R Bool (Act.look fun s => s.current.isSome) (Act.look fun s => s.current.isSome))
    (hraise : R Unit Act.raiseCurrent Act.raiseCurrent) : R Unit Act.cancel Act.cancel := by
  refine h.bind hrunning fun isRunning => ite ?_ (h.pure ())
  exact h.bind (h.log _) fun _ => hraise

theorem hear (hstop : R Unit Act.askStop Act.askStop) {read : Type} (listener : Listener read)
    (known : read) (happenings : List Happening) :
    R read (Act.hear listener known happenings) (Act.hear listener known happenings) := by
  induction happenings generalizing known with
  | nil => exact h.pure known
  | cons happening rest ih =>
      cases happening with
      | line text => exact h.bind (h.logAll _) fun _ => ih (listener.feed known text)
      | logged r => exact h.bind (h.log r) fun _ => ih known
      | stopAsked => exact h.bind hstop fun _ => ih known

end Act.Congruence

/-- Does a congruence relate what two monitors do at their sites?  The monitors are as patient as
each other, and the commands they make up match. -/
structure Monitor.Congruence (m : Monitor σ) (m' : Monitor τ)
    (R : ∀ α : Type, Act σ α → Act τ α → Prop) (commands : Command → Command → Prop) : Prop
    extends Act.Congruence R where
  pollCeiling_eq : m.pollCeiling = m'.pollCeiling
  maxWait_eq : m.maxWait = m'.maxWait
  accepting : R Bool (Act.look fun s => s.accepting) (Act.look fun s => s.accepting)
  watch (patience : Option Nat) :
    R Watch (Act.look fun s => .on s.current patience) (Act.look fun s => .on s.current patience)
  clock {α : Type} (f : Nat → α) :
    R α (Act.look fun s => f (m.site.clock s.site)) (Act.look fun s => f (m'.site.clock s.site))
  current (f : Option Signal → Option Signal) :
    R Unit (Act.change fun s => { s with current := f s.current })
      (Act.change fun s => { s with current := f s.current })
  draws (previous ceiling : Nat) :
    R Backoff.Wait (Act.drawWait previous ceiling) (Act.drawWait previous ceiling)
  ticks (message : String) : R Unit (m.tick message) (m'.tick message)
  runs {read : Type} (listener : Listener read) (known : read) {c c' : Command} (watch : Watch) :
    commands c c' →
      R (read × Except Break RunOutcome) (Act.runCommand m.site listener known c watch)
        (Act.runCommand m'.site listener known c' watch)
  pauses (ms : Nat) (patience : Option Nat) :
    R (Except Break Unit) (Act.pause m.site ms patience) (Act.pause m'.site ms patience)
  status_matches (jobId : String) : commands (m.base.status jobId) (m'.base.status jobId)
  abort_matches (jobId : String) : commands (m.base.abort jobId) (m'.base.abort jobId)
  list_matches (mask : String) : commands (m.base.list mask) (m'.base.list mask)

namespace Monitor.Congruence

variable {m : Monitor σ} {m' : Monitor τ} {R : ∀ α : Type, Act σ α → Act τ α → Prop}
  {commands : Command → Command → Prop} {μ α : Type} (h : Monitor.Congruence m m' R commands)
include h

theorem budget_eq : m.budget = m'.budget := by
  rw [Monitor.budget, Monitor.budget, h.maxWait_eq]

theorem raiseCurrent : R Unit Act.raiseCurrent Act.raiseCurrent := h.current _

theorem patience (deadline : Nat) :
    R (Option Nat) (m.patience deadline) (m'.patience deadline) :=
  h.clock fun now => some (deadline - now)

theorem ask {read : Type} (deadline : Nat) (listener : Listener read) (known : read)
    {c c' : Command} (hcommands : commands c c') :
    R (read × Except Break Unit) (m.ask deadline listener known c)
      (m'.ask deadline listener known c') := by
  refine h.bind (h.patience deadline) fun patience => h.bind (h.watch patience) fun watch =>
    h.bind (h.runs listener known watch hcommands) ?_
  rintro ⟨heard, ending⟩
  cases ending with
  | ok o => exact h.pure _
  | error b => exact h.pure _

theorem rest (deadline wait : Nat) :
    R (Except Break Unit) (m.rest deadline wait) (m'.rest deadline wait) :=
  h.bind (h.patience deadline) fun patience => h.pauses wait patience

/-! ## Polls -/

section Polls

variable {attempt : μ → Act σ (Verdict μ α)} {attempt' : μ → Act τ (Verdict μ α)}

theorem round (deadline : Nat) (hattempt : ∀ memory, R _ (attempt memory) (attempt' memory))
    (memory : μ) (previous : Nat) :
    R _ (m.round deadline attempt memory previous)
      (m'.round deadline attempt' memory previous) := by
  unfold Monitor.round
  rw [← h.pollCeiling_eq]
  refine h.bind (h.draws previous _) fun wait => h.bind (hattempt memory) fun verdict => ?_
  cases verdict with
  | settled a => exact h.pure _
  | broke b => exact h.pure _
  | notYet next =>
      refine h.bind (h.rest deadline wait.val) fun rested => ?_
      cases rested with
      | error b => exact h.pure _
      | ok done => exact h.pure _

theorem pollFrom (deadline : Nat) (hattempt : ∀ memory, R _ (attempt memory) (attempt' memory))
    (memory : μ) (previous total : Nat) :
    R _ (m.pollFrom deadline attempt memory previous total)
      (m'.pollFrom deadline attempt' memory previous total) := by
  induction hleft : m.budget - total using Nat.strongRecOn
    generalizing memory previous total with
  | ind left ih =>
      rw [Monitor.pollFrom, Monitor.pollFrom]
      refine h.bind (h.round deadline hattempt memory previous) fun round => ?_
      cases round with
      | ended result => exact h.pure result
      | rested next wait =>
          by_cases hspent : m.budget ≤ Backoff.saturate (total + wait.val)
          · have hspent' := h.budget_eq ▸ hspent
            simp only [hspent, hspent', dif_pos]
            exact h.pure _
          · have hspent' := h.budget_eq ▸ hspent
            simp only [hspent, hspent', dif_neg, not_false_eq_true]
            have hlt := Monitor.budget_sub_lt wait.property m.budget_lt hspent
            exact ih _ (hleft ▸ hlt) next wait.val _ rfl

theorem poll (deadline : Nat) (hattempt : ∀ memory, R _ (attempt memory) (attempt' memory))
    (memory : μ) : R _ (m.poll deadline attempt memory) (m'.poll deadline attempt' memory) :=
  h.pollFrom deadline hattempt memory 0 0

end Polls

theorem handOver {attempt : Nat → μ → Act σ (Verdict μ α)}
    {attempt' : Nat → μ → Act τ (Verdict μ α)}
    (hattempt : ∀ deadline memory, R _ (attempt deadline memory) (attempt' deadline memory))
    (memory : μ) : R _ (m.handOver attempt memory) (m'.handOver attempt' memory) := by
  have hdeadline : R Nat (Act.look fun s => m.site.clock s.site + m.maxWait)
      (Act.look fun s => m'.site.clock s.site + m'.maxWait) := by
    rw [← h.maxWait_eq]
    exact h.clock fun now => now + m.maxWait
  refine h.bind h.accepting fun accepting => ?_
  cases accepting with
  | false => exact h.pure _
  | true =>
      refine h.bind hdeadline fun deadline =>
        h.bind (h.poll deadline (hattempt deadline) memory) fun result => ?_
      cases result with
      | ok a => exact h.pure _
      | error b =>
          cases b with
          | failed f => exact h.pure _
          | lost => exact h.bind (h.log _) fun _ => h.pure _
          | abandoned => exact h.bind (h.log _) fun _ => h.bind h.raiseCurrent fun _ => h.pure _

theorem monitored {run : Act σ α} {run' : Act τ α} (hrun : R α run run') :
    R α (Monitor.monitored run) (Monitor.monitored run') := by
  refine h.bind (h.current fun _ => some .fresh) fun _ => h.bind hrun fun result => ?_
  exact h.bind (h.current fun _ => none) fun _ => h.pure result

/-! ## Jobs -/

theorem abort (jobId : Option String) : R Unit (m.abort jobId) (m'.abort jobId) := by
  unfold Monitor.abort
  cases (jobId.map Text.trim).filter fun id => !id.isEmpty with
  | none => exact h.log _
  | some id =>
      refine h.bind (h.log _) fun _ =>
        h.bind (h.runs .deaf () .undisturbed (h.abort_matches id)) ?_
      rintro ⟨heard, ending⟩
      cases ending with
      | error b => exact h.log _
      | ok o => exact Act.Congruence.ite (h.log _) (h.pure ())

theorem attemptStatus (deadline : Nat) (read : Output.Status) :
    R _ (m.attemptStatus deadline read) (m'.attemptStatus deadline read) := by
  refine h.bind (h.ask deadline Output.Status.listener read (h.status_matches read.jobId)) ?_
  rintro ⟨heard, ending⟩
  cases ending with
  | error b => exact h.pure _
  | ok done => exact h.bind (h.ticks _) fun _ => h.pure _

theorem conclude (jobId : String) (result : Except Failure Job.Status) :
    R Outcome (m.conclude jobId result) (m'.conclude jobId result) := by
  cases result with
  | ok status =>
      cases status with
      | success => exact h.pure _
      | failure => exact h.bind (h.log _) fun _ => h.pure _
      | notComplete => exact h.bind (h.log _) fun _ => h.pure _
  | error f =>
      have hgivesUp : ∀ (r : Log.Record) (o : Outcome),
          R Outcome (do Act.log r; m.abort (some jobId); return o)
            (do Act.log r; m'.abort (some jobId); return o) :=
        fun r o => h.bind (h.log r) fun _ => h.bind (h.abort (some jobId)) fun _ => h.pure o
      cases f with
      | timeoutExceeded => exact hgivesUp _ _
      | interrupted => exact hgivesUp _ _
      | processAbort o => exact hgivesUp _ _
      | _ => exact h.pure _

theorem follow {attempt : Monitor.StatusAttempt σ} {attempt' : Monitor.StatusAttempt τ}
    (hattempt : ∀ deadline read, R _ (attempt deadline read) (attempt' deadline read))
    (jobId : String) : R Outcome (m.follow attempt jobId) (m'.follow attempt' jobId) := by
  refine h.bind (h.log _) fun _ => ?_
  cases Output.Status.start? jobId with
  | none => exact h.pure _
  | some read =>
      exact h.bind (h.handOver hattempt read) fun result => h.conclude jobId result

theorem proceed {attempt : Monitor.StatusAttempt σ} {attempt' : Monitor.StatusAttempt τ}
    (hattempt : ∀ deadline read, R _ (attempt deadline read) (attempt' deadline read))
    (jobId : Option String) (submitted : Except Failure RunOutcome) :
    R Outcome (m.proceed attempt jobId submitted) (m'.proceed attempt' jobId submitted) := by
  unfold Monitor.proceed
  cases submitted with
  | ok o =>
      refine Act.Congruence.ite
        (h.bind (h.log _) fun _ => h.bind (h.abort jobId) fun _ => h.pure _) ?_
      cases jobId with
      | some id => exact h.follow hattempt id
      | none => exact h.bind (h.log _) fun _ => h.pure _
  | error f =>
      cases f with
      | interrupted => exact h.bind (h.abort jobId) fun _ => h.pure _
      | _ => exact h.pure _

theorem submit {c c' : Command} (hcommands : commands c c') :
    R Outcome (m.submit c) (m'.submit c') := by
  have hrun : R Outcome (m.runJob m.attemptStatus c) (m'.runJob m'.attemptStatus c') := by
    refine h.bind (h.watch none) fun watch =>
      h.bind (h.runs Output.Submission.listener .start watch hcommands) ?_
    rintro ⟨heard, ending⟩
    exact h.proceed h.attemptStatus _ _
  exact h.bind (h.monitored hrun) fun outcome => h.bind (h.log _) fun _ => h.pure outcome

/-! ## Files -/

theorem attemptListing (mask : String) (deadline : Nat) :
    R _ (m.attemptListing mask deadline) (m'.attemptListing mask deadline) := by
  unfold Monitor.attemptListing
  cases Output.Match.start mask with
  | error f => exact h.pure _
  | ok read =>
      refine h.bind (h.ask deadline Output.Match.listener read (h.list_matches mask)) ?_
      rintro ⟨heard, ending⟩
      cases ending with
      | error b => exact h.pure _
      | ok done =>
          exact Act.Congruence.ite (h.pure _) (h.bind (h.ticks _) fun _ => h.pure _)

theorem runFileWait (mask : String) : R Outcome (m.runFileWait mask) (m'.runFileWait mask) := by
  refine h.bind (h.handOver (fun deadline _ => h.attemptListing mask deadline) ()) fun result => ?_
  cases result with
  | ok done => exact h.pure _
  | error f =>
      cases f with
      | timeoutExceeded => exact h.pure _
      | _ => exact h.bind (h.log _) fun _ => h.pure _

theorem waitForFile (mask : String) : R Outcome (m.waitForFile mask) (m'.waitForFile mask) := by
  unfold Monitor.waitForFile
  cases Mask.compile mask with
  | error f => exact h.pure _
  | ok compiled =>
      exact h.bind (h.monitored (h.runFileWait mask)) fun outcome =>
        h.bind (h.log _) fun _ => h.pure outcome

end Monitor.Congruence

end SprayWatch
