import SprayWatch.Proofs.LimitedCalls
import SprayWatch.Proofs.Thresholds

/-!
# The progress messages of a monitor

All the runs of a monitor share one limiter of progress messages.  An outline of what a monitor
does leaves open which of the calls of the limiter are let through; it has the reading of the clock
at each call, and the message.  Whatever a monitor does has an outline that is the same for all
limiters and thresholds, so these decide about nothing but the printing of records.

An outline is filled in by a decision on the calls, which are numbered over the whole life of the
monitor.  The limiter's own decision goes by the readings alone: not by the threshold, nor by what
the calls come from.
-/

namespace SprayWatch

/-- Something that is done whatever the limiter says, or a call of the limiter. -/
inductive Outline.Item where
  | done (entry : Entry)
  | call (now : Nat) (message : String)
  deriving Repr, DecidableEq

/-- What is done, in order, with the calls of the limiter left open. -/
abbrev Outline := List Outline.Item

namespace Outline

/-- What the clock reads at the calls. -/
def readings (o : Outline) : List Nat :=
  o.filterMap fun
    | .call now _ => some now
    | .done _ => none

/-- The transcript when just the calls with certain numbers are let through. -/
def tell (through : Nat → Bool) : Outline → Transcript
  | [] => []
  | .done entry :: rest => entry :: tell through rest
  | .call _ message :: rest =>
    (if through 0 then [.logged (.of .trace "monitor" [message])] else []) ++
      tell (fun k => through (k + 1)) rest

/-- The transcript when a limiter decides. -/
def told (l : Limiter) (o : Outline) : Transcript :=
  o.tell (l.letsThrough Monitor.tickInterval o.readings)

theorem readings_done (entry : Entry) (o : Outline) :
    readings (.done entry :: o) = o.readings := rfl

theorem readings_call (now : Nat) (message : String) (o : Outline) :
    readings (.call now message :: o) = now :: o.readings := rfl

theorem readings_append (o o' : Outline) : (o ++ o').readings = o.readings ++ o'.readings :=
  List.filterMap_append

theorem told_done (l : Limiter) (entry : Entry) (o : Outline) :
    told l (.done entry :: o) = entry :: o.told l := rfl

theorem told_call (l : Limiter) (now : Nat) (message : String) (o : Outline) :
    told l (.call now message :: o) =
      (if l.isDue Monitor.tickInterval now then [.logged (.of .trace "monitor" [message])]
        else []) ++ o.told (l.ask Monitor.tickInterval now) := by
  rw [told, readings_call, tell, Limiter.letsThrough_zero, Limiter.letsThrough_succ]
  rfl

theorem told_append (l : Limiter) (o o' : Outline) :
    (o ++ o').told l = o.told l ++ o'.told (l.after Monitor.tickInterval o.readings) := by
  induction o generalizing l with
  | nil => rfl
  | cons item o ih =>
      rw [List.cons_append]
      cases item with
      | done entry => rw [told_done, told_done, ih, readings_done, List.cons_append]
      | call now message =>
          rw [told_call, told_call, ih, readings_call, Limiter.after_cons, List.append_assoc]

/-- The outline without any calls. -/
def of (t : Transcript) : Outline := t.map .done

theorem readings_of (t : Transcript) : (of t).readings = [] := by
  induction t with
  | nil => rfl
  | cons entry t ih => exact ih

theorem told_of (l : Limiter) (t : Transcript) : (of t).told l = t := by
  induction t with
  | nil => rfl
  | cons entry t ih =>
      rw [of, List.map_cons, told_done]
      exact congrArg (entry :: ·) ih

end Outline

/-- The station with another limiter and another threshold. -/
def Station.under {σ : Type} (s : Station σ) (l : Limiter) (p : Log.Priority) : Station σ :=
  { s with ticks := l, threshold := p }

theorem Station.logged_under {σ : Type} (s : Station σ) (l : Limiter) (p : Log.Priority)
    (rs : List Log.Record) :
    (s.under l p).logged rs = Transcript.above p (rs.map .logged) := by
  unfold Station.logged Transcript.above
  rw [List.filter_map]
  rfl

/-- Does an act have an outline, from each station one for all limiters and thresholds?  Neither
has a say in its value or in the rest of the station either. -/
def Act.Outlined {σ α : Type} (x : Act σ α) : Prop :=
  ∀ s : Station σ, ∃ (a : α) (o : Outline) (t : Station σ), ∀ l p,
    x (s.under l p) =
      ⟨a, (o.told l).above p, t.under (l.after Monitor.tickInterval o.readings) p⟩

namespace Act.Outlined

variable {σ α β : Type}

/-- An act that does not call the limiter has an outline without calls. -/
theorem of_quiet {x : Act σ α}
    (hquiet : ∀ s : Station σ, ∃ (a : α) (d : Transcript) (t : Station σ), ∀ l p,
      x (s.under l p) = ⟨a, d.above p, t.under l p⟩) : x.Outlined := by
  intro s
  obtain ⟨a, d, t, hstep⟩ := hquiet s
  refine ⟨a, .of d, t, fun l p => ?_⟩
  rw [hstep, Outline.told_of, Outline.readings_of, Limiter.after_nil]

theorem pure (a : α) : (Pure.pure a : Act σ α).Outlined :=
  of_quiet fun s => ⟨a, [], s, fun _ _ => rfl⟩

theorem bind {x : Act σ α} {f : α → Act σ β} (hfirst : x.Outlined)
    (hnext : ∀ a, (f a).Outlined) : (x >>= f).Outlined := by
  intro s
  obtain ⟨a, o, t, hfirst⟩ := hfirst s
  obtain ⟨b, o', u, hnext⟩ := hnext a t
  refine ⟨b, o ++ o', u, fun l p => ?_⟩
  rw [Act.bind_apply, hfirst, hnext, Outline.told_append, Outline.readings_append,
    Transcript.above_append, Limiter.after_append]

theorem logAll (rs : List Log.Record) : (Act.logAll rs : Act σ Unit).Outlined := by
  apply of_quiet
  intro s
  refine ⟨(), rs.map .logged, s, fun l p => ?_⟩
  rw [Act.logAll_apply, s.logged_under]

theorem look {f : Station σ → α} (hsees : ∀ s l p, f (s.under l p) = f s) :
    (Act.look f).Outlined :=
  of_quiet fun s => ⟨f s, [], s, fun l p => by
    rw [Act.look, hsees]
    rfl⟩

theorem change {f : Station σ → Station σ} (hkeeps : ∀ s l p, f (s.under l p) = (f s).under l p) :
    (Act.change f).Outlined :=
  of_quiet fun s => ⟨(), [], f s, fun l p => by
    rw [Act.change, hkeeps]
    rfl⟩

/-- Congruences are about pairs of acts; here both are the same act. -/
theorem congruence : Act.Congruence (σ := σ) fun _ x y => x = y ∧ x.Outlined where
  pure a := ⟨rfl, .pure a⟩
  bind := by
    rintro α β x _ f g ⟨rfl, hfirst⟩ hnext
    have hsame : f = g := funext fun a => (hnext a).1
    exact ⟨by rw [hsame], hfirst.bind fun a => (hnext a).2⟩
  logAll rs := ⟨rfl, .logAll rs⟩

theorem cancel : (Act.cancel : Act σ Unit).Outlined :=
  (congruence.cancel ⟨rfl, .look fun _ _ _ => rfl⟩ ⟨rfl, .change fun _ _ _ => rfl⟩).2

theorem hear {read : Type} (listener : Listener read) (known : read)
    (happenings : List Happening) : (Act.hear listener known happenings : Act σ read).Outlined := by
  have hstop : (Act.askStop : Act σ Unit).Outlined :=
    (Act.Outlined.change fun _ _ _ => rfl).bind fun _ => cancel
  exact (congruence.hear ⟨rfl, hstop⟩ listener known happenings).2

theorem drawWait (previous ceiling : Nat) :
    (Act.drawWait previous ceiling : Act σ Backoff.Wait).Outlined := by
  apply of_quiet
  intro s
  let drawn := Act.drawWait previous ceiling s
  exact ⟨drawn.value, [], drawn.station, fun l p => rfl⟩

section Sites

variable (site : Site σ)

theorem runCommand {read : Type} (listener : Listener read) (known : read) (c : Command)
    (watch : Watch) : (Act.runCommand site listener known c watch).Outlined := by
  intro s
  cases hrun : site.run c watch s.site with
  | mk course after =>
      obtain ⟨heard, o, t, hheard⟩ :=
        hear listener known course.happenings { s with site := after }
      refine ⟨(heard, Ending.outcome? course.ending), .done (.ran c) :: o, t, fun l p => ?_⟩
      have hsite : (s.under l p).site = s.site := rfl
      have hstep : Act.hear listener known course.happenings { s.under l p with site := after } =
        _ := hheard l p
      simp only [Act.runCommand, hsite, hrun, hstep]
      rfl

theorem pause (ms : Nat) (patience : Option Nat) : (Act.pause site ms patience).Outlined := by
  intro s
  cases hpause : site.pause ms (.on s.current patience) s.site with
  | mk course after =>
      obtain ⟨heard, o, t, hheard⟩ :=
        hear .deaf () course.happenings { s with site := after }
      have hsite : ∀ l p, site.pause ms (.on (s.under l p).current patience) (s.under l p).site =
        (course, after) := fun _ _ => hpause
      have hstep : ∀ l p, Act.hear .deaf () course.happenings
        { s.under l p with site := after } = _ := hheard
      by_cases hraised : t.current.any Signal.raised = true
      · refine ⟨.error (.failed .interrupted), o, t, fun l p => ?_⟩
        simp only [Act.pause, hsite, hstep]
        exact if_pos hraised
      · cases hending : course.ending with
        | none =>
            refine ⟨.error .abandoned, o, t, fun l p => ?_⟩
            simp only [Act.pause, hsite, hstep, hending]
            exact if_neg hraised
        | some done =>
            refine ⟨.ok (), o ++ .of [.waited ms], t, fun l p => ?_⟩
            simp only [Act.pause, hsite, hstep, hending, Outline.told_append, Outline.told_of,
              Outline.readings_append, Outline.readings_of, List.append_nil,
              Transcript.above_append]
            exact if_neg hraised

end Sites

theorem tick (m : Monitor σ) (message : String) : (m.tick message).Outlined := by
  intro s
  refine ⟨(), [.call (m.site.clock s.site) message], s, fun l p => ?_⟩
  have hnow : m.site.clock (s.under l p).site = m.site.clock s.site := rfl
  have hticks : (s.under l p).ticks = l := rfl
  rw [m.tick_apply, hnow, hticks, Station.logged_under, Outline.told_call]
  cases l.isDue Monitor.tickInterval (m.site.clock s.site) with
  | true => rfl
  | false => rfl

end Act.Outlined

/-! ## The life of a monitor -/

namespace Monitor

variable {σ : Type}

/-- What becomes of a monitor: it follows a job or waits for a file, its run is cancelled, a worker
that is not waited for any longer calls its limiter, or its site changes meanwhile. -/
inductive Use (σ : Type) where
  | submit (c : Command)
  | waitForFile (mask : String)
  | cancel
  | lateCall (message : String)
  | meanwhile (change : σ → σ)

def use (m : Monitor σ) : Use σ → Act σ Unit
  | .submit c => do
    let _ ← m.submit c
    return ()
  | .waitForFile mask => do
    let _ ← m.waitForFile mask
    return ()
  | .cancel => Act.cancel
  | .lateCall message => m.tick message
  | .meanwhile change => Act.change fun s => { s with site := change s.site }

end Monitor

end SprayWatch
