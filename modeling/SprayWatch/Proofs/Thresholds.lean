import Mathlib.Data.List.Forall2
import SprayWatch.Proofs.Executions
import SprayWatch.Proofs.Polling

/-!
# Thresholds of the log

The threshold decides which records are printed and nothing else.  Two runs that differ only in
their thresholds go alike: each of them finds the site, the random numbers and the limiter of
progress messages in the state in which the other finds them, whether or not a record has just been
printed.  What the run with the higher threshold does is what the other does, less the records that
do not reach it.
-/

namespace SprayWatch

theorem Log.Priority.reaches_trans {p q r : Log.Priority} (hrq : r.reaches q = true)
    (hqp : q.reaches p = true) : r.reaches p = true := by
  unfold reaches at *
  have hfirst : q.rank ≤ r.rank := of_decide_eq_true hrq
  have hsecond : p.rank ≤ q.rank := of_decide_eq_true hqp
  exact decide_eq_true (hsecond.trans hfirst)

/-- Is the entry still made under a threshold? -/
def Entry.reaches (threshold : Log.Priority) : Entry → Bool
  | .logged r => r.priority.reaches threshold
  | _ => true

namespace Transcript

/-- What is left of a transcript under a threshold. -/
def above (threshold : Log.Priority) (t : Transcript) : Transcript :=
  t.filter (Entry.reaches threshold)

variable (q : Log.Priority)

theorem above_append (t u : Transcript) : (t ++ u).above q = t.above q ++ u.above q :=
  List.filter_append t u

theorem deeds_above (t : Transcript) : (t.above q).deeds = t.deeds := by
  unfold above deeds
  rw [List.filter_filter]
  apply List.filter_congr
  intro entry _
  cases entry <;> simp [Entry.reaches, Entry.isDeed]

theorem records_above (t : Transcript) :
    Transcript.records (t.above q) =
      (Transcript.records t).filter fun r => r.priority.reaches q := by
  unfold records above
  rw [List.filterMap_filter, List.filter_filterMap]
  congr 1
  funext entry
  cases entry with
  | logged r => rfl
  | _ => rfl

end Transcript

/-! ## Two thresholds -/

namespace Comparison

variable {σ : Type} {p q : Log.Priority}

/-- Stations match that differ only in the threshold, which is `p` at the one and `q` at the other.
Whatever was done under `q` is what was done under `p`, less the records that do not reach `q`. -/
def raising (σ : Type) (hpq : q.reaches p = true) : Comparison σ σ where
  stations s t := s.threshold = p ∧ t = { s with threshold := q }
  dids t u := u = t.above q
  commands := Eq
  dids_nil := rfl
  dids_append := by
    intro t u t' u' hfirst hlater
    rw [hfirst, hlater, Transcript.above_append]
  dids_logged := by
    rintro s _ rs ⟨hthreshold, rfl⟩
    unfold Transcript.above Station.logged
    rw [List.filter_map, List.filter_filter, hthreshold]
    congr 1
    apply List.filter_congr
    intro r _
    cases hreaches : r.priority.reaches q with
    | true => simp [Entry.reaches, hreaches, Log.Priority.reaches_trans hreaches hpq]
    | false => simp [Entry.reaches, hreaches]
  accepting_eq := by
    rintro s _ ⟨-, rfl⟩
    rfl
  current_eq := by
    rintro s _ ⟨-, rfl⟩
    rfl

variable (hpq : q.reaches p = true)

theorem sites_raising (site : Site σ) : (raising σ hpq).Sites site site where
  current := by
    rintro s _ f ⟨hthreshold, rfl⟩
    exact ⟨hthreshold, rfl⟩
  single := by
    rintro s _ f ⟨hthreshold, rfl⟩
    exact ⟨hthreshold, rfl⟩
  single_eq := by
    rintro s _ ⟨-, rfl⟩
    rfl
  draws_eq := by
    rintro s _ ⟨-, rfl⟩
    rfl
  ticks_eq := by
    rintro s _ ⟨-, rfl⟩
    rfl
  draws := by
    rintro s _ draws ⟨hthreshold, rfl⟩
    exact ⟨hthreshold, rfl⟩
  ticks := by
    rintro s _ ticks ⟨hthreshold, rfl⟩
    exact ⟨hthreshold, rfl⟩
  run := by
    rintro c _ watch s _ rfl ⟨hthreshold, rfl⟩
    exact ⟨rfl, hthreshold, rfl⟩
  pause := by
    rintro ms watch s _ ⟨hthreshold, rfl⟩
    exact ⟨rfl, hthreshold, rfl⟩
  clock_eq := by
    rintro s _ ⟨-, rfl⟩
    rfl
  remove := by
    rintro dir s _ ⟨hthreshold, rfl⟩
    exact ⟨rfl, hthreshold, rfl⟩
  localAddress_eq := by
    rintro s _ ⟨-, rfl⟩
    rfl
  ran := by
    rintro c _ rfl
    rfl
  waited _ := rfl
  removal _ := rfl

theorem executors_raising (e : Executor σ) : (raising σ hpq).Executors e e := by
  have hsites := sites_raising hpq e.monitor.site
  refine hsites.executors (hsites.monitors rfl rfl ?_ ?_) ?_
  · exact fun jobId action => rfl
  · exact fun mask => rfl
  · exact fun op address => rfl

/-- Acts that go alike one by one go alike one after another. -/
theorem each {τ α : Type} {K : Comparison σ τ} {xs : List (Act σ α)} {ys : List (Act τ α)}
    (hacts : List.Forall₂ (K.Acts Eq) xs ys) {s : Station σ} {t : Station τ}
    (hmatch : K.stations s t) :
    List.Forall₂ (K.Steps Eq) (Act.each xs s).1 (Act.each ys t).1 ∧
      K.stations (Act.each xs s).2 (Act.each ys t).2 := by
  induction hacts generalizing s t with
  | nil => exact ⟨.nil, hmatch⟩
  | cons hact _ ih =>
      have hstep := hact s t hmatch
      obtain ⟨hlater, hlast⟩ := ih hstep.station
      exact ⟨.cons hstep hlater, hlast⟩

end Comparison

/-! ## Sequences of demands -/

namespace Executor

variable {σ : Type}

/-- What can be asked of an executor or, past it, of its monitor. -/
inductive Demand where
  | request (r : Request)
  | submit (c : Command)
  | waitForFile (mask : String)
  | cancel
  deriving Repr, DecidableEq

/-- What is returned for it. -/
inductive Result where
  | response (r : Response)
  | outcome (o : Outcome)
  | cancelled

def meet (e : Executor σ) : Demand → Act σ Result
  | .request r => do return .response (← e.serve r)
  | .submit c => do return .outcome (← e.monitor.submit c)
  | .waitForFile mask => do return .outcome (← e.monitor.waitForFile mask)
  | .cancel => do
    Act.cancel
    return .cancelled

end Executor

/-- Does a step under a higher threshold differ from one under a lower only in what is printed? -/
structure Step.Raised {σ α : Type} (q : Log.Priority) (x y : Step σ α) : Prop where
  value_eq : y.value = x.value
  commands_eq : y.did.commands = x.did.commands
  waits_eq : y.did.waits = x.did.waits
  removals_eq : y.did.removals = x.did.removals
  records_eq : y.did.records = x.did.records.filter fun r => r.priority.reaches q
  station_eq : y.station = { x.station with threshold := q }

/-- All the records that steps print, in order. -/
def Step.printed {σ α : Type} (steps : List (Step σ α)) : List Log.Record :=
  steps.flatMap fun step => step.did.records

theorem Step.printed_of_raised {σ α : Type} {q : Log.Priority} {low high : List (Step σ α)}
    (hraised : List.Forall₂ (Step.Raised q) low high) :
    printed high = (printed low).filter fun r => r.priority.reaches q := by
  unfold printed
  induction hraised with
  | nil => rfl
  | cons hstep _ ih =>
      rw [List.flatMap_cons, List.flatMap_cons, List.filter_append, ih, hstep.records_eq]

namespace Comparison

variable {σ : Type} {p q : Log.Priority} (hpq : q.reaches p = true)

theorem raised_of_steps {α : Type} {x y : Step σ α} (hsteps : (raising σ hpq).Steps Eq x y) :
    x.Raised q y := by
  obtain ⟨hvalue, hdid, -, hstation⟩ := hsteps
  have hdeeds : y.did.deeds = x.did.deeds := by
    rw [hdid, Transcript.deeds_above]
  refine ⟨hvalue.symm, ?_, ?_, ?_, ?_, hstation⟩
  · rw [← Transcript.commands_deeds, hdeeds, Transcript.commands_deeds]
  · rw [← Transcript.waits_deeds, hdeeds, Transcript.waits_deeds]
  · rw [← Transcript.removals_deeds, hdeeds, Transcript.removals_deeds]
  · rw [hdid, Transcript.records_above]

theorem meet_raising (e : Executor σ) (d : Executor.Demand) :
    (raising σ hpq).Acts Eq (e.meet d) (e.meet d) := by
  have hsites := sites_raising hpq e.monitor.site
  have hexecutors := executors_raising hpq e
  have hclose : (raising σ hpq).Acts Eq Executor.closePool Executor.closePool := by
    apply Acts.change
    rintro s _ ⟨hthreshold, rfl⟩
    exact ⟨hthreshold, rfl⟩
  have hshutdown : (raising σ hpq).Acts Eq Executor.shutdown Executor.shutdown :=
    hsites.askStop.then fun _ => hclose.then fun _ => .log _
  cases d with
  | submit c => exact (hexecutors.submit rfl).then fun o => .pure rfl
  | waitForFile mask => exact (hexecutors.waitForFile mask).then fun o => .pure rfl
  | cancel => exact hsites.cancel.then fun _ => .pure rfl
  | request r =>
      refine Acts.then ?_ fun response => .pure rfl
      cases r with
      | execute op => exact (hexecutors.execute op).then fun result => .pure rfl
      | stop => exact hsites.askStop.then fun _ => .pure rfl
      | shutdown => exact hshutdown.then fun _ => .pure rfl

end Comparison

namespace Executor

variable {σ : Type}

/-- Whatever is demanded of an executor and its monitor under two thresholds, the same is returned,
the same commands are run, the same waits waited and the same directories removed, and the stations
differ in nothing but the threshold.  Of the records those are printed under the higher threshold
that reach it, in the same order. -/
theorem threshold_decides_printing (e : Executor σ) (demands : List Demand) (s : Station σ)
    {p q : Log.Priority} (hpq : q.reaches p = true) :
    let low := Act.each (demands.map e.meet) { s with threshold := p }
    let high := Act.each (demands.map e.meet) { s with threshold := q }
    List.Forall₂ (Step.Raised q) low.1 high.1 ∧
    Step.printed high.1 = (Step.printed low.1).filter (fun r => r.priority.reaches q) ∧
    high.2 = { low.2 with threshold := q } := by
  intro low high
  have hacts : List.Forall₂ ((Comparison.raising σ hpq).Acts Eq) (demands.map e.meet)
      (demands.map e.meet) := by
    apply List.forall₂_same.mpr
    intro act hmem
    obtain ⟨d, -, rfl⟩ := List.mem_map.mp hmem
    exact Comparison.meet_raising hpq e d
  have hmatch : (Comparison.raising σ hpq).stations { s with threshold := p }
      { s with threshold := q } := ⟨rfl, rfl⟩
  obtain ⟨hsteps, -, hlast⟩ := Comparison.each hacts hmatch
  have hraised : List.Forall₂ (Step.Raised q) low.1 high.1 :=
    hsteps.imp fun _ _ hstep => Comparison.raised_of_steps hpq hstep
  exact ⟨hraised, Step.printed_of_raised hraised, hlast⟩

/-- A deletion and a submission that names no job: under the higher threshold only the complaint
about the submission is printed. -/
theorem threshold_decides_printing_rehearsing :
    let e : Executor Rehearsal := ⟨.rehearsing⟩
    let demands : List Demand :=
      [.request (.execute (.delete "zzlc::old")), .submit (.bare ⟨"dfuplus"⟩)]
    let s : Station Rehearsal := .start (.start [] .empty) ⟨[]⟩
    let low := Act.each (demands.map e.meet) { s with threshold := .trace }
    let high := Act.each (demands.map e.meet) { s with threshold := .warning }
    let complaint : Log.Record := .of .error "monitor" ["No WUID in submission output"]
    Log.Priority.warning.reaches .trace = true ∧
    (Step.printed low.1).map Log.Record.priority = [.info, .error, .info] ∧
    Step.printed high.1 = [complaint] ∧
    high.2 = { low.2 with threshold := .warning } := by
  intro e demands s low high complaint
  have hpq : Log.Priority.warning.reaches .trace = true := by decide
  obtain ⟨-, hprinted, hlast⟩ := threshold_decides_printing e demands s hpq
  refine ⟨hpq, by decide +kernel, ?_, hlast⟩
  rw [hprinted]
  decide +kernel

end Executor

end SprayWatch
