import SprayWatch.Proofs.Executions

/-!
# What runs keep

A comparison in which only equal things match says of a single run what it keeps: a property of the
station that nothing done at the site makes fail, and a bound on all that is done.
-/

namespace SprayWatch

namespace Monitor

variable {σ : Type} {m : Monitor σ} {holds : Station σ → Prop} {allowed : Entry → Prop}

/-- Nothing that a monitor does at its site makes a property of the station fail, and all that it
does on its own account is allowed. -/
structure Keeps (m : Monitor σ) (holds : Station σ → Prop) (allowed : Entry → Prop) : Prop where
  current {s : Station σ} (signal : Option Signal) :
    holds s → holds { s with current := signal }
  stopped {s : Station σ} : holds s → holds s.stopped
  draws {s : Station σ} (draws : Backoff.Draws) : holds s → holds { s with draws := draws }
  ticks {s : Station σ} (ticks : Limiter) : holds s → holds { s with ticks := ticks }
  ran {s : Station σ} (c : Command) (watch : Watch) :
    holds s → holds { s with site := (m.site.run c watch s.site).2 }
  paused {s : Station σ} (ms : Nat) (watch : Watch) :
    holds s → holds { s with site := (m.site.pause ms watch s.site).2 }
  logged (r : Log.Record) : allowed (.logged r)
  waited (ms : Nat) : allowed (.waited ms)
  status (jobId : String) : allowed (.ran (m.base.status jobId))
  abort (jobId : String) : allowed (.ran (m.base.abort jobId))
  list (mask : String) : allowed (.ran (m.base.list mask))

end Monitor

/-- Only equal things match, and only when they are as a property says. -/
def Comparison.only {σ : Type} (holds : Station σ → Prop) (allowed : Entry → Prop)
    (hlogged : ∀ r, allowed (.logged r)) : Comparison σ σ where
  stations s t := s = t ∧ holds s
  dids t u := t = u ∧ ∀ entry ∈ t, allowed entry
  commands c d := c = d ∧ allowed (.ran c)
  dids_nil := ⟨rfl, by simp⟩
  dids_append := by
    rintro t u _ _ ⟨rfl, hfirst⟩ ⟨rfl, hlater⟩
    refine ⟨rfl, fun entry hmem => ?_⟩
    rcases List.mem_append.mp hmem with hmem | hmem
    · exact hfirst entry hmem
    · exact hlater entry hmem
  dids_logged rs hmatch := by
    obtain ⟨rfl, -⟩ := hmatch
    refine ⟨rfl, fun entry hmem => ?_⟩
    obtain ⟨r, -, rfl⟩ := List.mem_map.mp hmem
    exact hlogged r
  accepting_eq hmatch := by rw [hmatch.1]
  current_eq hmatch := by rw [hmatch.1]

namespace Monitor.Keeps

variable {σ α : Type} {m : Monitor σ} {holds : Station σ → Prop} {allowed : Entry → Prop}

theorem allowed_of_deeds (h : m.Keeps holds allowed) {t : Transcript}
    (hdeeds : ∀ entry ∈ t.deeds, allowed entry) : ∀ entry ∈ t, allowed entry := by
  intro entry hmem
  rcases Transcript.mem_deeds_or_logged hmem with hdeed | ⟨r, rfl⟩
  · exact hdeeds entry hdeed
  · exact h.logged r

theorem after (h : m.Keeps holds allowed) {s : Station σ} (happenings : List Happening)
    (hs : holds s) : holds (s.after happenings) := by
  unfold Station.after
  split
  · exact h.stopped hs
  · exact hs

theorem acts (h : m.Keeps holds allowed) {x : Act σ α}
    (hstation : ∀ s, holds s → holds (x s).station)
    (hdeeds : ∀ s, ∀ entry ∈ (x s).did.deeds, allowed entry) :
    (Comparison.only holds allowed h.logged).Acts Eq x x := by
  rintro s _ ⟨rfl, hs⟩
  exact ⟨rfl, ⟨rfl, h.allowed_of_deeds (hdeeds s)⟩, rfl, hstation s hs⟩

theorem monitors (h : m.Keeps holds allowed) :
    (Comparison.only holds allowed h.logged).Monitors m m where
  pollCeiling_eq := rfl
  maxWait_eq := rfl
  clock_eq := by
    rintro s _ ⟨rfl, -⟩
    rfl
  current := by
    rintro s _ f ⟨rfl, hs⟩
    exact ⟨rfl, h.current _ hs⟩
  draws previous ceiling := h.acts (fun s hs => h.draws _ hs) fun s => by simp [Act.drawWait]
  ticks message := h.acts
    (fun s hs => by
      rw [m.tick_station]
      exact h.ticks _ hs)
    fun s => by simp [m.tick_deeds]
  runs := by
    rintro read listener known c _ watch ⟨rfl, hc⟩
    refine h.acts (fun s hs => ?_) fun s => ?_
    · rw [Act.runCommand_station]
      exact h.after _ (h.ran c watch hs)
    · simpa [Act.runCommand_deeds] using hc
  pauses ms patience := by
    refine h.acts (fun s hs => ?_) fun s => ?_
    · rw [Act.pause_station]
      exact h.after _ (h.paused ms _ hs)
    · rw [Act.pause_deeds]
      cases (Act.pause m.site ms patience s).value with
      | ok done => simpa using h.waited ms
      | error b => simp
  status_matches jobId := ⟨rfl, h.status jobId⟩
  abort_matches jobId := ⟨rfl, h.abort jobId⟩
  list_matches mask := ⟨rfl, h.list mask⟩

section Runs

variable {s : Station σ}

theorem of_acts (h : m.Keeps holds allowed) {x : Act σ α}
    (hacts : (Comparison.only holds allowed h.logged).Acts Eq x x) (hs : holds s) :
    holds (x s).station ∧ ∀ entry ∈ (x s).did, allowed entry := by
  obtain ⟨-, ⟨-, hdid⟩, -, hstation⟩ := hacts s s ⟨rfl, hs⟩
  exact ⟨hstation, hdid⟩

theorem submit (h : m.Keeps holds allowed) {c : Command} (hc : allowed (.ran c)) (hs : holds s) :
    holds (m.submit c s).station ∧ ∀ entry ∈ (m.submit c s).did, allowed entry :=
  h.of_acts (h.monitors.submit ⟨rfl, hc⟩) hs

theorem waitForFile (h : m.Keeps holds allowed) (mask : String) (hs : holds s) :
    holds (m.waitForFile mask s).station ∧
      ∀ entry ∈ (m.waitForFile mask s).did, allowed entry :=
  h.of_acts (h.monitors.waitForFile mask) hs

end Runs

end Monitor.Keeps

/-! ## Executors -/

/-- What a monitor keeps, the rest of what an executor does keeps as well. -/
structure Executor.Keeps {σ : Type} (e : Executor σ) (holds : Station σ → Prop)
    (allowed : Entry → Prop) : Prop extends e.monitor.Keeps holds allowed where
  single {s : Station σ} (signal : Option Signal) :
    holds s → holds { s with single := signal }
  removed {s : Station σ} (dir : Path) :
    holds s → holds { s with site := (e.monitor.site.remove dir s.site).2 }
  removal (dir : Path) : allowed (.removal dir)
  plan (op : Operation) (address : String) :
    allowed (.ran (op.plan e.monitor.base address).command)

namespace Executor.Keeps

variable {σ : Type} {e : Executor σ} {holds : Station σ → Prop} {allowed : Entry → Prop}

theorem executors (h : e.Keeps holds allowed) :
    (Comparison.only holds allowed h.logged).Executors e e where
  toMonitors := h.monitors
  single_eq hmatch := by rw [hmatch.1]
  single := by
    rintro s _ f ⟨rfl, hs⟩
    exact ⟨rfl, h.single _ hs⟩
  localAddress_eq hmatch := by rw [hmatch.1]
  removes dir := h.acts (fun s hs => h.removed dir hs) fun s => by
    simpa [Act.remove] using h.removal dir
  plan_matches op address := ⟨rfl, h.plan op address⟩

theorem execute (h : e.Keeps holds allowed) (op : Operation) {s : Station σ} (hs : holds s) :
    holds (e.execute op s).station ∧ ∀ entry ∈ (e.execute op s).did, allowed entry :=
  h.of_acts (h.executors.execute op) hs

end Executor.Keeps

end SprayWatch
