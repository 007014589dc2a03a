import SprayWatch.Proofs.Preservation

/-!
# Requests, one after another

An executor is asked for one thing after another.  Between two requests no signal is left over, so a
stop that comes then changes nothing.  An operation before the shutdown goes as it would at a new
executor that finds the site in the same state; after the shutdown nothing is done any more.
-/

namespace SprayWatch

/-! ## Commands that extend a base -/

/-- Does a command run the executable of a base with the base's arguments in front? -/
structure Command.Extends (c base : Command) : Prop where
  executable_eq : c.executable = base.executable
  args_prefix : base.args <+: c.args

namespace Command.Extends

variable {c base : Command}

theorem withArgs (base : Command) (args : List String) : (base.withArgs args).Extends base :=
  ⟨rfl, List.prefix_append base.args args⟩

theorem arg (h : c.Extends base) (a : String) : (c.arg a).Extends base :=
  ⟨h.executable_eq, h.args_prefix.trans (List.prefix_append c.args [a])⟩

theorem refl (base : Command) : base.Extends base := ⟨rfl, List.prefix_rfl⟩

theorem query (base : Command) (jobId : String) : (base.query jobId).Extends base := by
  unfold Command.query
  split
  · exact refl base
  · exact (refl base).arg _

theorem list (base : Command) (mask : String) : (base.list mask).Extends base :=
  ((refl base).arg _).arg _

theorem plan (base : Command) (op : Operation) (address : String) :
    (op.plan base address).command.Extends base := by
  cases op with
  | list mask => exact list base mask
  | poll name => exact list base name
  | _ => exact withArgs base _

end Command.Extends

def Entry.Extends (base : Command) : Entry → Prop
  | .ran c => c.Extends base
  | _ => True

theorem Transcript.mem_commands {t : Transcript} {c : Command} :
    c ∈ t.commands ↔ .ran c ∈ t := by
  unfold commands
  rw [List.mem_filterMap]
  constructor
  · rintro ⟨entry, hmem, hcommand⟩
    cases entry with
    | ran d =>
        obtain rfl := Option.some.inj hcommand
        exact hmem
    | _ => simp at hcommand
  · intro hmem
    exact ⟨.ran c, hmem, rfl⟩

/-! ## Stations without signals -/

/-- Neither kind of run is under way: there is no signal that could be raised. -/
structure Station.Idle {σ : Type} (s : Station σ) : Prop where
  current_eq : s.current = none
  single_eq : s.single = none

theorem Station.Idle.start {σ : Type} (site : σ) (draws : Backoff.Draws) :
    (Station.start site draws).Idle :=
  ⟨rfl, rfl⟩

/-- Such a station is that of a new executor, but for what decides about logging. -/
theorem Station.Idle.eq_start {σ : Type} {s : Station σ} (hidle : s.Idle)
    (haccepting : s.accepting = true) :
    s = { Station.start s.site s.draws with ticks := s.ticks, threshold := s.threshold } := by
  obtain ⟨site, draws, ticks, accepting, current, single, threshold⟩ := s
  obtain ⟨rfl, rfl⟩ := hidle
  obtain rfl : accepting = true := haccepting
  rfl

theorem Act.askStop_of_idle {σ : Type} {s : Station σ} (hidle : s.Idle) :
    Act.askStop s = ⟨(), [], s⟩ := by
  obtain ⟨site, draws, ticks, accepting, current, single, threshold⟩ := s
  obtain ⟨rfl, rfl⟩ := hidle
  rfl

theorem Station.after_current_eq_none {σ : Type} {s : Station σ}
    (happenings : List Happening) (hnone : s.current = none) :
    (s.after happenings).current = none := by
  unfold after stopped
  split
  · simp [hnone]
  · exact hnone

namespace Monitor

variable {σ : Type} (m : Monitor σ)

theorem keeps_single : m.Keeps (fun s => s.single = none) fun _ => True := by
  constructor <;> simp +contextual [Station.stopped]

variable {m} {s : Station σ}

theorem submit_idle (c : Command) (hsingle : s.single = none) :
    (m.submit c s).station.Idle := by
  refine ⟨?_, (m.keeps_single.submit trivial hsingle).1⟩
  simp [submit, submitBy, monitored]

theorem waitForFile_idle (mask : String) (hidle : s.Idle) :
    (m.waitForFile mask s).station.Idle := by
  refine ⟨?_, (m.keeps_single.waitForFile mask hidle.single_eq).1⟩
  unfold waitForFile
  cases Mask.compile mask with
  | error f => exact hidle.current_eq
  | ok compiled => simp [monitored]

end Monitor

namespace Executor

variable {σ : Type} (e : Executor σ)

theorem keeps_accepting (accepting : Bool) :
    e.Keeps (fun s => s.accepting = accepting) (Entry.Extends e.monitor.base) where
  current _ hs := hs
  stopped hs := hs
  draws _ hs := hs
  ticks _ hs := hs
  ran _ _ hs := hs
  paused _ _ hs := hs
  logged _ := trivial
  waited _ := trivial
  status jobId := (Command.Extends.query _ jobId).arg _
  abort jobId := (Command.Extends.query _ jobId).arg _
  list mask := Command.Extends.list _ mask
  single _ hs := hs
  removed _ hs := hs
  removal _ := trivial
  plan op address := Command.Extends.plan _ op address

section Single

variable {e} {s : Station σ} (op : Operation)

theorem execute_accepting : (e.execute op s).station.accepting = s.accepting :=
  ((e.keeps_accepting s.accepting).execute op rfl).1

theorem execute_extends :
    ∀ c ∈ (e.execute op s).did.commands, c.Extends e.monitor.base := by
  intro c hmem
  exact ((e.keeps_accepting s.accepting).execute op rfl).2 _ (Transcript.mem_commands.mp hmem)

theorem cleared_idle (hidle : s.Idle) : (e.cleared op s).Idle := by
  unfold cleared
  cases op.toRemove? with
  | none => exact hidle
  | some dir => exact ⟨hidle.current_eq, hidle.single_eq⟩

theorem runMonitored_idle (c : Command) (hidle : s.Idle) :
    (e.runMonitored op c s).station.Idle := by
  have hsubmit := e.monitor.submit_idle c hidle.single_eq
  cases houtcome : (e.monitor.submit c s).value.isSuccess with
  | false =>
      rw [e.runMonitored_of_failure op s c houtcome]
      exact hsubmit
  | true =>
      obtain ⟨did, happly, -⟩ := e.runMonitored_of_success op s c houtcome
      rw [happly]
      exact cleared_idle op hsubmit

theorem runOnce_idle (c : Command) (q : Question) (hidle : s.Idle) :
    (e.runOnce op c q s).station.Idle := by
  rw [e.runOnce_station op s c q]
  exact ⟨Station.after_current_eq_none _ hidle.current_eq, rfl⟩

theorem execute_idle (hidle : s.Idle) : (e.execute op s).station.Idle := by
  cases haccepting : s.accepting with
  | false =>
      rw [e.execute_of_not_accepting op s haccepting]
      exact hidle
  | true =>
      obtain ⟨address, did, happly, -⟩ := e.execute_of_accepting op s haccepting
      rw [happly]
      unfold carryOut
      cases (op.plan e.monitor.base address).execution with
      | monitored => exact runMonitored_idle op _ hidle
      | fileWait mask => exact e.monitor.waitForFile_idle mask hidle
      | once q => exact runOnce_idle op _ q hidle

end Single

/-! ## One request -/

section Serving

variable {e} {s : Station σ} (request : Request)

theorem serve_stop (hidle : s.Idle) : e.serve .stop s = ⟨.stopped, [], s⟩ := by
  simp [serve, Act.askStop_of_idle hidle]

theorem serve_shutdown_station (hidle : s.Idle) :
    (e.serve .shutdown s).station = { s with accepting := false } := by
  simp [serve, shutdown, closePool, Act.askStop_of_idle hidle]

theorem serve_shutdown_commands (hidle : s.Idle) :
    (e.serve .shutdown s).did.commands = [] := by
  simp [serve, shutdown, closePool, Act.askStop_of_idle hidle]

theorem serve_execute (op : Operation) :
    e.serve (.execute op) s =
      ⟨.executed (e.execute op s).value, (e.execute op s).did, (e.execute op s).station⟩ := by
  simp [serve]

theorem serve_idle (hidle : s.Idle) : (e.serve request s).station.Idle := by
  cases request with
  | execute op =>
      rw [serve_execute]
      exact execute_idle op hidle
  | stop =>
      rw [serve_stop hidle]
      exact hidle
  | shutdown =>
      rw [serve_shutdown_station hidle]
      exact ⟨hidle.current_eq, hidle.single_eq⟩

theorem serve_accepting (hidle : s.Idle) :
    (e.serve request s).station.accepting = (s.accepting && decide (request ≠ .shutdown)) := by
  cases request with
  | execute op =>
      rw [serve_execute, execute_accepting op]
      exact (Bool.and_true _).symm
  | stop =>
      rw [serve_stop hidle]
      exact (Bool.and_true _).symm
  | shutdown =>
      rw [serve_shutdown_station hidle]
      exact (Bool.and_false _).symm

theorem serve_extends (hidle : s.Idle) :
    ∀ c ∈ (e.serve request s).did.commands, c.Extends e.monitor.base := by
  cases request with
  | execute op =>
      rw [serve_execute]
      exact execute_extends op
  | stop =>
      rw [serve_stop hidle]
      simp [Transcript.commands]
  | shutdown =>
      rw [serve_shutdown_commands hidle]
      simp

end Serving

/-! ## Many requests -/

/-- The station after some requests. -/
def after (requests : List Request) (s : Station σ) : Station σ :=
  (Act.each (requests.map e.serve) s).2

@[simp] theorem after_nil (s : Station σ) : e.after [] s = s := rfl

@[simp] theorem after_cons (request : Request) (requests : List Request) (s : Station σ) :
    e.after (request :: requests) s = e.after requests (e.serve request s).station := rfl

section Sequences

variable {e} {s : Station σ} (requests : List Request)

theorem after_idle (hidle : s.Idle) : (e.after requests s).Idle := by
  induction requests generalizing s with
  | nil => exact hidle
  | cons request requests ih => exact ih (serve_idle request hidle)

theorem after_accepting (hidle : s.Idle) :
    (e.after requests s).accepting = (s.accepting && decide (.shutdown ∉ requests)) := by
  induction requests generalizing s with
  | nil => simp
  | cons request requests ih =>
      rw [after_cons, ih (serve_idle request hidle), serve_accepting request hidle]
      cases request with
      | shutdown => simp
      | _ => simp

theorem after_filter_stops (hidle : s.Idle) :
    e.after (requests.filter (· ≠ .stop)) s = e.after requests s := by
  induction requests generalizing s with
  | nil => rfl
  | cons request requests ih =>
      have hserved : (e.serve request s).station.Idle := serve_idle request hidle
      have hlater := ih hserved
      cases request with
      | stop =>
          rw [serve_stop hidle] at hlater
          simpa [serve_stop hidle] using hlater
      | _ => simpa using hlater

end Sequences

/-- Whatever an executor was asked for before, no signal is left over, and stops between the
requests might as well have been left out.  An operation before the shutdown goes as at a new
executor; every command extends the base; and after the shutdown an operation is refused. -/
theorem served_in_sequence (site : σ) (draws : Backoff.Draws) (before : List Request) :
    let s := e.after before (.start site draws)
    s.Idle ∧
    e.after (before.filter (· ≠ .stop)) (.start site draws) = s ∧
    (∀ op, .shutdown ∉ before →
      (e.execute op s).value = (e.execute op (.start s.site s.draws)).value ∧
      (e.execute op s).did.deeds = (e.execute op (.start s.site s.draws)).did.deeds) ∧
    (∀ request, ∀ c ∈ (e.serve request s).did.commands, c.Extends e.monitor.base) ∧
    (.shutdown ∈ before → ∀ op, e.execute op s = ⟨.error .poolShutDown, [], s⟩) := by
  intro s
  have hidle : s.Idle := after_idle before (.start site draws)
  have haccepting : s.accepting = decide (.shutdown ∉ before) :=
    after_accepting before (.start site draws)
  refine ⟨hidle, after_filter_stops before (.start site draws), ?_, ?_, ?_⟩
  · intro op hrunning
    have hnew := hidle.eq_start (by simpa [hrunning] using haccepting)
    obtain ⟨hvalue, hdeeds, -⟩ :=
      (Comparison.executors_exceptLogging e).execute op _ s ⟨s.ticks, s.threshold, hnew⟩
    exact ⟨hvalue.symm, hdeeds.symm⟩
  · intro request
    exact serve_extends request hidle
  · intro hdown op
    refine e.execute_of_not_accepting op s ?_
    simpa [hdown] using haccepting

theorem served_in_sequence_rehearsing :
    let e : Executor Rehearsal := ⟨.rehearsing⟩
    let before : List Request := [.execute (.delete "zzlc::old"), .stop]
    let s := e.after before (.start (.start [] .empty) ⟨[]⟩)
    let last := e.after (.shutdown :: before) (.start (.start [] .empty) ⟨[]⟩)
    (.shutdown ∉ before ∧ .shutdown ∈ .shutdown :: before) ∧
    (e.execute (.poll "zzlc::new") s).did.deeds =
      (e.execute (.poll "zzlc::new") (.start s.site s.draws)).did.deeds ∧
    e.execute (.poll "zzlc::new") last = ⟨.error .poolShutDown, [], last⟩ := by
  intro e before s last
  have hrunning : .shutdown ∉ before := by decide
  have hdown : .shutdown ∈ .shutdown :: before := by decide
  obtain ⟨-, -, hnew, -⟩ := served_in_sequence e (.start [] .empty) ⟨[]⟩ before
  obtain ⟨-, -, -, -, hrefused⟩ :=
    served_in_sequence e (.start [] .empty) ⟨[]⟩ (.shutdown :: before)
  exact ⟨⟨hrunning, hdown⟩, (hnew (.poll "zzlc::new") hrunning).2,
    hrefused hdown (.poll "zzlc::new")⟩

end Executor

end SprayWatch
