import SprayWatch.Executor.Basic
import SprayWatch.Proofs.Comparisons
import SprayWatch.Proofs.StatusQueries

/-!
# Carrying out operations

Executors whose monitors agree carry out the same operation alike.  A first use of this is to forget
the limiter of progress messages and the threshold, which decide about nothing but logging.  The rest
of the file says what carrying out an operation gives, what it does and which station it leaves.
-/

namespace SprayWatch

theorem Station.after_withLogging {σ : Type} (s : Station σ) (site : σ) (ticks : Limiter)
    (threshold : Log.Priority) (happenings : List Happening) :
    ({ s with site := site, ticks := ticks, threshold := threshold } : Station σ).after
        happenings =
      { ({ s with site := site } : Station σ).after happenings with
        ticks := ticks, threshold := threshold } := by
  unfold after
  split <;> rfl

namespace Comparison

variable {σ τ : Type}

/-- Executors agree when their monitors do, and whatever else they do at their sites goes alike. -/
structure Executors (K : Comparison σ τ) (e : Executor σ) (e' : Executor τ) : Prop extends
    K.Monitors e.monitor e'.monitor where
  single_eq {s : Station σ} {t : Station τ} : K.stations s t → s.single = t.single
  single {s : Station σ} {t : Station τ} (f : Option Signal → Option Signal) :
    K.stations s t → K.stations { s with single := f s.single } { t with single := f t.single }
  localAddress_eq {s : Station σ} {t : Station τ} :
    K.stations s t → e.monitor.site.localAddress s.site = e'.monitor.site.localAddress t.site
  removes (dir : Path) :
    K.Acts Eq (Act.remove e.monitor.site dir) (Act.remove e'.monitor.site dir)
  plan_matches (op : Operation) (address : String) :
    K.commands (op.plan e.monitor.base address).command
      (op.plan e'.monitor.base address).command

/-- Plans match when they run matching commands in the same way. -/
structure Plans (K : Comparison σ τ) (p p' : Plan) : Prop where
  command : K.commands p.command p'.command
  execution : p.execution = p'.execution

namespace Executors

variable {K : Comparison σ τ} {e : Executor σ} {e' : Executor τ} (h : K.Executors e e')
include h

theorem localAddress : K.Acts Eq e.localAddress e'.localAddress := by
  refine (Acts.look fun s t hmatch => h.localAddress_eq hmatch).then fun result => ?_
  cases result with
  | ok address => exact .pure rfl
  | error fault => exact (Acts.log _).then fun _ => .pure rfl

theorem plan (op : Operation) : K.Acts K.Plans (e.plan op) (e'.plan op) := by
  have hplans : ∀ address, K.Plans (op.plan e.monitor.base address)
      (op.plan e'.monitor.base address) :=
    fun address => ⟨h.plan_matches op address, by cases op <;> rfl⟩
  unfold Executor.plan
  cases op.needsLocalAddress with
  | true => exact h.localAddress.then fun address => .pure (hplans address)
  | false => exact Acts.then (.pure rfl) fun address => .pure (hplans address)

theorem runMonitored (op : Operation) {c c' : Command} (hcommands : K.commands c c') :
    K.Acts Eq (e.runMonitored op c) (e'.runMonitored op c') := by
  have hcleanUp : K.Acts Eq (e.cleanUp op) (e'.cleanUp op) := by
    unfold Executor.cleanUp
    cases op.toRemove? with
    | none => exact .pure rfl
    | some dir => exact (Acts.log _).then fun _ => h.removes dir
  refine (h.submit hcommands).then fun outcome => ?_
  cases outcome.isSuccess with
  | false => exact .pure rfl
  | true =>
      refine hcleanUp.then fun result => ?_
      cases result with
      | ok done => exact .pure rfl
      | error fault => exact (Acts.log _).then fun _ => .pure rfl

theorem runOnce (op : Operation) {c c' : Command} (hcommands : K.commands c c')
    (q : Question) : K.Acts Eq (e.runOnce op c q) (e'.runOnce op c' q) := by
  have hwatch : K.Acts Eq (Act.look fun s => Watch.on s.single none)
      (Act.look fun s => Watch.on s.single none) := by
    apply Acts.look
    intro s t hmatch
    rw [h.single_eq hmatch]
  refine Acts.then (.change fun _ _ hmatch => h.single (fun _ => some .fresh) hmatch) fun _ =>
    hwatch.then fun watch => (h.runs Answer.listener (.start q) watch hcommands).then ?_
  rintro ⟨read, ending⟩
  refine Acts.then (.change fun _ _ hmatch => h.single (fun _ => none) hmatch) fun _ => ?_
  cases ending.mapError Break.failure with
  | error f => exact .pure rfl
  | ok o => exact .ite ((Acts.log _).then fun _ => .pure rfl) (.pure rfl)

theorem execute (op : Operation) : K.Acts Eq (e.execute op) (e'.execute op) := by
  refine Acts.accepting.then fun accepting => ?_
  cases accepting with
  | false => exact .pure rfl
  | true =>
      refine (h.plan op).bind ?_
      rintro ⟨c, execution⟩ ⟨c', _⟩ ⟨hcommand, rfl⟩
      refine (Acts.log _).then fun _ => ?_
      cases execution with
      | monitored => exact (h.runMonitored op hcommand).then fun report => .pure rfl
      | fileWait mask => exact (h.waitForFile mask).then fun outcome => .pure rfl
      | once q => exact h.runOnce op hcommand q

end Executors

/-- Executors whose monitors agree agree themselves when their sites do and their plans match. -/
theorem Sites.executors {K : Comparison σ τ} {e : Executor σ} {e' : Executor τ}
    (h : K.Sites e.monitor.site e'.monitor.site) (hmonitors : K.Monitors e.monitor e'.monitor)
    (hplan : ∀ (op : Operation) (address : String),
      K.commands (op.plan e.monitor.base address).command
        (op.plan e'.monitor.base address).command) : K.Executors e e' where
  toMonitors := hmonitors
  single_eq hmatch := h.single_eq hmatch
  single f hmatch := h.single f hmatch
  localAddress_eq hmatch := h.localAddress_eq hmatch
  removes dir := h.removeDir dir
  plan_matches op address := hplan op address

/-! ## Whatever is logged -/

/-- Stations match that differ at most in the limiter and the threshold, and whatever was done
matches what differs from it only in logging. -/
def exceptLogging (σ : Type) : Comparison σ σ where
  stations s t := ∃ ticks threshold, t = { s with ticks := ticks, threshold := threshold }
  dids t u := t.deeds = u.deeds
  commands := Eq
  dids_nil := rfl
  dids_append := by
    intro t u t' u' hfirst hlater
    rw [Transcript.deeds_append, Transcript.deeds_append, hfirst, hlater]
  dids_logged rs _ := by
    rw [Station.logged_deeds, Station.logged_deeds]
  accepting_eq := by
    rintro s _ ⟨ticks, threshold, rfl⟩
    rfl
  current_eq := by
    rintro s _ ⟨ticks, threshold, rfl⟩
    rfl

theorem monitors_exceptLogging (m : Monitor σ) : (exceptLogging σ).Monitors m m where
  pollCeiling_eq := rfl
  maxWait_eq := rfl
  clock_eq := by
    rintro s _ ⟨ticks, threshold, rfl⟩
    rfl
  current := by
    rintro s _ f ⟨ticks, threshold, rfl⟩
    exact ⟨ticks, threshold, rfl⟩
  draws := by
    rintro previous ceiling s _ ⟨ticks, threshold, rfl⟩
    exact ⟨rfl, rfl, ticks, threshold, rfl⟩
  ticks := by
    rintro message s _ ⟨ticks, threshold, rfl⟩
    refine ⟨rfl, ?_, ?_⟩
    · exact (m.tick_deeds message _).trans (m.tick_deeds message _).symm
    · rw [m.tick_station, m.tick_station]
      exact ⟨_, threshold, rfl⟩
  runs := by
    rintro read listener known c _ watch rfl s _ ⟨ticks, threshold, rfl⟩
    refine ⟨?_, ?_, ticks, threshold, ?_⟩
    · rw [Act.runCommand_value, Act.runCommand_value]
    · exact (Act.runCommand_deeds ..).trans (Act.runCommand_deeds ..).symm
    · rw [Act.runCommand_station, Act.runCommand_station]
      exact s.after_withLogging _ ticks threshold _
  pauses := by
    rintro ms patience s _ ⟨ticks, threshold, rfl⟩
    have hstation : (Act.pause m.site ms patience
          { s with ticks := ticks, threshold := threshold }).station =
        { (Act.pause m.site ms patience s).station with
          ticks := ticks, threshold := threshold } := by
      rw [Act.pause_station, Act.pause_station]
      exact s.after_withLogging _ ticks threshold _
    have hvalue : (Act.pause m.site ms patience s).value =
        (Act.pause m.site ms patience
          { s with ticks := ticks, threshold := threshold }).value := by
      rw [Act.pause_value, Act.pause_value, hstation]
    refine ⟨hvalue, ?_, ticks, threshold, hstation⟩
    have hdeeds := Act.pause_deeds m.site ms patience s
    rw [hvalue] at hdeeds
    exact hdeeds.trans (Act.pause_deeds ..).symm
  status_matches _ := rfl
  abort_matches _ := rfl
  list_matches _ := rfl

theorem executors_exceptLogging (e : Executor σ) : (exceptLogging σ).Executors e e where
  toMonitors := monitors_exceptLogging e.monitor
  single_eq := by
    rintro s _ ⟨ticks, threshold, rfl⟩
    rfl
  single := by
    rintro s _ f ⟨ticks, threshold, rfl⟩
    exact ⟨ticks, threshold, rfl⟩
  localAddress_eq := by
    rintro s _ ⟨ticks, threshold, rfl⟩
    rfl
  removes := by
    rintro dir s _ ⟨ticks, threshold, rfl⟩
    exact ⟨rfl, rfl, ticks, threshold, rfl⟩
  plan_matches _ _ := rfl

end Comparison

namespace Executor

variable {σ : Type} (e : Executor σ) (op : Operation) (s : Station σ)

/-! ## What an execution gives and leaves -/

theorem localAddress_apply :
    ∃ address did, e.localAddress s = ⟨address, did, s⟩ ∧ did.deeds = [] := by
  cases hresult : e.monitor.site.localAddress s.site with
  | ok address => exact ⟨address, [], by simp [localAddress, hresult], rfl⟩
  | error fault =>
      refine ⟨fallbackAddress, s.logged [.of .warning "operations"
        ["Cannot determine local address", fault.message]], ?_, Station.logged_deeds ..⟩
      simp [localAddress, hresult]

theorem plan_apply :
    ∃ address did,
      e.plan op s = ⟨op.plan e.monitor.base address, did, s⟩ ∧ did.deeds = [] := by
  cases hneeds : op.needsLocalAddress with
  | false => exact ⟨fallbackAddress, [], by simp [plan, hneeds], rfl⟩
  | true =>
      obtain ⟨address, did, happly, hdeeds⟩ := e.localAddress_apply s
      exact ⟨address, did, by simp [plan, hneeds, happly], hdeeds⟩

/-- Carries out the plan of an operation. -/
def carryOut (p : Plan) : Act σ (Except Failure Report) :=
  match p.execution with
  | .monitored => do return .ok (← e.runMonitored op p.command)
  | .fileWait mask => do return .ok (.monitored (← e.monitor.waitForFile mask))
  | .once q => e.runOnce op p.command q

theorem execute_of_not_accepting (haccepting : s.accepting = false) :
    e.execute op s = ⟨.error .poolShutDown, [], s⟩ := by
  simp [execute, haccepting]

theorem execute_of_accepting (haccepting : s.accepting = true) :
    ∃ address did,
      e.execute op s =
        ⟨(e.carryOut op (op.plan e.monitor.base address) s).value,
          did ++ (e.carryOut op (op.plan e.monitor.base address) s).did,
          (e.carryOut op (op.plan e.monitor.base address) s).station⟩ ∧
      did.deeds = [] := by
  obtain ⟨address, did, happly, hdeeds⟩ := e.plan_apply op s
  refine ⟨address, did ++ s.logged [.of .info "operations" ["Executing", op.name]], ?_, ?_⟩
  · unfold execute
    simp only [Act.bind_apply, Act.look_apply, Act.log_apply, haccepting, if_true, happly,
      List.nil_append, List.append_assoc]
    unfold carryOut
    cases (op.plan e.monitor.base address).execution <;> rfl
  · simp [hdeeds]

section Once

variable (c : Command) (q : Question)

/-- What the site does when a command is run once. -/
def onceRun : Course Ending × σ :=
  e.monitor.site.run c (.on (some .fresh) none) s.site

theorem runOnce_deeds : (e.runOnce op c q s).did.deeds = [.ran c] := by
  simp only [runOnce, Act.bind_apply, Act.change_apply, Act.look_apply,
    Transcript.deeds_append, Act.runCommand_deeds, List.nil_append]
  cases (Act.runCommand e.monitor.site Answer.listener (.start q) c
      (.on (some .fresh) none) { s with single := some .fresh }).value.2.mapError
      Break.failure with
  | error f => rfl
  | ok o => cases o <;> simp [RunOutcome.isAbort]

theorem runOnce_station :
    (e.runOnce op c q s).station =
      { ({ s with site := (e.onceRun s c).2, single := some .fresh } : Station σ).after
          (e.onceRun s c).1.happenings with single := none } := by
  simp only [runOnce, Act.bind_apply, Act.change_apply, Act.look_apply,
    Act.runCommand_station]
  cases (Act.runCommand e.monitor.site Answer.listener (.start q) c
      (.on (some .fresh) none) { s with single := some .fresh }).value.2.mapError
      Break.failure with
  | error f => rfl
  | ok o => cases o <;> rfl

end Once

section Monitored

variable (c : Command)

/-- The station once what an operation asks to be removed has been removed. -/
def cleared : Station σ :=
  match op.toRemove? with
  | some dir => { s with site := (e.monitor.site.remove dir s.site).2 }
  | none => s

theorem cleanUp_deeds :
    (e.cleanUp op s).did.deeds = (op.toRemove?.map Entry.removal).toList := by
  unfold cleanUp
  cases op.toRemove? with
  | none => rfl
  | some dir => simp [Act.remove]

theorem cleanUp_station : (e.cleanUp op s).station = e.cleared op s := by
  unfold cleanUp cleared
  cases op.toRemove? with
  | none => rfl
  | some dir => rfl

theorem runMonitored_of_failure (hfailed : (e.monitor.submit c s).value.isSuccess = false) :
    e.runMonitored op c s =
      ⟨.monitored (e.monitor.submit c s).value, (e.monitor.submit c s).did,
        (e.monitor.submit c s).station⟩ := by
  simp [runMonitored, hfailed]

/-- Whether what is to be removed could be removed makes no difference to the report. -/
theorem runMonitored_of_success (hsuccess : (e.monitor.submit c s).value.isSuccess = true) :
    ∃ did,
      e.runMonitored op c s =
        ⟨.monitored (e.monitor.submit c s).value, (e.monitor.submit c s).did ++ did,
          e.cleared op (e.monitor.submit c s).station⟩ ∧
      did.deeds = (op.toRemove?.map Entry.removal).toList := by
  have hdeeds := e.cleanUp_deeds op (e.monitor.submit c s).station
  have hstation := e.cleanUp_station op (e.monitor.submit c s).station
  cases hresult : (e.cleanUp op (e.monitor.submit c s).station).value with
  | ok done =>
      refine ⟨(e.cleanUp op (e.monitor.submit c s).station).did, ?_, hdeeds⟩
      simp [runMonitored, hsuccess, hresult, hstation]
  | error fault =>
      refine ⟨(e.cleanUp op (e.monitor.submit c s).station).did ++
        (e.cleared op (e.monitor.submit c s).station).logged
          [.of .warning "operations" ["Cleanup after", op.name, fault.message]], ?_, ?_⟩
      · simp [runMonitored, hsuccess, hresult, hstation]
      · simp [hdeeds]

end Monitored

end Executor

end SprayWatch
