import Mathlib
import SprayWatch.Program
import SprayWatch.Proofs.DeletionLines
import SprayWatch.Proofs.FileWaits
import SprayWatch.Proofs.Removals
import SprayWatch.Rehearsal

/-!
# Exit codes

The exit code is all that a script learns of an operation.  What it says is traced back here to what
the tool printed and how it ended: to the one command of a deletion or of a listing, and to the
outcome of whatever is monitored.
-/

namespace SprayWatch

/-! ## What the output of a single command says -/

/-- A deletion is successful, and what it says last of how far it got is that the file is gone. -/
structure Course.Deletes (answer : Course Ending) : Prop where
  exited : answer.ending = some (.exited .finished)
  told : Output.Deletion.LastTells answer.lines .deleted

namespace Answer

theorem foldl_feed_deletion (stage : Output.Deletion) (lines : List String) :
    lines.foldl feed (.deletion stage) = .deletion (lines.foldl Output.Deletion.feed stage) := by
  induction lines generalizing stage with
  | nil => rfl
  | cons line lines ih => exact ih (stage.feed line)

theorem foldl_feed_listing (l : Output.Listing) (lines : List String) :
    lines.foldl feed (.listing l) = .listing (lines.foldl Output.Listing.feed l) := by
  induction lines generalizing l with
  | nil => rfl
  | cons line lines ih =>
      have hfed : feed (.listing l) line = .listing (l.feed line) := rfl
      rw [List.foldl_cons, hfed, ih, List.foldl_cons]

theorem report_deletion_isSuccess {lines : List String} :
    (lines.foldl feed (.start .deletion)).report.isSuccess = true ↔
      Output.Deletion.LastTells lines .deleted := by
  rw [start, foldl_feed_deletion, ← Output.Deletion.foldl_feed_eq_deleted]
  simp [report, Report.isSuccess]

theorem report_listing_isSuccess {mask : String} {lines : List String} :
    (lines.foldl feed (.start (.listing mask))).report.isSuccess = true ↔
      ∀ line ∈ lines, Output.isErrorRecord line = false := by
  rw [start, foldl_feed_listing]
  simp [report, Report.isSuccess, Output.Listing.foldl_feed_hasErrors, Output.Listing.start]

end Answer

/-! ## When an operation has succeeded -/

/-- Is there a report, and does it tell of a success? -/
def Succeeded (result : Except Failure Report) : Prop :=
  ∃ report, result = .ok report ∧ report.isSuccess = true

theorem succeeded_ok {report : Report} :
    Succeeded (.ok report) ↔ report.isSuccess = true := by
  simp [Succeeded]

theorem succeeded_monitored {outcome : Outcome} :
    Succeeded (.ok (.monitored outcome)) ↔ outcome = .completed .success := by
  rw [succeeded_ok]
  exact Outcome.isSuccess_iff

namespace Executor

variable {σ : Type} (e : Executor σ) (op : Operation) (s : Station σ)

/-- Is an operation successful?  For a deletion and for a listing it is their one command that
decides, for everything else the outcome of what is monitored. -/
def Achieves : Operation → Prop
  | .delete name =>
    (e.onceRun s (e.monitor.base.withArgs ["action=remove", "name=" ++ name])).1.Deletes
  | .list mask =>
    (e.onceRun s (e.monitor.base.withArgs ["action=list", "name=" ++ mask])).1.Lists
  | .poll mask => (e.monitor.waitForFile mask s).value = .completed .success
  | op => (e.monitor.submit (e.plan op s).value.command s).value = .completed .success

section Once

variable (c : Command)

theorem runOnce_value (q : Question) :
    (e.runOnce op c q s).value =
      match (e.onceRun s c).1.break? with
      | some b => .error b.failure
      | none => .ok ((e.onceRun s c).1.lines.foldl Answer.feed (.start q)).report := by
  simp only [runOnce, Act.bind_apply, Act.change_apply, Act.look_apply, Act.runCommand_value,
    Course.break?, onceRun, Answer.listener]
  cases Ending.outcome? (e.monitor.site.run c (Watch.on (some .fresh) none) s.site).1.ending with
  | error b => rfl
  | ok o => cases o <;> rfl

/-- A command that is run once tells of a success exactly if it is itself successful and what was
read of its output says so. -/
theorem succeeded_runOnce {q : Question} :
    Succeeded (e.runOnce op c q s).value ↔
      (e.onceRun s c).1.ending = some (.exited .finished) ∧
        ((e.onceRun s c).1.lines.foldl Answer.feed (.start q)).report.isSuccess = true := by
  rw [runOnce_value, ← Course.break?_eq_none]
  cases (e.onceRun s c).1.break? with
  | some b => simp [Succeeded]
  | none => simp [succeeded_ok]

theorem succeeded_deletion :
    Succeeded (e.runOnce op c .deletion s).value ↔ (e.onceRun s c).1.Deletes := by
  rw [succeeded_runOnce, Answer.report_deletion_isSuccess]
  constructor
  · intro hboth
    exact ⟨hboth.1, hboth.2⟩
  · intro hdeletes
    exact ⟨hdeletes.exited, hdeletes.told⟩

theorem succeeded_listing {mask : String} :
    Succeeded (e.runOnce op c (.listing mask) s).value ↔ (e.onceRun s c).1.Lists := by
  rw [succeeded_runOnce, Answer.report_listing_isSuccess]
  constructor
  · intro hboth
    exact ⟨hboth.1, hboth.2⟩
  · intro hlists
    exact ⟨hlists.exited, hlists.flawless⟩

end Once

theorem runMonitored_value (c : Command) :
    (e.runMonitored op c s).value = .monitored (e.monitor.submit c s).value := by
  cases hsuccess : (e.monitor.submit c s).value.isSuccess with
  | false => rw [e.runMonitored_of_failure op s c hsuccess]
  | true =>
      obtain ⟨did, happly, -⟩ := e.runMonitored_of_success op s c hsuccess
      rw [happly]

section Accepting

variable (haccepting : s.accepting = true)
include haccepting

theorem execute_value_of_accepting :
    (e.execute op s).value = (e.carryOut op (e.plan op s).value s).value := by
  have hstation : (e.plan op s).station = s := by
    obtain ⟨address, did, happly, -⟩ := e.plan_apply op s
    rw [happly]
  simp only [execute, Act.bind_apply, Act.look_apply, Act.log_apply, haccepting, if_true,
    hstation]
  unfold carryOut
  cases (e.plan op s).value.execution <;> rfl

theorem succeeded_execute : Succeeded (e.execute op s).value ↔ e.Achieves s op := by
  rw [execute_value_of_accepting e op s haccepting]
  have hmonitored : ∀ c, Succeeded (Except.ok (e.runMonitored op c s).value) ↔
      (e.monitor.submit c s).value = .completed .success := by
    intro c
    rw [runMonitored_value]
    exact succeeded_monitored
  cases op with
  | delete name => exact e.succeeded_deletion _ s _
  | list mask =>
      rw [Achieves, ← Monitor.list_eq]
      exact e.succeeded_listing _ s _
  | poll mask => exact succeeded_monitored
  | spray file name cluster overwrite format => exact hmonitored _
  | sprayDirectory dir name cluster overwrite fileNames deleteSource => exact hmonitored _
  | despray name file ip =>
      obtain ⟨address, did, happly, -⟩ := e.plan_apply (.despray name file ip) s
      simp only [Achieves, happly]
      exact hmonitored _

theorem execute_deeds_of_accepting :
    ∃ address,
      (e.execute op s).did.deeds =
        (e.carryOut op (op.plan e.monitor.base address) s).did.deeds := by
  obtain ⟨address, did, happly, hdeeds⟩ := e.execute_of_accepting op s haccepting
  refine ⟨address, ?_⟩
  rw [happly, Transcript.deeds_append, hdeeds, List.nil_append]

theorem execute_delete_deeds (name : String) :
    (e.execute (.delete name) s).did.deeds =
      [.ran (e.monitor.base.withArgs ["action=remove", "name=" ++ name])] := by
  obtain ⟨address, hdeeds⟩ := e.execute_deeds_of_accepting (.delete name) s haccepting
  rw [hdeeds]
  exact e.runOnce_deeds _ s _ _

theorem execute_list_deeds (mask : String) :
    (e.execute (.list mask) s).did.deeds =
      [.ran (e.monitor.base.withArgs ["action=list", "name=" ++ mask])] := by
  obtain ⟨address, hdeeds⟩ := e.execute_deeds_of_accepting (.list mask) s haccepting
  rw [hdeeds, ← Monitor.list_eq]
  exact e.runOnce_deeds _ s _ _

theorem execute_poll_commands (mask : String) :
    (e.execute (.poll mask) s).did.commands = (e.monitor.waitForFile mask s).did.commands := by
  obtain ⟨address, hdeeds⟩ := e.execute_deeds_of_accepting (.poll mask) s haccepting
  have hsame : (e.carryOut (.poll mask) ((Operation.poll mask).plan e.monitor.base address) s).did
      = (e.monitor.waitForFile mask s).did := by
    simp [carryOut, Operation.plan]
  rw [← Transcript.commands_deeds, hdeeds, hsame, Transcript.commands_deeds]

/-- A poll that succeeds has seen a listing that shows a file, and asked for no other after it. -/
theorem Achieves.shows {mask : String} (hachieves : e.Achieves s (.poll mask)) :
    ∃ pattern n,
      Mask.compile mask = .ok pattern ∧
      (e.execute (.poll mask) s).did.commands.length = n + 1 ∧
      (e.monitor.listings mask s n).answer.ShowsFile mask pattern := by
  have hcompleted : (e.monitor.waitForFile mask s).value = .completed .success := hachieves
  cases hcompile : Mask.compile mask with
  | error fault => simp [e.monitor.waitForFile_of_fault mask s hcompile] at hcompleted
  | ok pattern =>
      obtain ⟨n, result, hcloses, hvalue, hcommands⟩ :=
        e.monitor.waitForFile_closesBy hcompile haccepting
      have hresult : result = .ok () :=
        Monitor.waited_handed_eq_completed (hvalue.symm.trans hcompleted)
      subst hresult
      refine ⟨pattern, n, rfl, ?_, ?_⟩
      · rw [e.execute_poll_commands s haccepting, hcommands, List.length_replicate]
      · cases hcloses with
        | brought hreached hbrought => exact Monitor.Exchange.listing?_eq_ok.mp hbrought

end Accepting

/-! ## Shutting down -/

theorem shutdown_deeds : (shutdown s).did.deeds = [] := by
  simp [shutdown, closePool, Act.askStop_deeds]

theorem shutdown_station : (shutdown s).station = { s.stopped with accepting := false } := by
  simp [shutdown, closePool, Act.askStop_station]

end Executor

/-! ## The exit code -/

namespace Program

section Codes

variable {result : Except Failure Report}

theorem exitCode_eq_zero : exitCode result = 0 ↔ Succeeded result := by
  cases result with
  | error f => simp [exitCode, Succeeded]
  | ok report => simp [exitCode, succeeded_ok]

theorem exitCode_eq_one :
    exitCode result = 1 ↔ (∃ report, result = .ok report) ∧ ¬ Succeeded result := by
  cases result with
  | error f => simp [exitCode]
  | ok report => simp [exitCode, succeeded_ok]

theorem exitCode_eq_two : exitCode result = 2 ↔ ∃ f, result = .error f := by
  cases result with
  | error f => simp [exitCode]
  | ok report => cases hsuccess : report.isSuccess <;> simp [exitCode, hsuccess]

end Codes

variable {σ : Type}

theorem perform_apply (e : Executor σ) (op : Operation) (s : Station σ) :
    perform e op s =
      ⟨(e.execute op s).value,
        (e.execute op s).did ++ (Executor.shutdown (e.execute op s).station).did,
        (Executor.shutdown (e.execute op s).station).station⟩ := by
  simp [perform]

theorem perform_value (e : Executor σ) (op : Operation) (s : Station σ) :
    (perform e op s).value = (e.execute op s).value := by
  rw [perform_apply]

/-- When everything is carried out, the executor is down. -/
theorem perform_station (e : Executor σ) (op : Operation) (s : Station σ) :
    (perform e op s).station =
      { (e.execute op s).station.stopped with accepting := false } := by
  rw [perform_apply]
  exact Executor.shutdown_station _

theorem perform_deeds (e : Executor σ) (op : Operation) (s : Station σ) :
    (perform e op s).did.deeds = (e.execute op s).did.deeds := by
  rw [perform_apply, Transcript.deeds_append, Executor.shutdown_deeds, List.append_nil]

theorem perform_commands (e : Executor σ) (op : Operation) (s : Station σ) :
    (perform e op s).did.commands = (e.execute op s).did.commands := by
  rw [← Transcript.commands_deeds, perform_deeds, Transcript.commands_deeds]

/-- The exit code of the program, once there is something to carry out: 2 if there is no report, and
else 0 or 1 according to what the tool printed and how it ended.  A deletion or a listing runs one
command, whatever becomes of that.  The executor is down when the report is told. -/
theorem runAt_exitCode (host : Host σ) (words : List String) (draws : Backoff.Draws)
    (files : Files.Tree) (a : Assignment) (hprepared : prepare words files = .ok a) :
    let e := a.executor host
    let s := a.station host draws files
    let executed := e.execute a.op s
    let performed := perform e a.op s
    let session := runAt host words draws files
    (session.exitCode = 2 ↔ ∃ f, executed.value = .error f) ∧
    (session.exitCode = 0 ↔ e.Achieves s a.op) ∧
    (session.exitCode = 1 ↔ (∃ report, executed.value = .ok report) ∧ ¬ e.Achieves s a.op) ∧
    (∀ mask, a.op = .poll mask → session.exitCode = 0 →
      ∃ pattern n,
        Mask.compile mask = .ok pattern ∧
        performed.did.commands.length = n + 1 ∧
        (e.monitor.listings mask s n).answer.ShowsFile mask pattern) ∧
    (∀ name, a.op = .delete name →
      performed.did.deeds = [.ran (a.base.withArgs ["action=remove", "name=" ++ name])]) ∧
    (∀ mask, a.op = .list mask →
      performed.did.deeds = [.ran (a.base.withArgs ["action=list", "name=" ++ mask])]) ∧
    performed.value = executed.value ∧
    performed.did = executed.did ++ (Executor.shutdown executed.station).did ∧
    performed.station = { executed.station.stopped with accepting := false } ∧
    session.prints =
      .record Log.startup ::
        ((Transcript.records performed.did).map .record ++ tell performed.value) ∧
    session.files = host.files performed.station.site := by
  intro e s executed performed session
  have haccepting : s.accepting = true := rfl
  have hsession : session = a.carryOut host draws files := by
    simp only [session, runAt, hprepared]
  have hvalue : performed.value = executed.value := perform_value e a.op s
  have hcode : session.exitCode = exitCode executed.value := by
    rw [hsession, ← hvalue]
    rfl
  have hachieves : Succeeded executed.value ↔ e.Achieves s a.op :=
    e.succeeded_execute a.op s haccepting
  have hdeeds : performed.did.deeds = executed.did.deeds := perform_deeds e a.op s
  rw [hcode, exitCode_eq_zero, exitCode_eq_one, exitCode_eq_two, hachieves]
  refine ⟨Iff.rfl, Iff.rfl, Iff.rfl, ?_, ?_, ?_, hvalue, ?_, perform_station e a.op s, ?_, ?_⟩
  · intro mask hop hpoll
    rw [hop] at hpoll
    obtain ⟨pattern, n, hcompile, hlength, hshows⟩ := hpoll.shows e s haccepting
    refine ⟨pattern, n, hcompile, ?_, hshows⟩
    rw [← hlength]
    simp only [performed, perform_commands, hop]
  · intro name hop
    rw [hdeeds]
    simp only [executed, hop]
    exact e.execute_delete_deeds s haccepting name
  · intro mask hop
    rw [hdeeds]
    simp only [executed, hop]
    exact e.execute_list_deeds s haccepting mask
  · simp only [performed, executed, perform_apply]
  · rw [hsession]
    rfl
  · rw [hsession]
    rfl

/-! ## A deletion at a rehearsal -/

/-- A host at which deletions write some lines and exit with success. -/
def deleting (lines : List String) : Host Rehearsal :=
  let script : Rehearsal.Script := [("remove", [⟨false, lines, false, .exited .finished⟩])]
  ⟨Rehearsal.site, fun files _ => .start script files, Rehearsal.files⟩

def deletionWords : List String := ["-c", "/c", "delete", "--name", "zzlc::csv"]

def deletionFiles : Files.Tree :=
  ⟨[(["d"], .file 0o755 []),
    (["c"], .file 0o644 (Text.toBytes "[[\"/d\",\"mythor\"]]"))], []⟩

def deletionAssignment : Assignment where
  config := ⟨⟨"/d", "mythor", none, none, none, none, none, none, none⟩, .usual, .info⟩
  op := .delete "zzlc::csv"
  base := ⟨⟨"/d"⟩, ["server=mythor"]⟩

theorem prepare_deletion : prepare deletionWords deletionFiles = .ok deletionAssignment := by
  have hread : CommandLine.read deletionWords =
      .ok ⟨⟨"/c"⟩, "delete", ⟨[⟨CommandLine.nameParameter, ["zzlc::csv"], 1⟩], .newWord⟩⟩ := by
    rfl
  have hload : Config.load deletionFiles ⟨"/c"⟩ = .ok deletionAssignment.config := by cbv
  have hbase : deletionAssignment.config.connection.baseCommand deletionFiles =
      .ok deletionAssignment.base := by cbv
  simp only [prepare, hread, hload, hbase]
  rfl

/-- The same lines in another order tell of no success. -/
theorem runAt_exitCode_deletion :
    let telling := deleting ["Removing zzlc::csv", "Deleted File zzlc::csv"]
    let retracting := deleting ["Deleted File zzlc::csv", "Removing zzlc::csv"]
    prepare deletionWords deletionFiles = .ok deletionAssignment ∧
      (runAt telling deletionWords ⟨[]⟩ deletionFiles).exitCode = 0 ∧
      (runAt retracting deletionWords ⟨[]⟩ deletionFiles).exitCode ≠ 0 := by
  intro telling retracting
  refine ⟨prepare_deletion, ?_, ?_⟩
  · obtain ⟨-, hzero, -⟩ :=
      runAt_exitCode telling deletionWords ⟨[]⟩ deletionFiles deletionAssignment prepare_deletion
    exact hzero.mpr ⟨by decide +kernel, by decide +kernel⟩
  · obtain ⟨-, hzero, -⟩ :=
      runAt_exitCode retracting deletionWords ⟨[]⟩ deletionFiles deletionAssignment
        prepare_deletion
    intro hcode
    have hdeletes := hzero.mp hcode
    exact absurd hdeletes.told (by decide +kernel)

end Program

end SprayWatch
